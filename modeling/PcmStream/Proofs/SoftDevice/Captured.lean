/-
  Captured input is delivered once and in order.

  Bytes are pushed into a software device at any time, whether it belongs to a stream or not, and
  wait there.  Only a tick that calls back an input stream takes any of them: whole frames, as many
  as are waiting and fit into the period, off the front.  `tick_input` says where in the period they
  are then and what the rest of the period holds, `tick_capture` that this is what the application
  drains, and `tick_output` that an output stream takes nothing.

  Everything else that can happen to the device or to its stream leaves the waiting bytes alone
  (`balanced_run`), failing or not.  So the balance of `InputRun` holds at every point of every run:
  what the periods held of the frames taken, and then what is waiting, is what was pushed.
-/
import PcmStream.Proofs.SoftDevice.Rig
import PcmStream.Proofs.SoftDevice.Period
import PcmStream.Proofs.Callback.SilenceGuard

namespace PcmStream

open Bench (Slot)

/-! ## One tick -/

namespace SoftDevice

variable {d : SoftDevice} {frames : Nat} {time : Timestamp} {context : Context} {t : Ticked}

/-- A tick of an input callback takes as many whole frames off the waiting input as the period has
room for, and the callback is handed a period that holds them. -/
theorem tick_input {c : Callback} (h : d.tick frames time context = some t)
    (hc : d.callback = some c) (hdirection : c.direction = .input) :
    let k := min frames (d.input.length / c.config.frameBytes)
    let p := c.process t.period.view t.period.memory time context
    t.device =
      { d with callback := some p.callback, input := d.input.drop (k * c.config.frameBytes) } ∧
    t.context = p.context ∧ t.record = p.record ∧
    t.period.frames = frames ∧ t.period.channels = c.config.channels ∧
    t.period.format = c.config.format ∧
    t.period.Holds d.input (if c.preclear then 0 else garbage) k := by
  obtain ⟨c', -, hc', ht⟩ := exists_of_tick h
  obtain rfl := Option.some.inj (hc.symm.trans hc')
  obtain ⟨hinput, hshape⟩ := d.makePeriod_input hdirection frames
  -- The callback leaves the memory as it is, so the period is the one that was made.
  have hmemory := (Callback.process_input hdirection (d.makePeriod c frames).1.view
    (d.makePeriod c frames).1.memory time context).1
  simp only [hmemory, hinput] at ht
  subst ht
  exact ⟨rfl, rfl, rfl, hshape⟩

/-- What serves an input callback drains the view of the period over the memory that holds the frames
taken.  Callback, queues and record are what that leaves. -/
theorem tick_capture {c : Callback} {server : Server Query}
    (h : d.tick frames time context = some t) (hc : d.callback = some c)
    (hdirection : c.direction = .input) (hserver : c.handler = .capture server) :
    let drained := server.drain t.period.view t.period.memory context.patchbay
    t.device.callback.map Callback.handler = some (.capture drained.server) ∧
      t.context.patchbay = drained.patchbay ∧ t.record = drained.record := by
  obtain ⟨hdevice, hcontext, hrecord, -⟩ := tick_input h hc hdirection
  obtain ⟨hhandler, hpatchbay, hkept⟩ :=
    Callback.process_capture hdirection hserver t.period.view t.period.memory time context
  refine ⟨?_, ?_, ?_⟩
  · rw [hdevice]
    exact congrArg some hhandler
  · rw [hcontext]
    exact hpatchbay
  · rw [hrecord]
    exact hkept

/-- What the first frames of the period hold and what is waiting afterwards was waiting before. -/
theorem conserved_of_tick {c : Callback} (h : d.tick frames time context = some t)
    (hc : d.callback = some c) (hdirection : c.direction = .input) :
    let k := min frames (d.input.length / c.config.frameBytes)
    (t.period.view.firstFrames t.period.memory t.period.format k).flatMap Sample.toBytes ++
      t.device.input = d.input := by
  intro k
  obtain ⟨hdevice, -, -, -, hchannels, hformat, hholds⟩ := tick_input h hc hdirection
  have hcount : k * t.period.channels * t.period.format.bytes = k * c.config.frameBytes := by
    rw [hchannels, hformat, Nat.mul_assoc]
    rfl
  have hwaiting : k * c.config.frameBytes ≤ d.input.length :=
    Nat.mul_le_of_le_div _ _ _ (Nat.min_le_right ..)
  have hfirst := hholds.firstBytes_eq (by rwa [hcount])
  rw [hcount] at hfirst
  rw [hfirst, hdevice]
  exact List.take_append_drop ..

/-- A tick of an output callback takes nothing. -/
theorem tick_output {c : Callback} (h : d.tick frames time context = some t)
    (hc : d.callback = some c) (hdirection : c.direction = .output) :
    t.device.input = d.input := by
  obtain ⟨c', -, hc', rfl⟩ := exists_of_tick h
  obtain rfl := Option.some.inj (hc.symm.trans hc')
  exact congrArg Prod.snd (d.makePeriod_output hdirection frames)

end SoftDevice

/-! ## Everything else -/

/-- No move of the stream touches the waiting input. -/
theorem Turn.input_eq {s : Stream SoftDevice} {m : Move} {o : Outcome SoftDevice}
    (h : Turn s m o) : o.stream.device.input = s.device.input := h.sameMake.2

theorem Stream.input_drop (s : Stream SoftDevice) : s.drop.1.input = s.device.input := by
  rw [s.drop_device]
  split
  · rfl
  · exact (Turn.of_close s).input_eq

/-! ## The balance -/

namespace RigMove

/-- The bytes that a move pushes. -/
def pushes : RigMove → List UInt8
  | pushInput bytes => bytes
  | _ => []

/-- The bytes that a move hands to the callback of an input stream: those of the first frames of the
period, as many as are waiting and as it has. -/
def hands (slot : Slot SoftDevice) : RigMove → List UInt8
  | tick frames time context =>
    match slot, slot.device.tick frames time { context with stats := slot.stats } with
    | .owned s, some t =>
      if s.direction = .input then
        let k := min frames (s.device.input.length / s.config.frameBytes)
        (t.period.view.firstFrames t.period.memory t.period.format k).flatMap Sample.toBytes
      else []
    | _, _ => []
  | _ => []

variable {slot : Slot SoftDevice}

/-- A tick hands over what it takes off the waiting input. -/
theorem balanced_tick (h : slot.InStep) (frames : Nat) (time : Timestamp) (context : Context) :
    slot.device.input = (tick frames time context).hands slot ++
      ((tick frames time context).run slot).device.input := by
  cases ht : slot.device.tick frames time { context with stats := slot.stats } with
  | none =>
    have hhands : (tick frames time context).hands slot = [] := by
      simp only [hands, ht]
    have hrun : (tick frames time context).run slot = slot := by
      simp only [run, ht]
    rw [hhands, hrun, List.nil_append]
  | some t =>
    obtain ⟨s, rfl, hstarted⟩ := (h.isSome_tick_iff _ _ _).mp (by rw [ht]; rfl)
    have hin : s.InStep := h
    obtain ⟨c, hc⟩ := Option.isSome_iff_exists.mp (hin.registered hstarted)
    obtain ⟨-, hconfig, hdirection⟩ := hin.callback c hc
    have hrun : ((tick frames time context).run (.owned s)).device.input = t.device.input := by
      simp only [run, ht]
      rfl
    rw [hrun]
    simp only [hands, ht]
    -- The callback that is called back has the direction and the configuration of the stream.
    by_cases hd : s.direction = .input
    · rw [if_pos hd]
      have hconserved := SoftDevice.conserved_of_tick ht hc (hdirection.trans hd)
      rw [hconfig] at hconserved
      exact hconserved.symm
    · rw [if_neg hd, List.nil_append]
      have houtput : c.direction = .output := by
        rw [hdirection]
        cases hs : s.direction with
        | input => exact absurd hs hd
        | output => rfl
      exact (SoftDevice.tick_output ht hc houtput).symm

/-- A move that pushes nothing and hands nothing over is balanced if it leaves the waiting input. -/
theorem balanced_of_eq {m : RigMove} (hpushes : m.pushes = []) (hhands : m.hands slot = [])
    (hinput : (m.run slot).device.input = slot.device.input) :
    slot.device.input ++ m.pushes = m.hands slot ++ (m.run slot).device.input := by
  rw [hpushes, hhands, hinput, List.append_nil, List.nil_append]

/-- Every move takes off the waiting input what it hands over, and adds to it what it pushes. -/
theorem balanced_run (h : slot.InStep) (m : RigMove) :
    slot.device.input ++ m.pushes = m.hands slot ++ (m.run slot).device.input := by
  cases m with
  | new direction =>
    refine balanced_of_eq rfl rfl ?_
    cases slot <;> rfl
  | «open» direction requested handler options =>
    refine balanced_of_eq rfl rfl ?_
    cases slot with
    | owned s => rfl
    | leftBehind device => rfl
    | free device =>
      -- Opening configures a stream over the device, and drops it again if that fails.
      have hturn := Turn.of_configure { device, direction } requested handler options
      cases hresult : (({ device, direction } : Stream SoftDevice).configure requested handler
          options).result with
      | ok =>
        simp only [run, Stream.open, hresult]
        exact hturn.input_eq
      | error e =>
        simp only [run, Stream.open, hresult]
        exact (Stream.input_drop _).trans hturn.input_eq
  | stream m =>
    refine balanced_of_eq rfl rfl ?_
    cases slot with
    | free device => rfl
    | leftBehind device => rfl
    | owned s => exact (m.turn s).input_eq
  | drop =>
    refine balanced_of_eq rfl rfl ?_
    cases slot with
    | free device => rfl
    | leftBehind device => rfl
    | owned s => exact s.input_drop
  | setFaults faults =>
    refine balanced_of_eq rfl rfl ?_
    cases slot <;> rfl
  | pushInput bytes => cases slot <;> rfl
  | tick frames time context =>
    show slot.device.input ++ [] = _
    rw [List.append_nil]
    exact balanced_tick h frames time context

end RigMove

/-- A rig in use. -/
structure InputRun where
  /-- The device and its stream. -/
  slot : Slot SoftDevice
  /-- The bytes pushed, in order. -/
  pushed : List UInt8 := []
  /-- The bytes handed to callbacks, in order. -/
  delivered : List UInt8 := []

namespace InputRun

/-- Make a move. -/
def run (r : InputRun) (m : RigMove) : InputRun where
  slot := m.run r.slot
  pushed := r.pushed ++ m.pushes
  delivered := r.delivered ++ m.hands r.slot

/-- Make moves in order. -/
def runAll (r : InputRun) (moves : List RigMove) : InputRun := moves.foldl run r

/-- Stream and device are in step, and what was handed over and what is waiting is what was
pushed. -/
structure Balanced (r : InputRun) : Prop where
  /-- Stream and device are in step. -/
  inStep : r.slot.InStep
  /-- What was handed over and what is waiting is what was pushed. -/
  conserved : r.delivered ++ r.slot.device.input = r.pushed

theorem Balanced.run {r : InputRun} (h : r.Balanced) (m : RigMove) : (r.run m).Balanced where
  inStep := RigMove.inStep_run h.inStep m
  conserved := by
    have hmove := RigMove.balanced_run h.inStep m
    show (r.delivered ++ m.hands r.slot) ++ (m.run r.slot).device.input = r.pushed ++ m.pushes
    rw [List.append_assoc, ← hmove, ← List.append_assoc, h.conserved]

theorem Balanced.runAll {r : InputRun} (h : r.Balanced) (moves : List RigMove) :
    (r.runAll moves).Balanced := by
  induction moves generalizing r with
  | nil => exact h
  | cons m moves ih => exact ih (h.run m)

/-- Captured input is delivered once and in order.  After any moves of anybody, what callbacks of
input streams were handed and what is waiting is what was pushed.  A tick without a callback changes
nothing, and one of an output stream takes nothing.  A tick of an input stream takes as many whole
frames off the waiting bytes as the period has room for; its callback is handed a period that reads
as these frames, and as zero or garbage beyond them, in either layout.  An incomplete frame stays. -/
theorem captured_once (capabilities : Capabilities) (moves : List RigMove) :
    let r := runAll { slot := .free { capabilities } } moves
    let d := r.slot.device
    r.delivered ++ d.input = r.pushed ∧
    (∀ frames time context, d.tick frames time { context with stats := r.slot.stats } = none →
      (RigMove.tick frames time context).run r.slot = r.slot) ∧
    ∀ frames time context t, d.tick frames time context = some t →
      ∃ s c, r.slot = .owned s ∧ s.state = .started ∧ d.callback = some c ∧
        c.direction = s.direction ∧
        (s.direction = .output → t.device.input = d.input) ∧
        (s.direction = .input →
          let width := s.config.channels * s.config.format.bytes
          let k := min frames (d.input.length / width)
          let p := c.process t.period.view t.period.memory time context
          t.device.callback = some p.callback ∧ t.context = p.context ∧ t.record = p.record ∧
          t.period.frames = frames ∧ t.period.channels = s.config.channels ∧
          t.period.format = s.config.format ∧
          t.period.Holds d.input (if c.preclear then 0 else garbage) k ∧
          t.device.input = d.input.drop (k * width) ∧
          t.device.input.length % width = d.input.length % width) := by
  intro r d
  have hfresh : Balanced { slot := .free { capabilities } } :=
    ⟨SoftDevice.Idle.mk rfl rfl rfl rfl, rfl⟩
  have hr : r.Balanced := hfresh.runAll moves
  refine ⟨hr.conserved, ?_, ?_⟩
  · intro frames time context ht
    have htick : r.slot.device.tick frames time { context with stats := r.slot.stats } = none := ht
    simp only [RigMove.run, htick]
  · intro frames time context t ht
    obtain ⟨s, hs, hstarted⟩ := (hr.inStep.isSome_tick_iff _ _ _).mp (by
      show (d.tick frames time context).isSome = true
      rw [ht]
      rfl)
    have hin : s.InStep := by
      have h := hr.inStep
      rwa [hs] at h
    have hdevice : d = s.device := by
      show r.slot.device = s.device
      rw [hs]
      rfl
    obtain ⟨c, hc⟩ := Option.isSome_iff_exists.mp (hin.registered hstarted)
    obtain ⟨-, hconfig, hdirection⟩ := hin.callback c hc
    rw [← hdevice] at hc
    refine ⟨s, c, hs, hstarted, hc, hdirection, ?_, ?_⟩
    · intro hd
      exact SoftDevice.tick_output ht hc (hdirection.trans hd)
    · intro hd width k p
      obtain ⟨hafter, hcontext, hrecord, hframes, hchannels, hformat, hholds⟩ :=
        SoftDevice.tick_input ht hc (hdirection.trans hd)
      rw [hconfig] at hafter hchannels hformat hholds
      have hinput : t.device.input = d.input.drop (k * width) := congrArg SoftDevice.input hafter
      have hwaiting : k * width ≤ d.input.length :=
        Nat.mul_le_of_le_div _ _ _ (Nat.min_le_right ..)
      refine ⟨congrArg SoftDevice.callback hafter, hcontext, hrecord, hframes, hchannels, hformat,
        hholds, hinput, ?_⟩
      -- Whole frames are taken, so the incomplete one stays.
      rw [hinput, List.length_drop, Nat.mul_comm]
      exact Nat.sub_mul_mod (by rwa [Nat.mul_comm])

/-- Half a frame waits until it is completed. -/
example :
    let r := runAll { slot := .free { capabilities := { planar := true } } }
      [.pushInput [1, 2, 3, 4, 5], .open .input { channels := 2, format := .i8 } .none {},
        .stream .start, .tick 3 (.ofNanos 0) {}, .tick 3 (.ofNanos 1) {}, .pushInput [6, 7],
        .tick 3 (.ofNanos 2) {}]
    r.delivered = [1, 2, 3, 4, 5, 6] ∧ r.slot.device.input = [7] := by decide

end InputRun

end PcmStream
