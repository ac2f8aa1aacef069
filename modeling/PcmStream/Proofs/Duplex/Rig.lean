/-
  Runs of a full-duplex session over two software devices.

  A rig is a pair of devices that wait for their session, are in it, or have been left behind by it:
  a `Bench.DuplexSlot`.  A `DuplexMove` is anything that anybody can do to it, in any order: the
  session comes and goes, is started, stopped and closed, and each device is driven by a hand of its
  own, which replaces faults, queues input and lets time pass.

  Along every run that begins with fresh devices each stream of the session is in step with its
  device (`inStep_runAll`).  So a callback is only ever issued for the direction of the stream whose
  device issues it.

  The test bench for sessions is such a rig (`DuplexBench.slot_run`).
-/
import PcmStream.Proofs.Duplex.Sessions
import PcmStream.Proofs.SoftDevice.LockStep
import PcmStream.Proofs.SoftDevice.Period
import PcmStream.Proofs.Callback.SilenceGuard
import PcmStream.Bench.SoftDuplex

namespace PcmStream

open Bench (DuplexSlot)

/-! ## The streams of a session -/

namespace Duplex

/-- The stream of a direction. -/
def stream {σ : Type} (s : Duplex σ σ) : Direction → Stream σ
  | .input => s.input
  | .output => s.output

/-- The session with the stream of a direction replaced. -/
def withStream {σ : Type} (s : Duplex σ σ) (d : Direction) (stream : Stream σ) : Duplex σ σ :=
  match d with
  | .input => { s with input := stream }
  | .output => { s with output := stream }

theorem stream_withStream {σ : Type} (s : Duplex σ σ) (d : Direction) (stream : Stream σ)
    (e : Direction) : (s.withStream d stream).stream e = if e = d then stream else s.stream e := by
  cases d <;> cases e <;> rfl

variable {σ : Type} [Device σ]

/-- An operation on a session moves each of its streams, and leaves the clock readings alone. -/
theorem stream_run (s : Duplex σ σ) (m : SessionMove) (d : Direction) :
    ∃ moves, (m.run s).session.stream d = (s.stream d).after moves := by
  cases m with
  | start =>
    show ∃ moves, s.start.session.stream d = (s.stream d).after moves
    rcases s.start_cases with ⟨e, -, heq⟩ | ⟨-, -, heq⟩ | ⟨e, -, -, heq⟩
    · rw [heq]
      cases d with
      | input => exact ⟨[.start], rfl⟩
      | output => exact ⟨[], rfl⟩
    · rw [heq]
      cases d with
      | input => exact ⟨[.start], rfl⟩
      | output => exact ⟨[.start], rfl⟩
    · rw [heq]
      cases d with
      | input => exact ⟨[.start, .stop], rfl⟩
      | output => exact ⟨[.start], rfl⟩
  | stop =>
    show ∃ moves, s.stop.session.stream d = (s.stream d).after moves
    rw [Duplex.stop, both_eq]
    cases d with
    | input => exact ⟨[.stop], rfl⟩
    | output => exact ⟨[.stop], rfl⟩
  | close =>
    show ∃ moves, s.close.session.stream d = (s.stream d).after moves
    rw [Duplex.close, both_eq]
    cases d with
    | input => exact ⟨[.close], rfl⟩
    | output => exact ⟨[.close], rfl⟩

theorem times_run (s : Duplex σ σ) (m : SessionMove) : (m.run s).session.times = s.times := by
  cases m with
  | start =>
    show s.start.session.times = s.times
    rcases s.start_cases with ⟨e, -, heq⟩ | ⟨-, -, heq⟩ | ⟨e, -, -, heq⟩ <;> rw [heq]
  | stop =>
    show s.stop.session.times = s.times
    rw [Duplex.stop, both_eq]
  | close =>
    show s.close.session.times = s.times
    rw [Duplex.close, both_eq]

end Duplex

/-- Moves in order keep a stream in step with its device, and its direction. -/
theorem Stream.InStep.after {s : Stream SoftDevice} (h : s.InStep) (moves : List Move) :
    (s.after moves).InStep ∧ (s.after moves).direction = s.direction := by
  induction moves generalizing s with
  | nil => exact ⟨h, rfl⟩
  | cons m moves ih =>
    have hturn := m.turn s
    obtain ⟨hin, hdirection⟩ := ih (h.turn hturn)
    exact ⟨hin, hdirection.trans hturn.direction_eq⟩

/-! ## Moves -/

/-- Anything that can be done to two software devices or to their session. -/
inductive DuplexMove
  /-- Open a session over the devices. -/
  | open (request : DuplexRequest)
  /-- An operation on the session. -/
  | session (m : SessionMove)
  /-- Drop the session. -/
  | drop
  /-- Replace the faults to inject into the device of a direction. -/
  | setFaults (d : Direction) (faults : Faults)
  /-- Queue input for it. -/
  | pushInput (d : Direction) (bytes : List UInt8)
  /-- Let time pass for it, with the hand-off queues as given. -/
  | tick (d : Direction) (frames : Nat) (time : Timestamp) (patchbay : Patchbay)

namespace DuplexMove

/-- What a tick of the device of a direction leaves behind, if it issues a callback. -/
def ticked? (slot : DuplexSlot) (d : Direction) (frames : Nat) (time : Timestamp)
    (patchbay : Patchbay) : Option Ticked :=
  (slot.device d).tick frames time (slot.context d patchbay)

/-- Make a move; one that needs what is not there changes nothing. -/
def run (slot : DuplexSlot) : DuplexMove → DuplexSlot
  | .open request =>
    match slot with
    | .free input output =>
      match Duplex.open input output request with
      | .ok s _ => .owned s
      | .failed _ input output _ => .leftBehind input output
    | other => other
  | session m =>
    match slot with
    | .owned s => .owned (m.run s).session
    | other => other
  | drop =>
    match slot with
    | .owned s => .leftBehind s.drop.1.1 s.drop.1.2
    | other => other
  | setFaults d faults => slot.withDevice d ((slot.device d).setFaults faults)
  | pushInput d bytes => slot.withDevice d ((slot.device d).pushInput bytes)
  | tick d frames time patchbay =>
    match ticked? slot d frames time patchbay with
    | none => slot
    | some t => (slot.withDevice d t.device).withContext d t.context

/-- Make moves in order. -/
def runAll (slot : DuplexSlot) (moves : List DuplexMove) : DuplexSlot := moves.foldl run slot

end DuplexMove

/-! ## In step along a run -/

/-- The stream of each direction is one of that direction, and agrees with its device. -/
def Duplex.InStep (s : Duplex SoftDevice SoftDevice) : Prop :=
  ∀ d, (s.stream d).InStep ∧ (s.stream d).direction = d

namespace Duplex.InStep

variable {s : Duplex SoftDevice SoftDevice}

theorem run (h : s.InStep) (m : SessionMove) : (m.run s).session.InStep := by
  intro d
  obtain ⟨moves, hmoves⟩ := s.stream_run m d
  obtain ⟨hin, hdirection⟩ := (h d).1.after moves
  rw [hmoves]
  exact ⟨hin, hdirection.trans (h d).2⟩

/-- The stream of a direction is replaced. -/
theorem withStream (h : s.InStep) {d : Direction} {stream : Stream SoftDevice} (hin : stream.InStep)
    (hdirection : stream.direction = d) : (s.withStream d stream).InStep := by
  intro e
  rw [Duplex.stream_withStream]
  by_cases he : e = d
  · rw [if_pos he, he]
    exact ⟨hin, hdirection⟩
  · rw [if_neg he]
    exact h e

end Duplex.InStep

namespace Bench.DuplexSlot

/-- The streams of a session agree with their devices, and devices without a session are idle. -/
def InStep : DuplexSlot → Prop
  | free input output => input.Idle ∧ output.Idle
  | owned session => session.InStep
  | leftBehind input output => input.Idle ∧ output.Idle

section Owned

variable (s : Duplex SoftDevice SoftDevice) (d : Direction)

theorem device_owned : (owned s).device d = (s.stream d).device := by
  cases d <;> rfl

theorem withDevice_owned (device : SoftDevice) :
    (owned s).withDevice d device = owned (s.withStream d { s.stream d with device }) := by
  cases d <;> rfl

theorem context_owned (patchbay : Patchbay) :
    (owned s).context d patchbay =
      { stats := (s.stream d).stats, times := some s.times, patchbay } := by
  cases d <;> rfl

theorem withContext_owned (device : SoftDevice) (c : Context) :
    ((owned s).withDevice d device).withContext d c =
      owned { s.withStream d { s.stream d with device, stats := c.stats } with
        times := c.times.getD s.times } := by
  cases d <;> rfl

end Owned

variable {slot : DuplexSlot}

/-- Devices without a session do not tick. -/
theorem InStep.exists_owned (h : slot.InStep) {d : Direction} {frames : Nat} {time : Timestamp}
    {context : Context} {t : Ticked} (ht : (slot.device d).tick frames time context = some t) :
    ∃ s, slot = owned s ∧ s.InStep := by
  have hidle {device : SoftDevice} (hd : device.Idle)
      (htick : device.tick frames time context = some t) : False := by
    have hrunning := (SoftDevice.isSome_tick_iff.mp (by rw [htick]; rfl)).1
    rw [hd.running] at hrunning
    cases hrunning
  cases slot with
  | owned s => exact ⟨s, rfl, h⟩
  | free input output =>
    cases d with
    | input => exact (hidle h.1 ht).elim
    | output => exact (hidle h.2 ht).elim
  | leftBehind input output =>
    cases d with
    | input => exact (hidle h.1 ht).elim
    | output => exact (hidle h.2 ht).elim

/-- What the hand does that drives a device does not matter to its owner. -/
theorem InStep.withDevice (h : slot.InStep) {d : Direction} {device : SoftDevice}
    (howner : (slot.device d).SameOwner device)
    (hinstalled : device.installed = (slot.device d).installed) :
    (slot.withDevice d device).InStep := by
  have hidle {old : SoftDevice} (hold : old.Idle) (ho : old.SameOwner device)
      (hi : device.installed = old.installed) : device.Idle :=
    ⟨ho.running_eq.trans hold.running, ho.acquired_eq.trans hold.acquired, hi.trans hold.installed,
      ho.callback_eq.trans hold.callback⟩
  cases slot with
  | owned s =>
    rw [withDevice_owned]
    rw [device_owned] at howner hinstalled
    exact Duplex.InStep.withStream h ((h d).1.of_eq howner hinstalled) (h d).2
  | free input output =>
    cases d with
    | input => exact ⟨hidle h.1 howner hinstalled, h.2⟩
    | output => exact ⟨h.1, hidle h.2 howner hinstalled⟩
  | leftBehind input output =>
    cases d with
    | input => exact ⟨hidle h.1 howner hinstalled, h.2⟩
    | output => exact ⟨h.1, hidle h.2 howner hinstalled⟩

end Bench.DuplexSlot

namespace DuplexMove

variable {slot : DuplexSlot}

/-- A tick that issues a callback happens to a session, whose stream of that direction has another
device and other counters afterwards, and which has the clock reading recorded. -/
theorem run_tick (h : slot.InStep) {d : Direction} {frames : Nat} {time : Timestamp}
    {patchbay : Patchbay} {t : Ticked} (ht : ticked? slot d frames time patchbay = some t) :
    ∃ s stream, slot = .owned s ∧ s.InStep ∧ stream.InStep ∧ stream.direction = d ∧
      (tick d frames time patchbay).run slot =
        .owned { s.withStream d stream with times := (s.times.record d time).2 } := by
  obtain ⟨s, rfl, hs⟩ := h.exists_owned ht
  have htick : (s.stream d).device.tick frames time
      { stats := (s.stream d).stats, times := some s.times, patchbay } = some t := by
    rw [← DuplexSlot.device_owned, ← DuplexSlot.context_owned]
    exact ht
  obtain ⟨hin, hdirection⟩ := hs d
  obtain ⟨c, -, hc, hticked⟩ := SoftDevice.exists_of_tick htick
  -- The callback was made for the direction of its stream, and records for that one.
  have hcallback : c.direction = d := ((hin.callback c hc).2.2).trans hdirection
  have htimes : t.context.times = some (s.times.record d time).2 := by
    rw [hticked, ← hcallback]
    exact c.times_process _ _ time _
  refine ⟨s, { s.stream d with device := t.device, stats := t.context.stats }, rfl, hs,
    hin.ticked htick, hdirection, ?_⟩
  rw [run, ht]
  show ((DuplexSlot.owned s).withDevice d t.device).withContext d t.context = _
  rw [DuplexSlot.withContext_owned, htimes]
  rfl

/-- A session that opens is in step and has no clock readings; one that does not leaves idle
devices behind. -/
theorem run_open {input output : SoftDevice} (hi : input.Idle) (ho : output.Idle)
    (request : DuplexRequest) :
    (∃ s, (DuplexMove.open request).run (.free input output) = .owned s ∧ s.InStep ∧
      s.times = {}) ∨
    ∃ input' output', (DuplexMove.open request).run (.free input output) =
      .leftBehind input' output' ∧ input'.Idle ∧ output'.Idle := by
  have hinput : (Duplex.openInput input request).stream.InStep :=
    (Stream.InStep.fresh .input hi).turn (.of_configure _ _ _ _)
  have houtput : (Duplex.openOutput output request).stream.InStep :=
    (Stream.InStep.fresh .output ho).turn (.of_configure _ _ _ _)
  rcases Duplex.open_cases input output request with ⟨e, -, heq⟩ | ⟨-, -, heq⟩ | ⟨e, -, -, heq⟩
  · refine .inr ⟨_, _, ?_, hinput.drop, ho⟩
    simp only [run, heq]
  · refine .inl ⟨⟨(Duplex.openInput input request).stream,
      (Duplex.openOutput output request).stream, {}⟩, ?_, ?_, rfl⟩
    · simp only [run, heq]
    · intro d
      cases d with
      | input =>
        exact ⟨hinput, (Turn.of_configure
          ({ device := input, direction := .input } : Stream SoftDevice) _ _ _).direction_eq⟩
      | output =>
        exact ⟨houtput, (Turn.of_configure
          ({ device := output, direction := .output } : Stream SoftDevice) _ _ _).direction_eq⟩
  · refine .inr ⟨_, _, ?_, hinput.drop, houtput.drop⟩
    simp only [run, heq]

/-- Every move keeps the streams in step with their devices. -/
theorem inStep_run (h : slot.InStep) (m : DuplexMove) : (m.run slot).InStep := by
  cases m with
  | «open» request =>
    cases slot with
    | free input output =>
      rcases run_open h.1 h.2 request with ⟨s, heq, hs, -⟩ | ⟨input', output', heq, hi, ho⟩
      · rw [heq]
        exact hs
      · rw [heq]
        exact ⟨hi, ho⟩
    | owned s => exact h
    | leftBehind input output => exact h
  | session m =>
    cases slot with
    | owned s => exact Duplex.InStep.run h m
    | free input output => exact h
    | leftBehind input output => exact h
  | drop =>
    cases slot with
    | owned s => exact ⟨(h .input).1.drop, (h .output).1.drop⟩
    | free input output => exact h
    | leftBehind input output => exact h
  | setFaults d faults => exact h.withDevice ⟨rfl, rfl, rfl⟩ rfl
  | pushInput d bytes => exact h.withDevice ⟨rfl, rfl, rfl⟩ rfl
  | tick d frames time patchbay =>
    cases ht : ticked? slot d frames time patchbay with
    | none =>
      rw [run, ht]
      exact h
    | some t =>
      obtain ⟨s, stream, -, hs, hstream, hdirection, heq⟩ := run_tick h ht
      rw [heq]
      exact hs.withStream hstream hdirection

/-- So does every run. -/
theorem inStep_runAll (h : slot.InStep) (moves : List DuplexMove) : (runAll slot moves).InStep := by
  induction moves generalizing slot with
  | nil => exact h
  | cons m moves ih => exact ih (inStep_run h m)

end DuplexMove

/-! ## The test bench is a rig -/

namespace Bench

open DuplexMove (runAll)

/-- Putting back what was there changes nothing. -/
theorem DuplexSlot.withDevice_device (slot : DuplexSlot) (d : Direction) :
    slot.withDevice d (slot.device d) = slot := by
  cases slot <;> cases d <;> rfl

/-- Nor does a context that was not changed. -/
theorem DuplexSlot.withContext_context (slot : DuplexSlot) (d : Direction) (device : SoftDevice)
    (patchbay : Patchbay) :
    (slot.withDevice d device).withContext d (slot.context d patchbay) =
      slot.withDevice d device := by
  cases slot <;> cases d <;> rfl

/-- A command of a hand makes moves of the rig. -/
theorem DuplexBench.slot_controller (b : DuplexBench) (d : Direction) (c : ControllerCommand) :
    ∃ moves, (b.run (.controller d c)).bench.slot = runAll b.slot moves := by
  have hslot (t : ControllerTurn) (p : Patchbay) :
      (({ b with
          slot := (b.slot.withDevice d t.device).withContext d t.context
          application := { b.application with patchbay := p } } :
        DuplexBench).withPeriod d t.period).slot =
      (b.slot.withDevice d t.device).withContext d t.context := by
    cases d <;> rfl
  rw [DuplexBench.run, hslot]
  have hkeep : (b.slot.withDevice d (b.slot.device d)).withContext d
      (b.slot.context d b.application.patchbay) = b.slot := by
    rw [b.slot.withContext_context, b.slot.withDevice_device]
  cases c with
  | setFaults faults => exact ⟨[.setFaults d faults], b.slot.withContext_context ..⟩
  | pushInput type numbers => exact ⟨[.pushInput d _], b.slot.withContext_context ..⟩
  | tick frames time =>
    refine ⟨[.tick d frames time b.application.patchbay], ?_⟩
    show _ = DuplexMove.run b.slot (.tick d frames time b.application.patchbay)
    rw [DuplexMove.run, DuplexMove.ticked?]
    cases ht : (b.slot.device d).tick frames time (b.slot.context d b.application.patchbay) with
    | none =>
      simp only [ControllerCommand.run, ht]
      exact hkeep
    | some t => simp only [ControllerCommand.run, ht]
  | periodSample type channel frame =>
    refine ⟨[], ?_⟩
    cases b.period d <;>
      · simp only [ControllerCommand.run]
        exact hkeep
  | periodChannel type channel =>
    refine ⟨[], ?_⟩
    cases b.period d <;>
      · simp only [ControllerCommand.run]
        exact hkeep
  | debug => exact ⟨[], hkeep⟩

/-- Every command to the bench makes moves of the rig. -/
theorem DuplexBench.slot_run (b : DuplexBench) (c : DuplexCommand) :
    ∃ moves, (b.run c).bench.slot = runAll b.slot moves := by
  obtain ⟨slot, application, inputPeriod, outputPeriod⟩ := b
  cases slot with
  | leftBehind input output =>
    cases c with
    | controller d c => exact slot_controller _ d c
    | _ => exact ⟨[], rfl⟩
  | owned s =>
    cases c with
    | controller d c => exact slot_controller _ d c
    | start => exact ⟨[.session .start], rfl⟩
    | stop => exact ⟨[.session .stop], rfl⟩
    | close => exact ⟨[.session .close], rfl⟩
    | drop => exact ⟨[.drop], rfl⟩
    | _ => exact ⟨[], rfl⟩
  | free input output =>
    cases c with
    | controller d c => exact slot_controller _ d c
    | «open» inputConfig outputConfig capture render options =>
      rcases hcapture : application.prepare capture with ⟨captureHandler, a⟩
      rcases hrender : a.prepare render with ⟨renderHandler, a'⟩
      let request : DuplexRequest :=
        { inputConfig, outputConfig, capture := captureHandler, render := renderHandler, options }
      refine ⟨[.open request], ?_⟩
      show (openOver _ input output inputConfig outputConfig capture render options).bench.slot =
        DuplexMove.run (.free input output) (.open request)
      simp only [openOver, DuplexMove.run, hcapture, hrender, request]
      cases Duplex.open input output request <;> rfl
    | _ => exact ⟨[], rfl⟩

end Bench

end PcmStream
