/-
  Runs of a stream over a software device.

  A rig is a device that waits for its stream, or is in it, or has been left behind by it: a
  `Bench.Slot`.  A `RigMove` is anything that anybody can do to it, in any order:

    new, open, drop        the stream comes and goes
    stream m               a move of the stream
    setFaults, pushInput   the hand that drives the device
    tick                   time passes, and a callback may be issued

  `lockStep` is what holds at every point of every run that begins with a fresh device.  It rests on
  the coupling of `LockStep`, carried through the moves (`inStep_run`, `inStep_runAll`), and on two
  more invariants that say when callbacks are over: a stream that is not started stays so until it
  is asked to start, and one that is closed or gone stays so for good.

  The test bench is a rig too: its commands make moves (`SoftBench.slot_run`), unless they call a
  device past its stream, which no coupling survives.
-/
import PcmStream.Proofs.SoftDevice.LockStep
import PcmStream.Bench.SoftStream

namespace PcmStream

open Bench (Slot)

/-! ## Rigs -/

/-- Anything that can be done to a software device or to its stream. -/
inductive RigMove
  /-- Make a stream of the device. -/
  | new (direction : Direction)
  /-- Open one. -/
  | open (direction : Direction) (requested : StreamConfig) (handler : Handler) (options : Options)
  /-- A move of the stream. -/
  | stream (m : Move)
  /-- Drop the stream. -/
  | drop
  /-- Replace the faults to inject. -/
  | setFaults (faults : Faults)
  /-- Queue input. -/
  | pushInput (bytes : List UInt8)
  /-- Let time pass.  Apart from the counters, which are those of the stream, the callback shares
  what the context says. -/
  | tick (frames : Nat) (time : Timestamp) (context : Context)

namespace RigMove

/-- Make a move; one that needs what is not there changes nothing. -/
def run (slot : Slot SoftDevice) : RigMove → Slot SoftDevice
  | new direction =>
    match slot with
    | .free device => .owned { device, direction }
    | other => other
  | .open direction requested handler options =>
    match slot with
    | .free device =>
      match Stream.open device direction requested handler options with
      | .ok s _ => .owned s
      | .failed _ device _ => .leftBehind device
    | other => other
  | stream m =>
    match slot with
    | .owned s => .owned (m.run s).stream
    | other => other
  | drop =>
    match slot with
    | .owned s => .leftBehind s.drop.1
    | other => other
  | setFaults faults => slot.withDevice (slot.device.setFaults faults)
  | pushInput bytes => slot.withDevice (slot.device.pushInput bytes)
  | tick frames time context =>
    match slot.device.tick frames time { context with stats := slot.stats } with
    | none => slot
    | some t => (slot.withDevice t.device).withStats t.context.stats

/-- Make moves in order. -/
def runAll (slot : Slot SoftDevice) (moves : List RigMove) : Slot SoftDevice := moves.foldl run slot

/-- Whether the move asks a stream to start. -/
def isStart : RigMove → Bool
  | .stream .start => true
  | _ => false

end RigMove

/-! ## The coupling along a run -/

namespace Bench.Slot

/-- A stream agrees with its device, and a device without a stream is idle. -/
def InStep : Slot SoftDevice → Prop
  | free device => device.Idle
  | owned stream => stream.InStep
  | leftBehind device => device.Idle

/-- Whether there is a stream that is started. -/
def Started (slot : Slot SoftDevice) : Prop := ∃ s, slot = owned s ∧ s.state = .started

/-- Whether there was a stream that is closed or gone. -/
def Over : Slot SoftDevice → Prop
  | free _ => False
  | owned stream => stream.state = .closed
  | leftBehind _ => True

/-- Whether no tick issues a callback. -/
def Silent (slot : Slot SoftDevice) : Prop :=
  ∀ frames time context, slot.device.tick frames time context = none

variable {slot : Slot SoftDevice}

/-- What the hand does that drives the device does not matter to its owner. -/
theorem InStep.withDevice {device : SoftDevice} (h : slot.InStep)
    (howner : slot.device.SameOwner device)
    (hinstalled : device.installed = slot.device.installed) :
    (slot.withDevice device).InStep := by
  have hidle (d : SoftDevice) (hd : d.Idle) (ho : d.SameOwner device)
      (hi : device.installed = d.installed) : device.Idle :=
    ⟨ho.running_eq.trans hd.running, ho.acquired_eq.trans hd.acquired, hi.trans hd.installed,
      ho.callback_eq.trans hd.callback⟩
  cases slot with
  | free d => exact hidle d h howner hinstalled
  | owned s => exact Stream.InStep.of_eq h howner hinstalled
  | leftBehind d => exact hidle d h howner hinstalled

/-- A callback is issued exactly while the stream is started. -/
theorem InStep.isSome_tick_iff (h : slot.InStep) (frames : Nat) (time : Timestamp)
    (context : Context) :
    (slot.device.tick frames time context).isSome = true ↔ slot.Started := by
  have hidle (d : SoftDevice) (hd : d.Idle) : ¬ (d.tick frames time context).isSome = true := by
    rw [SoftDevice.isSome_tick_iff, hd.running]
    exact fun hrunning => Bool.noConfusion hrunning.1
  cases slot with
  | free d =>
    refine ⟨fun htick => absurd htick (hidle d h), ?_⟩
    rintro ⟨s, hs, -⟩
    cases hs
  | leftBehind d =>
    refine ⟨fun htick => absurd htick (hidle d h), ?_⟩
    rintro ⟨s, hs, -⟩
    cases hs
  | owned s =>
    have hs : s.InStep := h
    show (s.device.tick frames time context).isSome = true ↔ _
    rw [SoftDevice.isSome_tick_iff]
    constructor
    · rintro ⟨hrunning, -⟩
      exact ⟨s, rfl, hs.running.mp hrunning⟩
    · rintro ⟨s', heq, hstarted⟩
      cases heq
      exact ⟨hs.running.mpr hstarted, hs.registered hstarted⟩

theorem InStep.silent (h : slot.InStep) (hs : ¬ slot.Started) : slot.Silent := by
  intro frames time context
  cases ht : slot.device.tick frames time context with
  | none => rfl
  | some t => exact absurd ((h.isSome_tick_iff frames time context).mp (by rw [ht]; rfl)) hs

/-- A tick only happens to a started stream, and leaves it in step with its device. -/
theorem InStep.ticked {frames : Nat} {time : Timestamp} {context : Context} {t : Ticked}
    (h : slot.InStep) (ht : slot.device.tick frames time context = some t) :
    ((slot.withDevice t.device).withStats t.context.stats).InStep := by
  obtain ⟨s, rfl, hs⟩ := (h.isSome_tick_iff frames time context).mp (by rw [ht]; rfl)
  have hin : s.InStep := h
  exact hin.ticked ht

theorem Started.of_withDevice {device : SoftDevice} (h : (slot.withDevice device).Started) :
    slot.Started := by
  obtain ⟨s, heq, hs⟩ := h
  cases slot with
  | free d => cases heq
  | leftBehind d => cases heq
  | owned s =>
    cases heq
    exact ⟨s, rfl, hs⟩

theorem Started.of_withStats {stats : Stats} (h : (slot.withStats stats).Started) :
    slot.Started := by
  obtain ⟨s, heq, hs⟩ := h
  cases slot with
  | free d => cases heq
  | leftBehind d => cases heq
  | owned s =>
    cases heq
    exact ⟨s, rfl, hs⟩

theorem Over.withDevice {device : SoftDevice} (h : slot.Over) : (slot.withDevice device).Over := by
  cases slot with
  | free d => exact h
  | owned s => exact h
  | leftBehind d => exact h

theorem Over.withStats {stats : Stats} (h : slot.Over) : (slot.withStats stats).Over := by
  cases slot with
  | free d => exact h
  | owned s => exact h
  | leftBehind d => exact h

theorem Over.not_started (h : slot.Over) : ¬ slot.Started := by
  rintro ⟨s, rfl, hs⟩
  have hclosed : s.state = .closed := h
  rw [hclosed] at hs
  cases hs

end Bench.Slot

namespace RigMove

variable {slot : Slot SoftDevice}

/-- Every move keeps stream and device in step. -/
theorem inStep_run (h : slot.InStep) (m : RigMove) : (m.run slot).InStep := by
  cases m with
  | new direction =>
    cases slot with
    | free device => exact Stream.InStep.fresh direction h
    | owned s => exact h
    | leftBehind device => exact h
  | «open» direction requested handler options =>
    cases slot with
    | free device =>
      have hturn := (Stream.InStep.fresh direction h).turn
        (.of_configure _ requested handler options)
      cases hresult : (({ device, direction } : Stream SoftDevice).configure requested handler
          options).result with
      | ok =>
        simp only [run, Stream.open, hresult]
        exact hturn
      | error e =>
        -- The configuration may have got as far as the registration: the drop takes care of it.
        simp only [run, Stream.open, hresult]
        exact Stream.InStep.drop hturn
    | owned s => exact h
    | leftBehind device => exact h
  | stream m =>
    cases slot with
    | free device => exact h
    | owned s => exact Stream.InStep.turn h (m.turn s)
    | leftBehind device => exact h
  | drop =>
    cases slot with
    | free device => exact h
    | owned s => exact Stream.InStep.drop h
    | leftBehind device => exact h
  | setFaults faults => exact h.withDevice ⟨rfl, rfl, rfl⟩ rfl
  | pushInput bytes => exact h.withDevice ⟨rfl, rfl, rfl⟩ rfl
  | tick frames time context =>
    cases ht : slot.device.tick frames time { context with stats := slot.stats } with
    | none =>
      simp only [run, ht]
      exact h
    | some t =>
      simp only [run, ht]
      exact h.ticked ht

/-- So does every run. -/
theorem inStep_runAll (h : slot.InStep) (moves : List RigMove) : (runAll slot moves).InStep := by
  induction moves generalizing slot with
  | nil => exact h
  | cons m moves ih => exact ih (inStep_run h m)

/-! ## When callbacks are over -/

/-- Only a move that asks it to start starts a stream. -/
theorem not_started_run (h : ¬ slot.Started) {m : RigMove} (hm : m.isStart = false) :
    ¬ (m.run slot).Started := by
  cases m with
  | new direction =>
    cases slot with
    | free device =>
      rintro ⟨s, heq, hs⟩
      cases heq
      cases hs
    | owned s => exact h
    | leftBehind device => exact h
  | «open» direction requested handler options =>
    cases slot with
    | free device =>
      have hturn := Turn.of_configure { device, direction } requested handler options
      have hstate := hturn.arrow.not_started nofun nofun
      rintro ⟨s, heq, hs⟩
      cases hresult : (({ device, direction } : Stream SoftDevice).configure requested handler
          options).result with
      | ok =>
        simp only [run, Stream.open, hresult] at heq
        cases heq
        exact hstate hs
      | error e =>
        simp only [run, Stream.open, hresult] at heq
        cases heq
    | owned s => exact h
    | leftBehind device => exact h
  | stream m =>
    cases slot with
    | free device => exact h
    | leftBehind device => exact h
    | owned s =>
      rintro ⟨s', heq, hs⟩
      cases heq
      refine (m.turn s).arrow.not_started (fun hstarted => h ⟨s, rfl, hstarted⟩) ?_ hs
      rintro rfl
      cases hm
  | drop =>
    cases slot with
    | free device => exact h
    | leftBehind device => exact h
    | owned s =>
      rintro ⟨s', heq, -⟩
      cases heq
  | setFaults faults => exact fun hs => h hs.of_withDevice
  | pushInput bytes => exact fun hs => h hs.of_withDevice
  | tick frames time context =>
    rw [run]
    split
    · exact h
    · exact fun hs => h hs.of_withStats.of_withDevice

theorem not_started_runAll (h : ¬ slot.Started) {moves : List RigMove}
    (hmoves : ∀ m ∈ moves, m.isStart = false) : ¬ (runAll slot moves).Started := by
  induction moves generalizing slot with
  | nil => exact h
  | cons m moves ih =>
    have hm := not_started_run h (hmoves m List.mem_cons_self)
    exact ih hm fun m' hm' => hmoves m' (List.mem_cons_of_mem _ hm')

/-- What is closed or gone stays so. -/
theorem over_run (h : slot.Over) (m : RigMove) : (m.run slot).Over := by
  cases slot with
  | free device => cases h
  | leftBehind device =>
    cases m with
    | tick frames time context =>
      rw [run]
      split <;> trivial
    | _ => trivial
  | owned s =>
    have hs : s.state = .closed := h
    cases m with
    | new direction => exact hs
    | «open» direction requested handler options => exact hs
    | stream m =>
      show (m.run s).stream.state = .closed
      rw [(m.turn s).eq_of_closed hs]
      exact hs
    | drop => trivial
    | setFaults faults => exact hs
    | pushInput bytes => exact hs
    | tick frames time context =>
      rw [run]
      split
      · exact hs
      · exact Slot.Over.withStats h.withDevice

theorem over_runAll (h : slot.Over) (moves : List RigMove) : (runAll slot moves).Over := by
  induction moves generalizing slot with
  | nil => exact h
  | cons m moves ih => exact ih (over_run h m)

/-! ## Lock step -/

/-- A stream that was asked to stop, and did not fail to, is not started. -/
theorem not_started_of_stop {s : Stream SoftDevice} (h : s.stop.result = .ok ()) :
    ¬ ((stream .stop).run (.owned s)).Started := by
  rintro ⟨s', heq, hs⟩
  cases heq
  exact (Turn.of_stop s).not_started_of_stop h hs

/-- Stream and device in lock step.  At every point of a run that begins with a fresh device, the
device runs exactly while its stream is started, is held exactly while the stream is configured,
started or stopped, has the configuration of the stream installed then and a callback made for it,
if any; while the stream is started there is one.  A created or closed stream and one that was
dropped leave nothing behind.  So a tick issues a callback exactly while there is a started stream,
and none after a stop that succeeds until the stream is asked to start again, none after a close,
and none after a drop. -/
theorem lockStep (capabilities : Capabilities) (moves : List RigMove) :
    let slot := runAll (.free { capabilities }) moves
    (∀ s, slot = .owned s →
      (s.device.running = true ↔ s.state = .started) ∧
      (s.device.acquired = true ↔
        s.state = .configured ∨ s.state = .started ∨ s.state = .stopped) ∧
      (s.state = .configured ∨ s.state = .started ∨ s.state = .stopped →
        s.device.installed = some s.config ∧
          ∀ c, s.device.callback = some c → c.config = s.config ∧ c.direction = s.direction) ∧
      (s.state = .started → s.device.callback.isSome = true) ∧
      (s.state = .created ∨ s.state = .closed →
        s.device.callback = none ∧ s.device.installed = none)) ∧
    (∀ device, slot = .leftBehind device →
      device.running = false ∧ device.acquired = false ∧ device.callback = none ∧
        device.installed = none) ∧
    (∀ frames time context, (slot.device.tick frames time context).isSome = true ↔
      ∃ s, slot = .owned s ∧ s.state = .started) ∧
    (∀ s, slot = .owned s → s.stop.result = .ok () →
      ∀ later : List RigMove, (∀ m ∈ later, m.isStart = false) →
        (runAll slot (stream .stop :: later)).Silent) ∧
    (∀ s, slot = .owned s → ∀ later, (runAll slot (stream .close :: later)).Silent) ∧
    (∀ s, slot = .owned s → ∀ later, (runAll slot (drop :: later)).Silent) := by
  intro slot
  have hfresh : Slot.InStep (.free { capabilities }) := SoftDevice.Idle.mk rfl rfl rfl rfl
  have hslot : slot.InStep := inStep_runAll hfresh moves
  refine ⟨fun s hs => ?_, fun device hdevice => ?_, hslot.isSome_tick_iff, ?_, ?_, ?_⟩
  · rw [hs] at hslot
    have hin : s.InStep := hslot
    refine ⟨hin.running, hin.acquired.trans s.state.holding_iff, fun hstate => ?_, hin.registered,
      fun hstate => ?_⟩
    · have hholding := s.state.holding_iff.mpr hstate
      refine ⟨?_, fun c hc => (hin.callback c hc).2⟩
      rw [hin.installed, hholding]
      rfl
    · have hidle := hin.idle (by rcases hstate with hstate | hstate <;> rw [hstate] <;> rfl)
      exact ⟨hidle.callback, hidle.installed⟩
  · rw [hdevice] at hslot
    have hidle : device.Idle := hslot
    exact ⟨hidle.running, hidle.acquired, hidle.callback, hidle.installed⟩
  · -- The device may fail to stop, and then the stream is started still; that is excluded here.
    intro s hs hstop later hlater
    refine (inStep_runAll hslot _).silent ?_
    rw [hs]
    exact not_started_runAll (not_started_of_stop hstop) hlater
  · -- A close closes the stream even if it fails, so its result does not matter.
    intro s hs later
    refine (inStep_runAll hslot _).silent (Slot.Over.not_started ?_)
    have hover : ((stream .close).run slot).Over := by
      rw [hs]
      exact (Turn.of_close s).closed_of_close
    exact over_runAll hover later
  · intro s hs later
    refine (inStep_runAll hslot _).silent (Slot.Over.not_started ?_)
    have hover : (drop.run slot).Over := by
      rw [hs]
      trivial
    exact over_runAll hover later

end RigMove

/-! ## The test bench is a rig -/

namespace Bench

open RigMove (runAll)

/-- A command to the stream of a bench makes moves of the rig. -/
theorem StreamCommand.slot_run (c : StreamCommand) (slot : Slot SoftDevice)
    (application : Application) :
    ∃ moves, (c.run slot application).slot = runAll slot moves := by
  cases slot with
  | leftBehind device => cases c <;> exact ⟨[], rfl⟩
  | free device =>
    cases c with
    | new direction => exact ⟨[.new direction], rfl⟩
    | «open» direction config plan options =>
      rcases hp : application.prepare plan with ⟨handler, rest⟩
      refine ⟨[.open direction config handler options], ?_⟩
      show _ = RigMove.run (.free device) (.open direction config handler options)
      cases hopen : Stream.open device direction config handler options <;>
        simp only [run, runFree, RigMove.run, hp, hopen]
    | _ => exact ⟨[], rfl⟩
  | owned s =>
    cases c with
    | configure config plan options =>
      exact ⟨[.stream (.configure config (application.prepare plan).1 options)], rfl⟩
    | start => exact ⟨[.stream .start], rfl⟩
    | stop => exact ⟨[.stream .stop], rfl⟩
    | close => exact ⟨[.stream .close], rfl⟩
    | drop => exact ⟨[.drop], rfl⟩
    | _ => exact ⟨[], rfl⟩

/-- Keeping the counters keeps the slot. -/
theorem Slot.withStats_stats (slot : Slot SoftDevice) (device : SoftDevice) :
    (slot.withDevice device).withStats slot.stats = slot.withDevice device := by
  cases slot <;> rfl

theorem Slot.withDevice_device (slot : Slot SoftDevice) : slot.withDevice slot.device = slot := by
  cases slot <;> rfl

/-- Every command to a bench, apart from direct calls to a device that is not in a stream, makes
moves of the rig. -/
theorem SoftBench.slot_run (b : SoftBench) (c : SoftCommand) (hc : ∀ call, c ≠ .direct call) :
    ∃ moves, (b.run c).bench.slot = runAll b.slot moves := by
  have hkeep : (b.slot.withDevice b.slot.device).withStats b.context.stats = b.slot := by
    show (b.slot.withDevice b.slot.device).withStats b.slot.stats = b.slot
    rw [Slot.withStats_stats, Slot.withDevice_device]
  cases c with
  | stream c => exact c.slot_run b.slot b.application
  | direct call => exact absurd rfl (hc call)
  | atEnd name c => exact ⟨[], rfl⟩
  | controller c =>
    cases c with
    | setFaults faults => exact ⟨[.setFaults faults], b.slot.withStats_stats _⟩
    | pushInput type numbers => exact ⟨[.pushInput _], b.slot.withStats_stats _⟩
    | tick frames time =>
      refine ⟨[.tick frames time b.context], ?_⟩
      show _ = RigMove.run b.slot (.tick frames time b.context)
      have hcontext : { b.context with stats := b.slot.stats } = b.context := rfl
      rw [RigMove.run, hcontext, SoftBench.run]
      cases ht : b.slot.device.tick frames time b.context with
      | none =>
        simp only [ControllerCommand.run, ht]
        exact hkeep
      | some t => simp only [ControllerCommand.run, ht]
    | periodSample type channel frame =>
      refine ⟨[], ?_⟩
      rw [SoftBench.run]
      cases b.period <;> exact hkeep
    | periodChannel type channel =>
      refine ⟨[], ?_⟩
      rw [SoftBench.run]
      cases b.period <;> exact hkeep
    | debug => exact ⟨[], hkeep⟩

/-- So stream and device stay in step on a bench. -/
theorem SoftBench.inStep_run {b : SoftBench} {c : SoftCommand} (h : b.slot.InStep)
    (hc : ∀ call, c ≠ .direct call) : (b.run c).bench.slot.InStep := by
  obtain ⟨moves, hmoves⟩ := b.slot_run c hc
  rw [hmoves]
  exact RigMove.inStep_runAll h moves

end Bench

end PcmStream
