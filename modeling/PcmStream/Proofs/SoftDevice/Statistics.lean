/-
  The counters of a stream account for every callback.

    program         `RigMove.run`: moves of the stream, changed faults and ticks, in any order, with
                    handlers of any kind
    specification   `tally`, the counters that a list of issued callbacks amounts to: how many there
                    are, how many frames they have, and in how many of them an output was given
                    fewer frames than asked for
    crux            the counters of a stream are the tally of what ticks have issued to it
                    (`Counted`): a tick moves them by what it issued (`stats_of_tick`), and nothing
                    else moves them, since the callback of a stream has no counters of its own

  The counters are words, so that the tally is one of words; as long as the frames fit into a word,
  the counters are the numbers themselves.
-/
import Mathlib.Algebra.GroupWithZero.Nat
import PcmStream.Proofs.SoftDevice.Playback

namespace PcmStream

open Bench (Slot)

/-! ## Issued callbacks and their tally -/

/-- A callback that was issued. -/
structure Issued where
  /-- The direction of the stream. -/
  direction : Direction
  /-- The frames of the period. -/
  frames : Nat
  /-- The number of frames that an output handler returned, if there was one and it returned. -/
  returned : Option Nat

namespace Issued

/-- The number of frames that count as produced: what was returned, at most all of them, and none
if nothing was returned. -/
def produced (i : Issued) : Nat :=
  match i.returned with
  | some n => min n i.frames
  | none => 0

/-- These are the frames served of the view over the period. -/
theorem produced_eq {i : Issued} {v : View} (h : v.frames = i.frames) :
    i.produced = v.framesServed i.returned := by
  unfold produced View.framesServed
  cases i.returned <;> simp only [h]

/-- Whether an output was given fewer frames than it asked for. -/
def underran (i : Issued) : Bool := i.direction = .output ∧ i.produced < i.frames

/-- A period without frames cannot be given fewer. -/
theorem underran_of_empty {i : Issued} (h : i.frames = 0) : i.underran = false := by
  unfold underran
  rw [h]
  simp

/-- Only an output can. -/
theorem underran_of_input {i : Issued} (h : i.direction = .input) : i.underran = false := by
  unfold underran
  rw [h]
  simp

end Issued

/-- The counters that callbacks amount to. -/
def tally (issued : List Issued) : Stats where
  frames := .ofNat (issued.map Issued.frames).sum
  callbacks := .ofNat issued.length
  underruns := .ofNat (issued.countP Issued.underran)

/-- One more callback counts once. -/
theorem tally_append (issued : List Issued) (i : Issued) :
    tally (issued ++ [i]) = (tally issued).count i.frames i.underran := by
  have hframes : (tally (issued ++ [i])).frames = (tally issued).frames + .ofNat i.frames := by
    show UInt64.ofNat _ = UInt64.ofNat _ + UInt64.ofNat _
    rw [List.map_append, List.sum_append, List.map_singleton, List.sum_singleton,
      UInt64.ofNat_add]
  have hcallbacks : (tally (issued ++ [i])).callbacks = (tally issued).callbacks + 1 := by
    show UInt64.ofNat _ = UInt64.ofNat _ + 1
    rw [List.length_append, List.length_singleton, UInt64.ofNat_add]
    rfl
  have hunderruns : (tally (issued ++ [i])).underruns =
      (tally issued).underruns + i.underran.toUInt64 := by
    show UInt64.ofNat _ = UInt64.ofNat _ + _
    rw [List.countP_append, List.countP_singleton, UInt64.ofNat_add]
    cases i.underran <;> rfl
  cases ht : tally (issued ++ [i]) with
  | mk frames callbacks underruns =>
    rw [ht] at hframes hcallbacks hunderruns
    rw [Stats.count, ← hframes, ← hcallbacks, ← hunderruns]

/-- Callbacks of an input amount to no underrun. -/
theorem underruns_tally {issued : List Issued} (h : ∀ i ∈ issued, i.direction = .input) :
    (tally issued).underruns = 0 := by
  have hnone : issued.countP Issued.underran = 0 := by
    refine List.countP_eq_zero.mpr fun i hi => ?_
    rw [Issued.underran_of_input (h i hi)]
    exact nofun
  show UInt64.ofNat _ = 0
  rw [hnone]
  rfl

/-- The words are the numbers themselves as long as the frames and the callbacks fit into one. -/
theorem toNat_tally {issued : List Issued} (hframes : (issued.map Issued.frames).sum < 2 ^ 64)
    (hcallbacks : issued.length < 2 ^ 64) :
    (tally issued).frames.toNat = (issued.map Issued.frames).sum ∧
      (tally issued).callbacks.toNat = issued.length ∧
      (tally issued).underruns.toNat = issued.countP Issued.underran := by
  have hle : issued.countP Issued.underran ≤ issued.length := List.countP_le_length
  refine ⟨?_, ?_, ?_⟩
  · exact UInt64.toNat_ofNat_of_lt' hframes
  · exact UInt64.toNat_ofNat_of_lt' hcallbacks
  · exact UInt64.toNat_ofNat_of_lt' (Nat.lt_of_le_of_lt hle hcallbacks)

/-! ## One tick -/

namespace Callback

variable {c : Callback}

/-- Dealing with a period keeps the counters of a callback out of the callback. -/
theorem ownStats_count {p : Processed} (h : p.callback.ownStats = none) (frames : Nat)
    (underrun : Bool) : (count p frames underrun).callback.ownStats = none := by
  rw [count, h]
  exact h

theorem ownStats_output (c : Callback) (v : View) (m : Memory) (context : Context) :
    (c.output v m context).2.callback.ownStats = c.ownStats := by
  cases h : c.handler <;> rw [output, h]

theorem ownStats_input (c : Callback) (v : View) (m : Memory) (context : Context) :
    (c.input v m context).callback.ownStats = c.ownStats := by
  cases h : c.handler <;> rw [input, h]

/-- A callback without counters of its own never gets any. -/
theorem ownStats_process (h : c.ownStats = none) (v : View) (m : Memory) (time : Timestamp)
    (context : Context) : (c.process v m time context).callback.ownStats = none := by
  rw [process]
  cases c.direction with
  | output => exact ownStats_count ((c.ownStats_output v m _).trans h) _ _
  | input => exact ownStats_count ((c.ownStats_input v m _).trans h) _ _

end Callback

namespace SoftDevice

variable {d : SoftDevice} {c : Callback} {frames : Nat} {time : Timestamp} {context : Context}
  {t : Ticked}

/-- What a tick issues to a callback. -/
def issued (d : SoftDevice) (c : Callback) (frames : Nat) (context : Context) : Issued :=
  let made := (d.makePeriod c frames).1
  ⟨c.direction, made.frames, (c.handler.serve made.view made.memory context.patchbay).1⟩

/-- A period has the frames that were asked for. -/
theorem frames_makePeriod (d : SoftDevice) (c : Callback) (frames : Nat) :
    (d.makePeriod c frames).1.frames = frames := by
  cases hc : c.direction with
  | output => rw [d.makePeriod_output hc]; rfl
  | input => exact (d.makePeriod_input hc frames).2.1

theorem frames_of_tick (h : d.tick frames time context = some t) : t.period.frames = frames := by
  obtain ⟨c, -, -, rfl⟩ := exists_of_tick h
  exact d.frames_makePeriod c frames

/-- A tick counts what it issues, in the counters that are shared with the stream. -/
theorem stats_of_tick (h : d.tick frames time context = some t) (hc : d.callback = some c)
    (hown : c.ownStats = none) :
    let i := d.issued c frames context
    t.context.stats = context.stats.count i.frames i.underran := by
  obtain ⟨c', -, hc', rfl⟩ := exists_of_tick h
  obtain rfl : c = c' := Option.some.inj (hc.symm.trans hc')
  let made := (d.makePeriod c frames).1
  let p := c.process made.view made.memory time context
  show p.context.stats = context.stats.count made.frames (d.issued c frames context).underran
  have hafter : p.callback.stats p.context = p.context.stats := by
    rw [Callback.stats, Callback.ownStats_process hown]
    rfl
  have hbefore : c.stats context = context.stats := by
    rw [Callback.stats, hown]
    rfl
  rw [← hafter, ← hbefore]
  cases hd : c.direction with
  | output =>
    obtain ⟨-, hstats, -⟩ := c.process_output hd made.view made.memory time context
    rw [made.frames_view] at hstats
    refine hstats.trans (congrArg (Stats.count _ _) ?_)
    have hproduced : (d.issued c frames context).produced =
        c.served made.view made.memory context := Issued.produced_eq made.frames_view
    unfold Issued.underran
    rw [hproduced]
    simp only [issued, hd, true_and]
    rfl
  | input =>
    obtain ⟨-, hstats, -⟩ := c.process_input hd made.view made.memory time context
    rw [made.frames_view] at hstats
    rw [Issued.underran_of_input (i := d.issued c frames context) hd]
    exact hstats

end SoftDevice

/-! ## Moves of a stream -/

namespace Turn

variable {s : Stream SoftDevice} {m : Move} {o : Outcome SoftDevice}

/-- No move of a stream touches its counters. -/
theorem stats_eq (h : Turn s m o) : o.stream.stats = s.stats := by cases h <;> rfl

/-- A move leaves the device with the callback that it had, or with none, or with one that was just
made for the stream. -/
theorem callback_cases (h : Turn s m o) :
    o.stream.device.callback = s.device.callback ∨ o.stream.device.callback = none ∨
      ∃ config handler options,
        o.stream.device.callback = some (s.callback config handler options) := by
  cases h with
  | wrongState hm => exact .inl rfl
  | mismatch hs hh => exact .inl rfl
  | nothingToDo hm => exact .inl rfl
  | abandoned hs => exact .inl rfl
  | refused hs hh hacquire =>
    obtain rfl := SoftDevice.eq_of_perform_error hacquire nofun
    exact .inl rfl
  | unsettled hs hh hacquire hsettle hdispose =>
    exact .inr (.inl (SoftDevice.idle_of_dispose hdispose).callback)
  | @configured _ handler options config registered acquired settled device hs hh hacquire hsettle
      hregister =>
    cases registered with
    | error status =>
      obtain rfl := SoftDevice.eq_of_perform_error hregister nofun
      obtain ⟨-, -, -, hcallback⟩ := SoftDevice.of_acquire_ok hacquire
      obtain ⟨howner, -⟩ := SoftDevice.of_negotiate_ok hsettle
      exact .inl (howner.callback_eq.trans hcallback)
    | ok =>
      obtain rfl := SoftDevice.of_register_ok hregister
      exact .inr (.inr ⟨config, handler, options, rfl⟩)
  | startFailed hs hstart => exact .inl ((Turn.startFailed hs hstart).keeps (.inl rfl)).2
  | started hs hstart => exact .inl ((Turn.started hs hstart).keeps (.inl rfl)).2
  | stopFailed hs hstop => exact .inl ((Turn.stopFailed hs hstop).keeps (.inr rfl)).2
  | stopped hs hstop => exact .inl ((Turn.stopped hs hstop).keeps (.inr rfl)).2
  | closedIdle hs htear hdispose =>
    exact .inr (.inl (SoftDevice.idle_of_dispose hdispose).callback)
  | closedBusy hs hstop htear hdispose =>
    exact .inr (.inl (SoftDevice.idle_of_dispose hdispose).callback)

end Turn

/-! ## Runs -/

namespace RigMove

/-- The callbacks that a move issues. -/
def issues (slot : Slot SoftDevice) : RigMove → List Issued
  | tick frames time context =>
    let context := { context with stats := slot.stats }
    match slot.device.tick frames time context with
    | none => []
    | some _ => slot.device.callback.toList.map fun c => slot.device.issued c frames context
  | _ => []

/-- The callbacks that moves issue, in order. -/
def issuedAll : Slot SoftDevice → List RigMove → List Issued
  | _, [] => []
  | slot, m :: moves => m.issues slot ++ issuedAll (m.run slot) moves

variable {slot : Slot SoftDevice} {frames : Nat} {time : Timestamp} {context : Context}

/-- A tick that returns no period issues nothing and changes nothing. -/
theorem tick_of_none
    (h : slot.device.tick frames time { context with stats := slot.stats } = none) :
    (tick frames time context).issues slot = [] ∧ (tick frames time context).run slot = slot := by
  simp only [issues, run, h, and_self]

/-- One that returns a period issues one callback, with the frames of the period. -/
theorem tick_of_some {t : Ticked}
    (h : slot.device.tick frames time { context with stats := slot.stats } = some t) :
    ∃ c, slot.device.callback = some c ∧
      (tick frames time context).issues slot =
        [slot.device.issued c frames { context with stats := slot.stats }] ∧
      (tick frames time context).run slot =
        (slot.withDevice t.device).withStats t.context.stats := by
  obtain ⟨c, -, hc, -⟩ := SoftDevice.exists_of_tick h
  refine ⟨c, hc, ?_, ?_⟩
  · simp only [issues, h, hc, Option.toList_some, List.map_singleton]
  · simp only [run, h]

end RigMove

/-- The counters of a stream are the tally of the callbacks that were issued for it. -/
structure Stream.Tallied (s : Stream SoftDevice) (issued : List Issued) : Prop where
  /-- They are the tally. -/
  stats_eq : s.stats = tally issued
  /-- They are those of the stream because a callback has none of its own. -/
  shared : ∀ c, s.device.callback = some c → c.ownStats = none
  /-- The callbacks had the direction of the stream. -/
  direction_eq : ∀ i ∈ issued, i.direction = s.direction

namespace Stream.Tallied

variable {s : Stream SoftDevice} {issued : List Issued}

/-- A fresh stream over an idle device has issued nothing. -/
theorem fresh {device : SoftDevice} (direction : Direction) (h : device.Idle) :
    Tallied { device, direction } [] where
  stats_eq := rfl
  shared c hc := by
    rw [h.callback] at hc
    cases hc
  direction_eq := nofun

/-- No move of the stream changes that. -/
theorem turn {m : Move} {o : Outcome SoftDevice} (h : s.Tallied issued) (hturn : Turn s m o) :
    o.stream.Tallied issued where
  stats_eq := hturn.stats_eq.trans h.stats_eq
  shared c hc := by
    rcases hturn.callback_cases with hsame | hnone | ⟨config, handler, options, hmade⟩
    · exact h.shared c (hsame ▸ hc)
    · rw [hnone] at hc
      cases hc
    · rw [hmade] at hc
      cases hc
      rfl
  direction_eq i hi := (h.direction_eq i hi).trans hturn.direction_eq.symm

/-- A tick adds what it issues. -/
theorem ticked {frames : Nat} {time : Timestamp} {context : Context} {c : Callback} {t : Ticked}
    (h : s.Tallied issued) (hs : s.InStep) (hcontext : context.stats = s.stats)
    (ht : s.device.tick frames time context = some t) (hc : s.device.callback = some c) :
    Tallied { s with device := t.device, stats := t.context.stats }
      (issued ++ [s.device.issued c frames context]) where
  stats_eq := by
    show t.context.stats = _
    rw [SoftDevice.stats_of_tick ht hc (h.shared c hc), tally_append, hcontext, h.stats_eq]
  shared c' hc' := by
    obtain ⟨c, -, hc, rfl⟩ := SoftDevice.exists_of_tick ht
    cases hc'
    exact Callback.ownStats_process (h.shared c hc) ..
  direction_eq i hi := by
    rcases List.mem_append.mp hi with hi | hi
    · exact h.direction_eq i hi
    · obtain rfl := List.mem_singleton.mp hi
      exact (hs.callback c hc).2.2

/-- The counters are the numbers themselves as long as these fit into a word, and then there are no
more underruns than callbacks. -/
theorem numbers (h : s.Tallied issued) (hcallbacks : issued.length < 2 ^ 64)
    (hframes : (issued.map Issued.frames).sum < 2 ^ 64) :
    s.stats.callbacks.toNat = issued.length ∧
      s.stats.frames.toNat = (issued.map Issued.frames).sum ∧
      s.stats.underruns.toNat = issued.countP Issued.underran ∧
      s.stats.underruns ≤ s.stats.callbacks := by
  obtain ⟨hf, hc, hu⟩ := toNat_tally hframes hcallbacks
  rw [h.stats_eq]
  refine ⟨hc, hf, hu, UInt64.le_iff_toNat_le.mpr ?_⟩
  rw [hc, hu]
  exact List.countP_le_length

/-- An input stream has no underruns. -/
theorem underruns_of_input (h : s.Tallied issued) (hinput : s.direction = .input) :
    s.stats.underruns = 0 := by
  rw [h.stats_eq]
  exact underruns_tally fun i hi => (h.direction_eq i hi).trans hinput

end Stream.Tallied

/-- What there is of a stream has counted the callbacks that were issued. -/
def Bench.Slot.Counted (issued : List Issued) : Slot SoftDevice → Prop
  | free _ => issued = []
  | owned s => s.Tallied issued
  | leftBehind _ => True

/-- What the hand does that drives the device does not change that. -/
theorem Bench.Slot.Counted.withDevice {slot : Slot SoftDevice} {issued : List Issued}
    {device : SoftDevice} (h : slot.Counted issued)
    (hcallback : device.callback = slot.device.callback) :
    (slot.withDevice device).Counted issued := by
  cases slot with
  | free d => exact h
  | leftBehind d => exact h
  | owned s =>
    have hs : s.Tallied issued := h
    exact ⟨hs.stats_eq, fun c hc => hs.shared c (hcallback ▸ hc), hs.direction_eq⟩

namespace RigMove

variable {slot : Slot SoftDevice} {issued : List Issued}

/-- A tick counts what it issues. -/
theorem counted_tick (h : slot.Counted issued) (hslot : slot.InStep) (frames : Nat)
    (time : Timestamp) (context : Context) :
    ((tick frames time context).run slot).Counted
      (issued ++ (tick frames time context).issues slot) := by
  cases ht : slot.device.tick frames time { context with stats := slot.stats } with
  | none =>
    obtain ⟨hissues, hrun⟩ := tick_of_none ht
    rw [hissues, hrun, List.append_nil]
    exact h
  | some t =>
    -- Only a stream that is there is issued callbacks.
    obtain ⟨s, rfl, -⟩ := (hslot.isSome_tick_iff frames time _).mp (Option.isSome_of_eq_some ht)
    obtain ⟨c, hc, hissues, hrun⟩ := tick_of_some ht
    rw [hissues, hrun]
    exact Stream.Tallied.ticked h hslot rfl ht hc

/-- Every move counts what it issues, and nothing else. -/
theorem counted_run (h : slot.Counted issued) (hslot : slot.InStep) (m : RigMove) :
    (m.run slot).Counted (issued ++ m.issues slot) := by
  -- A move that is not a tick issues nothing, so that nothing may be counted.
  have hquiet (hm : m.issues slot = []) (hcounted : (m.run slot).Counted issued) :
      (m.run slot).Counted (issued ++ m.issues slot) := by
    rwa [hm, List.append_nil]
  cases m with
  | tick frames time context => exact counted_tick h hslot frames time context
  | new direction =>
    refine hquiet rfl ?_
    cases slot with
    | free device =>
      obtain rfl : issued = [] := h
      exact .fresh direction hslot
    | owned s => exact h
    | leftBehind device => exact h
  | «open» direction requested handler options =>
    refine hquiet rfl ?_
    cases slot with
    | free device =>
      obtain rfl : issued = [] := h
      cases hopen : Stream.open device direction requested handler options with
      | failed e device log =>
        simp only [run, hopen]
        trivial
      | ok s log =>
        obtain ⟨o, hturn, -, rfl⟩ := Stream.of_open_ok hopen
        simp only [run, hopen]
        exact (Stream.Tallied.fresh direction hslot).turn hturn
    | owned s => exact h
    | leftBehind device => exact h
  | stream m =>
    refine hquiet rfl ?_
    cases slot with
    | free device => exact h
    | owned s => exact Stream.Tallied.turn h (m.turn s)
    | leftBehind device => exact h
  | drop =>
    refine hquiet rfl ?_
    cases slot with
    | free device => exact h
    | owned s => trivial
    | leftBehind device => exact h
  | setFaults faults => exact hquiet rfl (h.withDevice rfl)
  | pushInput bytes => exact hquiet rfl (h.withDevice rfl)

/-- So does every run. -/
theorem counted_runAll (h : slot.Counted issued) (hslot : slot.InStep) (moves : List RigMove) :
    (runAll slot moves).Counted (issued ++ issuedAll slot moves) := by
  induction moves generalizing slot issued with
  | nil =>
    rw [issuedAll, List.append_nil]
    exact h
  | cons m moves ih =>
    rw [issuedAll, ← List.append_assoc]
    exact ih (counted_run h hslot m) (inStep_run hslot m)

/-- A move that issues nothing leaves the counters as they are. -/
theorem stats_of_quiet {s s' : Stream SoftDevice} (h : s.Tallied issued) (hs : s.InStep)
    {m : RigMove} (hm : m.issues (.owned s) = []) (hrun : m.run (.owned s) = .owned s') :
    s'.stats = s.stats := by
  have hslot : (Slot.owned s).Counted issued := h
  have hcounted := counted_run hslot hs m
  rw [hm, hrun, List.append_nil] at hcounted
  have hs' : s'.Tallied issued := hcounted
  rw [h.stats_eq, hs'.stats_eq]

/-- A tick of no frames leaves the underruns as they are. -/
theorem underruns_of_empty {s s' : Stream SoftDevice} (h : s.Tallied issued) (hs : s.InStep)
    (hrun : (tick 0 time context).run (.owned s) = .owned s') :
    s'.stats.underruns = s.stats.underruns := by
  let slot := Slot.owned s
  cases ht : slot.device.tick 0 time { context with stats := slot.stats } with
  | none => rw [stats_of_quiet h hs (tick_of_none ht).1 hrun]
  | some t =>
    obtain ⟨c, hc, -, hrun'⟩ := tick_of_some ht
    obtain rfl := Slot.owned.inj (hrun.symm.trans hrun')
    show t.context.stats.underruns = _
    rw [SoftDevice.stats_of_tick ht hc (h.shared c hc),
      Issued.underran_of_empty (s.device.frames_makePeriod c 0)]
    exact UInt64.add_zero _

/-- The counters of a stream account for every callback.  At every point of a run that begins with a
fresh device, the counters of the stream there is, as long as they fit into a word, are the number of
ticks so far that returned a period, the number of frames of those periods, and the number of those
periods that were for output and of which the handler produced less than all frames; an error, a
crash and no handler at all count as no frame produced, and no handler produces more than all
frames.  So there are no more underruns than callbacks, and none on an input stream.

A tick issues one callback if it returns a period, and none otherwise, and no other move issues any.
What issues none leaves the counters as they are, and a tick of no frames leaves the underruns. -/
theorem stats_account (capabilities : Capabilities) (moves : List RigMove) :
    let slot := runAll (.free { capabilities }) moves
    let issued := issuedAll (.free { capabilities }) moves
    (∀ s, slot = .owned s →
      s.stats = tally issued ∧ (∀ i ∈ issued, i.direction = s.direction) ∧
      (issued.length < 2 ^ 64 → (issued.map Issued.frames).sum < 2 ^ 64 →
        s.stats.callbacks.toNat = issued.length ∧
        s.stats.frames.toNat = (issued.map Issued.frames).sum ∧
        s.stats.underruns.toNat = issued.countP Issued.underran ∧
        s.stats.underruns ≤ s.stats.callbacks) ∧
      (s.direction = .input → s.stats.underruns = 0) ∧
      (∀ (m : RigMove) s', m.issues slot = [] → m.run slot = .owned s' → s'.stats = s.stats) ∧
      ∀ time context s', (tick 0 time context).run slot = .owned s' →
        s'.stats.underruns = s.stats.underruns) ∧
    (∀ frames time context,
      match slot.device.tick frames time { context with stats := slot.stats } with
      | none => (tick frames time context).issues slot = []
      | some t => ∃ s c, slot = .owned s ∧ s.device.callback = some c ∧ t.period.frames = frames ∧
          (tick frames time context).issues slot =
            [s.device.issued c frames { context with stats := s.stats }]) ∧
    ∀ m : RigMove, (∀ frames time context, m ≠ tick frames time context) → m.issues slot = [] := by
  intro slot issued
  have hfresh : Slot.InStep (.free { capabilities }) := SoftDevice.Idle.mk rfl rfl rfl rfl
  have hslot : slot.InStep := inStep_runAll hfresh moves
  have hnothing : Slot.Counted [] (.free { capabilities }) := rfl
  have hcounted : slot.Counted issued := counted_runAll hnothing hfresh moves
  refine ⟨fun s hs => ?_, fun frames time context => ?_, fun m hm => ?_⟩
  · rw [hs] at hslot hcounted ⊢
    have hin : s.InStep := hslot
    have htallied : s.Tallied issued := hcounted
    exact ⟨htallied.stats_eq, htallied.direction_eq, htallied.numbers, htallied.underruns_of_input,
      fun m s' hm hrun => stats_of_quiet htallied hin hm hrun,
      fun time context s' hrun => underruns_of_empty htallied hin hrun⟩
  · cases ht : slot.device.tick frames time { context with stats := slot.stats } with
    | none => exact (tick_of_none ht).1
    | some t =>
      obtain ⟨s, hs, -⟩ := (hslot.isSome_tick_iff frames time _).mp (Option.isSome_of_eq_some ht)
      obtain ⟨c, hc, hissues, -⟩ := tick_of_some ht
      rw [hs] at hc hissues ⊢
      exact ⟨s, c, rfl, hc, SoftDevice.frames_of_tick ht, hissues⟩
  · cases m with
    | tick frames time context => exact absurd rfl (hm frames time context)
    | _ => rfl

/-- Nobody plays three frames, then none, and then the stream is stopped. -/
example :
    let moves : List RigMove := [.open .output {} .none {}, .stream .start,
      .tick 3 (.ofNanos 0) {}, .tick 0 (.ofNanos 1) {}, .stream .stop, .tick 5 (.ofNanos 2) {}]
    (runAll (.free {}) moves).stats = { frames := 3, callbacks := 2, underruns := 1 } := by
  decide

end RigMove

end PcmStream
