/-
  The time between the first input and the first output of a session.

  A `DuplexRun` is a rig together with the callbacks that were issued in it: direction and clock
  reading, in order.  `firstOf d` is the reading of the first of them in one direction.

  The session does not keep that list.  It keeps one word for each direction, which is replaced as
  long as it is the reserved one (`StartTimes.first?_record`).  The invariant of a run is that these
  words are the first readings of the list (`Timed`), and the offset follows from it: it is not
  available until both directions have had a callback, and what it is then depends on the front of
  the list only, so it stays (`offset_of_runAll`).
-/
import PcmStream.Proofs.Clock.WriteOnce
import PcmStream.Proofs.Duplex.Rig

namespace PcmStream

open Bench (DuplexSlot)

/-! ## Runs with the callbacks issued -/

/-- A rig and the callbacks issued in it, in order. -/
structure DuplexRun where
  /-- Where the devices are. -/
  slot : DuplexSlot
  /-- The callbacks issued. -/
  issued : List IssuedCallback := []

/-- The callback that a move issues, if it does. -/
def DuplexMove.issued (slot : DuplexSlot) : DuplexMove → List IssuedCallback
  | tick d frames time patchbay =>
    if (ticked? slot d frames time patchbay).isSome then [(d, time)] else []
  | _ => []

namespace DuplexRun

/-- A run that begins with two fresh devices. -/
def fresh (input output : Capabilities) : DuplexRun where
  slot := .free { capabilities := input } { capabilities := output }

/-- Make a move. -/
def run (r : DuplexRun) (m : DuplexMove) : DuplexRun where
  slot := m.run r.slot
  issued := r.issued ++ m.issued r.slot

/-- Make moves in order. -/
def runAll (r : DuplexRun) (moves : List DuplexMove) : DuplexRun := moves.foldl run r

theorem runAll_append (r : DuplexRun) (moves later : List DuplexMove) :
    r.runAll (moves ++ later) = (r.runAll moves).runAll later := List.foldl_append

/-- Callbacks that were issued stay issued. -/
theorem issued_runAll (r : DuplexRun) (moves : List DuplexMove) :
    ∃ later, (r.runAll moves).issued = r.issued ++ later := by
  induction moves generalizing r with
  | nil => exact ⟨[], (List.append_nil _).symm⟩
  | cons m moves ih =>
    obtain ⟨later, hlater⟩ := ih (r.run m)
    refine ⟨m.issued r.slot ++ later, ?_⟩
    rw [← List.append_assoc]
    exact hlater

end DuplexRun

/-! ## The words are the first readings -/

/-- A session has the first readings of the callbacks issued; before it is opened there are none. -/
def Bench.DuplexSlot.Recorded (issued : List IssuedCallback) : DuplexSlot → Prop
  | free _ _ => issued = []
  | owned s => ∀ d, s.times.first? d = firstOf d issued
  | leftBehind _ _ => True

/-- The invariant of a run. -/
structure DuplexRun.Timed (r : DuplexRun) : Prop where
  /-- Every stream is in step with its device. -/
  inStep : r.slot.InStep
  /-- The session has the first readings. -/
  recorded : r.slot.Recorded r.issued

namespace DuplexRun.Timed

variable {r : DuplexRun}

theorem fresh (input output : Capabilities) : (DuplexRun.fresh input output).Timed where
  inStep := ⟨⟨rfl, rfl, rfl, rfl⟩, ⟨rfl, rfl, rfl, rfl⟩⟩
  recorded := rfl

/-- A move that issues no callback. -/
theorem of_quiet (h : r.Timed) {m : DuplexMove} (hissued : m.issued r.slot = [])
    (hrecorded : (m.run r.slot).Recorded r.issued) : (r.run m).Timed where
  inStep := DuplexMove.inStep_run h.inStep m
  recorded := by
    show (m.run r.slot).Recorded (r.issued ++ m.issued r.slot)
    rw [hissued, List.append_nil]
    exact hrecorded

/-- A tick that issues one: its reading is recorded unless there is one already. -/
theorem tick (h : r.Timed) {d : Direction} {frames : Nat} {time : Timestamp} {patchbay : Patchbay}
    {t : Ticked} (ht : DuplexMove.ticked? r.slot d frames time patchbay = some t) :
    (r.run (.tick d frames time patchbay)).Timed where
  inStep := DuplexMove.inStep_run h.inStep (.tick d frames time patchbay)
  recorded := by
    obtain ⟨s, stream, hslot, -, -, -, hrun⟩ := DuplexMove.run_tick h.inStep ht
    have hissued : (DuplexMove.tick d frames time patchbay).issued r.slot = [(d, time)] := by
      rw [DuplexMove.issued, ht]
      rfl
    have hbefore := h.recorded
    rw [hslot] at hbefore
    show ((DuplexMove.tick d frames time patchbay).run r.slot).Recorded (r.issued ++ _)
    rw [hrun, hissued]
    intro e
    show (s.times.record d time).2.first? e = _
    rw [s.times.first?_record, hbefore e, firstOf_append]
    congr 1
    cases d <;> cases e <;> rfl

/-- The same for every move. -/
theorem run (h : r.Timed) (m : DuplexMove) : (r.run m).Timed := by
  obtain ⟨slot, issued⟩ := r
  obtain ⟨hin, hrecorded⟩ := h
  cases m with
  | tick d frames time patchbay =>
    cases ht : DuplexMove.ticked? slot d frames time patchbay with
    | some t => exact tick ⟨hin, hrecorded⟩ ht
    | none =>
      refine of_quiet ⟨hin, hrecorded⟩ (by rw [DuplexMove.issued, ht]; rfl) ?_
      rw [DuplexMove.run, ht]
      exact hrecorded
  | «open» request =>
    refine of_quiet ⟨hin, hrecorded⟩ rfl ?_
    cases slot with
    | owned s => exact hrecorded
    | leftBehind input output => trivial
    | free input output =>
      have hnone : issued = [] := hrecorded
      show ((DuplexMove.open request).run (.free input output)).Recorded issued
      rcases DuplexMove.run_open hin.1 hin.2 request with ⟨s, heq, -, htimes⟩ | ⟨i, o, heq, -⟩
      · rw [heq, hnone]
        intro d
        rw [htimes]
        cases d <;> rfl
      · rw [heq]
        trivial
  | session m =>
    refine of_quiet ⟨hin, hrecorded⟩ rfl ?_
    cases slot with
    | free input output => exact hrecorded
    | leftBehind input output => trivial
    | owned s =>
      intro d
      rw [s.times_run m]
      exact hrecorded d
  | drop =>
    refine of_quiet ⟨hin, hrecorded⟩ rfl ?_
    cases slot with
    | free input output => exact hrecorded
    | leftBehind input output => trivial
    | owned s => trivial
  | setFaults d faults =>
    refine of_quiet ⟨hin, hrecorded⟩ rfl ?_
    cases slot <;> cases d <;> exact hrecorded
  | pushInput d bytes =>
    refine of_quiet ⟨hin, hrecorded⟩ rfl ?_
    cases slot <;> cases d <;> exact hrecorded

/-- And for every run. -/
theorem runAll (h : r.Timed) (moves : List DuplexMove) : (r.runAll moves).Timed := by
  induction moves generalizing r with
  | nil => exact h
  | cons m moves ih => exact ih (h.run m)

end DuplexRun.Timed

/-! ## The offset -/

/-- The offset of a session that has the first readings of the callbacks issued. -/
theorem Duplex.offset_of_recorded {s : Duplex SoftDevice SoftDevice} {issued : List IssuedCallback}
    (h : (DuplexSlot.owned s).Recorded issued) :
    s.offset =
      match firstOf .input issued, firstOf .output issued with
      | some input, some output =>
        .ok ⟨max minSigned (min maxSigned (output.nanos - input.nanos))⟩
      | _, _ => .error .notAvailable := by
  rw [offset, StartTimes.offset?, h .input, h .output]
  cases firstOf .input issued with
  | none => rfl
  | some input =>
    cases firstOf .output issued with
    | none => rfl
    | some output => rfl

namespace DuplexRun

/-- The offset of a session, at any point of a run that begins with fresh devices.  It is not
available as long as one of the directions has had no callback.  Once both have had one it is the
reading of the first output minus that of the first input, exact but for the clamping to a signed
64-bit word, and whatever happens later it stays what it is. -/
theorem offset_of_runAll (input output : Capabilities) (moves later : List DuplexMove)
    {session session' : Duplex SoftDevice SoftDevice}
    (h : ((fresh input output).runAll moves).slot = .owned session)
    (h' : ((fresh input output).runAll (moves ++ later)).slot = .owned session') :
    let issued := ((fresh input output).runAll moves).issued
    (session.offset = .error .notAvailable ↔ ∃ d, firstOf d issued = none) ∧
      ∀ i o, firstOf .input issued = some i → firstOf .output issued = some o →
        session.offset = .ok ⟨max minSigned (min maxSigned (o.nanos - i.nanos))⟩ ∧
          session'.offset = session.offset := by
  intro issued
  have hnow : (DuplexSlot.owned session).Recorded issued := by
    rw [← h]
    exact ((Timed.fresh input output).runAll moves).recorded
  obtain ⟨more, hmore⟩ := ((fresh input output).runAll moves).issued_runAll later
  have hlater : (DuplexSlot.owned session').Recorded (issued ++ more) := by
    rw [← hmore, ← runAll_append, ← h']
    exact ((Timed.fresh input output).runAll (moves ++ later)).recorded
  have hoffset := Duplex.offset_of_recorded hnow
  have hoffset' := Duplex.offset_of_recorded hlater
  refine ⟨?_, fun i o hi ho => ?_⟩
  · rw [hoffset]
    cases hi : firstOf .input issued with
    | none => exact ⟨fun _ => ⟨.input, hi⟩, fun _ => rfl⟩
    | some i =>
      cases ho : firstOf .output issued with
      | none => exact ⟨fun _ => ⟨.output, ho⟩, fun _ => rfl⟩
      | some o =>
        refine ⟨nofun, ?_⟩
        rintro ⟨d, hd⟩
        cases d with
        | input =>
          rw [hi] at hd
          cases hd
        | output =>
          rw [ho] at hd
          cases hd
  · -- What was first stays first, whatever comes after it.
    rw [firstOf_append, firstOf_append, hi, ho] at hoffset'
    rw [hi, ho] at hoffset
    exact ⟨hoffset, hoffset'.trans hoffset.symm⟩

/-- A session whose output crashes in its first callback, which is issued before the input has its
own: the offset is negative, and a restart and a close do not change it. -/
def crashing : List DuplexMove :=
  [.open { render := .render (.routine (.ofScript [{ ending := .crash }])) }, .session .start,
    .tick .output 1 (.ofNanos 500) {}, .tick .input 0 (.ofNanos 800) {}]

/-- A restart of it, and its end. -/
def restarted : List DuplexMove :=
  [.session .stop, .session .start, .tick .input 2 (.ofNanos 100) {},
    .tick .output 1 (.ofNanos 900) {}, .session .close]

theorem offset_of_runAll_crashing :
    ∃ session session',
      ((fresh {} {}).runAll crashing).slot = .owned session ∧
        ((fresh {} {}).runAll (crashing ++ restarted)).slot = .owned session' ∧
          session.offset = .ok ⟨-300⟩ ∧ session'.offset = session.offset :=
  ⟨_, _, rfl, rfl, (offset_of_runAll {} {} crashing restarted rfl rfl).2 (.ofNanos 800)
    (.ofNanos 500) rfl rfl⟩

end DuplexRun

end PcmStream
