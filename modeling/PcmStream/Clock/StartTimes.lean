/-
  The first clock reading of each direction of a full-duplex session, each recorded once.

  Both directions record concurrently, each with one atomic compare-and-exchange of its own word:
  the word is replaced if it still is the reserved `unrecorded` word, and otherwise left alone.
  `record` is that single step, so a run of several threads is a sequence of `record`s in the
  order in which their exchanges happened.  A `Timestamp` is never the reserved word, which is why
  the first recording sticks.
-/
import PcmStream.Clock.Offset
import PcmStream.Direction

namespace PcmStream

/-- The first readings of the two directions, as the words they are kept in. -/
structure StartTimes where
  /-- The word of the first input reading. -/
  input : Nat := unrecorded
  /-- The word of the first output reading. -/
  output : Nat := unrecorded
  /-- There is no word beyond the reserved one. -/
  input_le : input ≤ unrecorded := by decide
  output_le : output ≤ unrecorded := by decide
  deriving DecidableEq, Repr

namespace StartTimes

/-- The word of one direction. -/
def word (s : StartTimes) : Direction → Nat
  | .input => s.input
  | .output => s.output

/-- The record with the word of one direction replaced by a reading. -/
def setWord (s : StartTimes) (d : Direction) (t : Timestamp) : StartTimes :=
  match d with
  | .input => { s with input := t.nanos, input_le := Nat.le_of_lt t.nanos_lt }
  | .output => { s with output := t.nanos, output_le := Nat.le_of_lt t.nanos_lt }

/-- Record a reading unless the direction has one already.  Answers whether this call was the one
that recorded. -/
def record (s : StartTimes) (d : Direction) (t : Timestamp) : Bool × StartTimes :=
  if s.word d = unrecorded then (true, s.setWord d t) else (false, s)

/-- The first reading of a direction, if it was recorded. -/
def first? (s : StartTimes) (d : Direction) : Option Timestamp :=
  if h : s.word d < unrecorded then some ⟨s.word d, h⟩ else none

/-- The time between the two first readings, once both are recorded. -/
def offset? (s : StartTimes) : Option Offset :=
  match s.first? .input, s.first? .output with
  | some input, some output => some (.between input output)
  | _, _ => none

/-! ## What a recording does to each word -/

theorem word_le (s : StartTimes) (d : Direction) : s.word d ≤ unrecorded := by
  cases d with
  | input => exact s.input_le
  | output => exact s.output_le

@[simp] theorem word_setWord_same (s : StartTimes) (d : Direction) (t : Timestamp) :
    (s.setWord d t).word d = t.nanos := by cases d <;> rfl

theorem word_setWord_of_ne (s : StartTimes) {d e : Direction} (h : d ≠ e) (t : Timestamp) :
    (s.setWord d t).word e = s.word e := by
  cases d <;> cases e <;> simp_all [word, setWord]

/-- The first recording of a direction sticks. -/
theorem first?_record_of_unrecorded (s : StartTimes) (d : Direction) (t : Timestamp)
    (h : s.word d = unrecorded) : (s.record d t).2.first? d = some t := by
  simp [record, h, first?, t.nanos_lt]

/-- A direction that has its reading keeps it. -/
theorem record_of_recorded (s : StartTimes) (d : Direction) (t : Timestamp)
    (h : s.word d ≠ unrecorded) : s.record d t = (false, s) := by
  simp [record, h]

/-- After a recording the direction has its reading, whoever recorded it. -/
theorem exists_first?_record (s : StartTimes) (d : Direction) (t : Timestamp) :
    ∃ first, (s.record d t).2.first? d = some first := by
  by_cases h : s.word d = unrecorded
  · exact ⟨t, first?_record_of_unrecorded s d t h⟩
  · have hle := s.word_le d
    have hlt : s.word d < unrecorded := by omega
    rw [record_of_recorded s d t h, first?, dif_pos hlt]
    exact ⟨_, rfl⟩

example : ((StartTimes.record {} .input (.ofNanos 10)).2.record .input (.ofNanos 20)).1 = false := by
  decide

end StartTimes

end PcmStream
