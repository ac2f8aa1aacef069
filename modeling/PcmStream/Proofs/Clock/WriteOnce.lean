/-
  The first readings are written once.

  Callbacks of both directions race for the two words of a record, each with one atomic exchange, so
  what happened is a list: the calls in the order of their exchanges.  `after` is the record that
  they leave and `answers` what they were told.

  One step is `first?_record`: a recording changes the first reading of its own direction only, and
  only if there is none.  By induction the first readings after a run are the first ones of its list
  (`first?_after`), and of the calls of one direction the first is told that it recorded, and no
  other (`answers_inDirection`).  Both speak of the calls of one direction only, so that calls of
  different directions may change places (`after_congr`).

  `offset?` loads the two words one after the other while others record.  `offsetAcross?` is that:
  the input as it is at one moment and the output as it is at another.  Since a word is written
  once, an offset that was read at all is the final one (`offset?_of_offsetAcross?`).

  `written_once` says this of all runs, with readings that come about in any way; a reading is never
  the reserved word, and without that a recorded word would be written again.
-/
import PcmStream.Clock.StartTimes
import PcmStream.Proofs.Clock.Words

namespace PcmStream

/-! ## The calls of one direction -/

/-- A callback: its direction and its clock reading. -/
abbrev IssuedCallback : Type := Direction × Timestamp

/-- The clock reading of the first callback of a direction. -/
def firstOf (d : Direction) (issued : List IssuedCallback) : Option Timestamp :=
  (issued.find? fun c => c.1 == d).map fun c => c.2

theorem firstOf_append (d : Direction) (issued later : List IssuedCallback) :
    firstOf d (issued ++ later) = (firstOf d issued).or (firstOf d later) := by
  rw [firstOf, List.find?_append, Option.map_or]
  rfl

/-- What a list has for one direction, in order. -/
def inDirection {α : Type} (d : Direction) (list : List (Direction × α)) : List α :=
  (list.filter fun c => c.1 == d).map fun c => c.2

section InDirection

variable {α : Type} {d e : Direction}

theorem inDirection_cons_same (a : α) (rest : List (Direction × α)) :
    inDirection d ((d, a) :: rest) = a :: inDirection d rest := by
  rw [inDirection, List.filter_cons_of_pos (by simp)]
  rfl

theorem inDirection_cons_of_ne (h : e ≠ d) (a : α) (rest : List (Direction × α)) :
    inDirection d ((e, a) :: rest) = inDirection d rest := by
  rw [inDirection, List.filter_cons_of_neg (by simpa using h)]
  rfl

end InDirection

/-- The first reading of a direction is the first of its readings. -/
theorem firstOf_eq_head? (d : Direction) (issued : List IssuedCallback) :
    firstOf d issued = (inDirection d issued).head? := by
  rw [inDirection, List.head?_map, List.head?_filter]
  rfl

/-! ## The offset between two readings -/

/-- The offset spans the time from the input to the output: exact but for the clamping to a signed
64-bit word, negative if the output came first, and of the size that the two are apart. -/
structure Offset.Spans (o : Offset) (input output : Timestamp) : Prop where
  /-- The exact difference, clamped. -/
  nanos_eq : o.nanos = max minSigned (min maxSigned ((output.nanos : Int) - input.nanos))
  /-- The output came first. -/
  isNegative_iff : o.isNegative = true ↔ output.nanos < input.nanos
  /-- The size, clamped where the difference is. -/
  magnitude_eq : (o.magnitude.nanos : Int) =
    if output.nanos < input.nanos then min ((input.nanos : Int) - output.nanos) (-minSigned)
    else min ((output.nanos : Int) - input.nanos) maxSigned

theorem Offset.spans_between (input output : Timestamp) :
    (between input output).Spans input output := by
  have hmin : minSigned = -0x8000000000000000 := rfl
  have hmax : maxSigned = 0x7fffffffffffffff := rfl
  refine ⟨rfl, ?_, ?_⟩
  · show decide (max minSigned (min maxSigned _) < 0) = true ↔ _
    rw [decide_eq_true_iff]
    omega
  · show ((max minSigned (min maxSigned ((output.nanos : Int) - input.nanos))).natAbs : Int) = _
    split <;> omega

namespace StartTimes

/-! ## One recording -/

/-- A recording changes the first reading of its own direction only, and only if there is none. -/
theorem first?_record (s : StartTimes) (d e : Direction) (t : Timestamp) :
    (s.record d t).2.first? e = (s.first? e).or (if d = e then some t else none) := by
  by_cases hword : s.word d = unrecorded
  · by_cases hde : d = e
    · subst hde
      have hnone : s.first? d = none := by
        rw [first?, dif_neg (by omega)]
      rw [s.first?_record_of_unrecorded d t hword, hnone, if_pos rfl]
      rfl
    · have hother : (s.record d t).2.word e = s.word e := by
        rw [record, if_pos hword]
        exact s.word_setWord_of_ne hde t
      simp only [if_neg hde, Option.or_none, first?, hother]
  · rw [s.record_of_recorded d t hword]
    show s.first? e = _
    by_cases hde : d = e
    · subst hde
      have hle := s.word_le d
      have hlt : s.word d < unrecorded := by omega
      rw [first?, dif_pos hlt]
      rfl
    · rw [if_neg hde, Option.or_none]

/-- A recording is told that it recorded if there was no reading before. -/
theorem record_fst (s : StartTimes) (d : Direction) (t : Timestamp) :
    (s.record d t).1 = (s.first? d).isNone := by
  have hle := s.word_le d
  unfold record first?
  by_cases hword : s.word d = unrecorded
  · rw [if_pos hword, dif_neg (by omega)]
    rfl
  · rw [if_neg hword, dif_pos (by omega)]
    rfl

/-- A record is what its first readings are. -/
theorem ext_first? {s s' : StartTimes} (h : ∀ d, s.first? d = s'.first? d) : s = s' := by
  have hword : ∀ d, s.word d = s'.word d := by
    intro d
    have hle := s.word_le d
    have hle' := s'.word_le d
    have hd := h d
    unfold first? at hd
    split at hd <;> split at hd
    · injection hd with hd
      injection hd
    · cases hd
    · cases hd
    · omega
  have hinput : s.input = s'.input := hword .input
  have houtput : s.output = s'.output := hword .output
  cases s
  cases s'
  cases hinput
  cases houtput
  rfl

/-! ## Runs -/

/-- The record that calls leave, made in order. -/
def after (s : StartTimes) (calls : List IssuedCallback) : StartTimes :=
  calls.foldl (fun s c => (s.record c.1 c.2).2) s

/-- What each call is told: whether it was the one that recorded. -/
def answers (s : StartTimes) : List IssuedCallback → List (Direction × Bool)
  | [] => []
  | c :: calls => (c.1, (s.record c.1 c.2).1) :: (s.record c.1 c.2).2.answers calls

/-- The first readings after a run are those before it, or else the first ones of the run. -/
theorem first?_after (s : StartTimes) (calls : List IssuedCallback) (d : Direction) :
    (s.after calls).first? d = (s.first? d).or (firstOf d calls) := by
  induction calls generalizing s with
  | nil => exact (Option.or_none ..).symm
  | cons c calls ih =>
    have hcons : firstOf d (c :: calls) = (firstOf d [c]).or (firstOf d calls) :=
      firstOf_append d [c] calls
    have hone : firstOf d [c] = if c.1 = d then some c.2 else none := by
      obtain ⟨e, t⟩ := c
      cases d <;> cases e <;> rfl
    show ((s.record c.1 c.2).2.after calls).first? d = _
    rw [ih, first?_record, hcons, hone, Option.or_assoc]

/-- So many answers: the given one first, and no from then on. -/
def thenNo (first : Bool) : Nat → List Bool
  | 0 => []
  | n + 1 => first :: List.replicate n false

theorem thenNo_false (n : Nat) : thenNo false n = List.replicate n false := by
  cases n <;> rfl

/-- Of the calls of a direction the first is told that it recorded if there was no reading before,
and no other is. -/
theorem answers_inDirection (s : StartTimes) (calls : List IssuedCallback) (d : Direction) :
    inDirection d (s.answers calls) = thenNo (s.first? d).isNone (inDirection d calls).length := by
  induction calls generalizing s with
  | nil => rfl
  | cons c calls ih =>
    obtain ⟨e, t⟩ := c
    unfold answers
    by_cases he : e = d
    · subst he
      have hnext : ((s.record e t).2.first? e).isNone = false := by
        rw [first?_record, if_pos rfl]
        cases s.first? e <;> rfl
      rw [inDirection_cons_same, inDirection_cons_same, ih, hnext, thenNo_false, record_fst]
      rfl
    · have hnext : (s.record e t).2.first? d = s.first? d := by
        rw [first?_record, if_neg he, Option.or_none]
      rw [inDirection_cons_of_ne he, inDirection_cons_of_ne he, ih, hnext]

/-- A fresh record has no reading. -/
theorem first?_fresh (d : Direction) : first? {} d = none := by
  cases d <;> rfl

theorem first?_after_fresh (calls : List IssuedCallback) (d : Direction) :
    (after {} calls).first? d = firstOf d calls := by
  rw [first?_after, first?_fresh]
  rfl

/-- The record that a run leaves depends on the calls of each direction only, and not on how they
come between each other. -/
theorem after_congr {calls others : List IssuedCallback}
    (h : ∀ d, inDirection d others = inDirection d calls) : after {} others = after {} calls := by
  apply ext_first?
  intro d
  rw [first?_after_fresh, first?_after_fresh, firstOf_eq_head?, firstOf_eq_head?, h]

/-! ## Offsets -/

/-- The offset is not available as long as a reading is missing. -/
theorem offset?_eq_none_iff (s : StartTimes) : s.offset? = none ↔ ∃ d, s.first? d = none := by
  unfold offset?
  cases hinput : s.first? .input with
  | none => exact ⟨fun _ => ⟨.input, hinput⟩, fun _ => rfl⟩
  | some input =>
    cases houtput : s.first? .output with
    | none => exact ⟨fun _ => ⟨.output, houtput⟩, fun _ => rfl⟩
    | some output =>
      refine ⟨nofun, ?_⟩
      rintro ⟨d, hd⟩
      cases d with
      | input =>
        rw [hinput] at hd
        cases hd
      | output =>
        rw [houtput] at hd
        cases hd

/-- The offset of a record that has both readings. -/
theorem offset?_of_first {s : StartTimes} {input output : Timestamp}
    (hinput : s.first? .input = some input) (houtput : s.first? .output = some output) :
    s.offset? = some (.between input output) := by
  rw [offset?, hinput, houtput]

/-- The offset between the first input as it is now and the first output as it is at another
moment. -/
def offsetAcross? (s other : StartTimes) : Option Offset :=
  match s.first? .input, other.first? .output with
  | some input, some output => some (.between input output)
  | _, _ => none

/-- What was first at some moment of a run is first at its end. -/
theorem first?_of_take {calls : List IssuedCallback} {d : Direction} {k : Nat} {t : Timestamp}
    (h : (after {} (calls.take k)).first? d = some t) : (after {} calls).first? d = some t := by
  rw [first?_after_fresh] at h ⊢
  rw [← List.take_append_drop k calls, firstOf_append, h]
  rfl

/-- An offset that was read during a run, whenever its words were loaded, is the one at its end. -/
theorem offset?_of_offsetAcross? {calls : List IssuedCallback} {k l : Nat} {o : Offset}
    (h : (after {} (calls.take k)).offsetAcross? (after {} (calls.take l)) = some o) :
    (after {} calls).offset? = some o := by
  unfold offsetAcross? at h
  split at h
  · next input output hinput houtput =>
    rw [offset?_of_first (first?_of_take hinput) (first?_of_take houtput)]
    exact h
  · cases h

/-! ## Every run -/

/-- Calls of both directions race for a fresh record, in any order and with readings that come about
in any way.  Of the calls of a direction the first is told that it recorded, and no other; its
reading is the first one of the direction from then on, and before there is none.  Calls of
different directions may change places without any of them being told another answer, and without
another record.  The offset is not available as long as a reading is missing, and spans the time
between the two readings from then on, also if its words are loaded at different moments.  No
reading is the reserved word. -/
theorem written_once (readings : List (Direction × Reading)) :
    let calls := readings.map fun c => (c.1, c.2.time)
    (∀ d, inDirection d (answers {} calls) = thenNo true (inDirection d calls).length) ∧
      (∀ k d, (after {} (calls.take k)).first? d = firstOf d (calls.take k)) ∧
      (∀ others, (∀ d, inDirection d others = inDirection d calls) →
        after {} others = after {} calls ∧
          ∀ d, inDirection d (answers {} others) = inDirection d (answers {} calls)) ∧
      (∀ k, ((after {} (calls.take k)).offset? = none ↔ ∃ d, firstOf d (calls.take k) = none) ∧
        ∀ input output, firstOf .input (calls.take k) = some input →
          firstOf .output (calls.take k) = some output →
            ∃ o, (after {} (calls.take k)).offset? = some o ∧ o.Spans input output) ∧
      (∀ k l o, (after {} (calls.take k)).offsetAcross? (after {} (calls.take l)) = some o →
        (after {} calls).offset? = some o) ∧
      ∀ c ∈ readings, ∃ word, c.2.word? = some word ∧ word.toNat = c.2.time.nanos ∧
        word ≠ ClockWord.reserved := by
  intro calls
  have hanswers : ∀ (issued : List IssuedCallback) (d : Direction),
      inDirection d (answers {} issued) = thenNo true (inDirection d issued).length := by
    intro issued d
    rw [answers_inDirection, first?_fresh]
    rfl
  refine ⟨hanswers calls, fun k d => first?_after_fresh _ d, ?_, ?_, ?_, ?_⟩
  · intro others h
    refine ⟨after_congr h, fun d => ?_⟩
    rw [hanswers, hanswers, h]
  · intro k
    constructor
    · rw [offset?_eq_none_iff]
      simp only [first?_after_fresh]
    · intro input output hinput houtput
      rw [← first?_after_fresh] at hinput houtput
      exact ⟨_, offset?_of_first hinput houtput, Offset.spans_between input output⟩
  · intro k l o h
    exact offset?_of_offsetAcross? h
  · intro c hc
    exact ⟨c.2.time.word, c.2.word?_eq, c.2.time.toNat_word, c.2.time.word_ne_reserved⟩

/-- Two inputs and an output race, and the output may as well come first. -/
theorem written_once_racing :
    let calls : List IssuedCallback :=
      [(.input, .ofNanos 2), (.output, .ofNanos 5), (.input, .ofNanos 1)]
    let others : List IssuedCallback :=
      [(.output, .ofNanos 5), (.input, .ofNanos 2), (.input, .ofNanos 1)]
    (∀ d, inDirection d others = inDirection d calls) ∧ after {} others = after {} calls ∧
      ∃ o, (after {} calls).offset? = some o ∧ o.Spans (.ofNanos 2) (.ofNanos 5) := by
  intro calls others
  have hdirections : ∀ d, inDirection d others = inDirection d calls := by
    intro d
    cases d <;> rfl
  obtain ⟨-, -, hmoved, hoffset, -, -⟩ :=
    written_once [(.input, .ofNanos 2), (.output, .ofNanos 5), (.input, .ofNanos 1)]
  exact ⟨hdirections, (hmoved others hdirections).1, (hoffset 3).2 _ _ rfl rfl⟩

end StartTimes

end PcmStream
