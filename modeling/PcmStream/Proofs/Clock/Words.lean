/-
  Clock arithmetic in machine words.

  `Timestamp` and `StreamConfig` compute with numbers of any size.  Here the same computations are
  done by a machine: what goes in and what comes out are words of 64 bits, what is in between is a
  word of 128 bits, and a result that does not fit its word leaves the computation without an answer
  (`wide?`, `unsignedWide?`).

  * Every computation has an answer, and it is the word of what the numbers give (`ofNanos_eq`,
    `ofDuration?_eq`, `addFrames?_eq`, `durationNanos?_eq`): no operand of a product is longer than
    64 bits, a second has 30 bits of nanoseconds, and all that comes after a product is smaller.
  * So does every `Reading`, a tree of such computations, and no reading is ever the reserved word
    (`Reading.word?_eq`, `Timestamp.word_ne_reserved`).
  * A shift is the duration of its frames, added or taken away (`addFrames_by_duration`).  The shift
    truncates toward zero in signed words and stops at the last reading; the duration rounds down in
    unsigned words and stops at the last word.  Both stop beyond every reading that is reached.
-/
import PcmStream.Config
import PcmStream.Proofs.Clock.Shift

namespace PcmStream

/-! ## Results that have to fit -/

/-- A result, if it fits a signed word of 128 bits. -/
def wide? (x : Int) : Option Int :=
  if -0x80000000000000000000000000000000 ≤ x ∧ x < 0x80000000000000000000000000000000 then some x
  else none

/-- A result, if it fits an unsigned word of 128 bits. -/
def unsignedWide? (x : Nat) : Option Nat :=
  if x < 0x100000000000000000000000000000000 then some x else none

theorem wide?_eq_some {x : Int} (hlow : -0x80000000000000000000000000000000 ≤ x)
    (hhigh : x < 0x80000000000000000000000000000000) : wide? x = some x := if_pos ⟨hlow, hhigh⟩

theorem unsignedWide?_eq_some {x : Nat} (h : x < 0x100000000000000000000000000000000) :
    unsignedWide? x = some x := if_pos h

/-! ## The computations -/

namespace ClockWord

/-- The word that stands for "nothing recorded". -/
def reserved : UInt64 := 0xffffffffffffffff

/-- The word of the reading of the given nanoseconds. -/
def ofNanos (nanos : UInt64) : UInt64 := if reserved ≤ nanos then reserved - 1 else nanos

/-- A wide number in a word of 64 bits, or the largest of them if it is beyond. -/
def narrow (n : Nat) : UInt64 := if n ≤ maxWord then .ofNat n else reserved

/-- The word of the reading at a distance of whole seconds and further nanoseconds. -/
def ofDuration? (secs : UInt64) (nanos : UInt32) : Option UInt64 := do
  let whole ← unsignedWide? (secs.toNat * nanosPerSecond)
  let total ← unsignedWide? (whole + nanos.toNat)
  return ofNanos (narrow total)

/-- The word of a reading moved by a number of frames. -/
def addFrames? (word : UInt64) (frames : Int64) (rate : UInt32) : Option UInt64 :=
  if rate = 0 then some word
  else do
    let product ← wide? (frames.toInt * nanosPerSecond)
    let shift ← wide? (product.tdiv rate.toNat)
    let place ← wide? (word.toNat + shift)
    return ofNanos (.ofNat (max 0 (min place reserved.toNat)).toNat)

/-- The nanoseconds of a number of frames. -/
def durationNanos? (rate : UInt32) (frames : UInt64) : Option UInt64 :=
  if rate = 0 then some 0
  else do
    let product ← unsignedWide? (frames.toNat * nanosPerSecond)
    let quotient ← unsignedWide? (product / rate.toNat)
    return narrow quotient

/-- The number of frames of a shift, whatever its sign. -/
def magnitude (frames : Int64) : UInt64 := .ofNat frames.toInt.natAbs

theorem toNat_magnitude (frames : Int64) : (magnitude frames).toNat = frames.toInt.natAbs := by
  have hlow := frames.le_toInt
  have hhigh := frames.toInt_lt
  unfold magnitude
  apply UInt64.toNat_ofNat_of_lt'
  unfold UInt64.size
  omega

theorem toNat_narrow (n : Nat) : (narrow n).toNat = min n maxWord := by
  unfold narrow
  split
  · next hle =>
    unfold maxWord at *
    rw [UInt64.toNat_ofNat_of_lt' (by unfold UInt64.size; omega)]
    omega
  · next hgt =>
    have hreserved : reserved.toNat = maxWord := rfl
    omega

end ClockWord

/-! ## What the machine computes -/

namespace Timestamp

/-- The word of a reading. -/
def word (t : Timestamp) : UInt64 := .ofNat t.nanos

@[simp] theorem toNat_word (t : Timestamp) : t.word.toNat = t.nanos := by
  have hlt := t.nanos_lt
  unfold unrecorded at hlt
  exact UInt64.toNat_ofNat_of_lt' (by unfold UInt64.size; omega)

/-- The word of a reading is not the reserved one. -/
theorem word_ne_reserved (t : Timestamp) : t.word ≠ ClockWord.reserved := by
  intro h
  have hlt := t.nanos_lt
  have hnanos : t.nanos = unrecorded := by
    rw [← t.toNat_word, h]
    rfl
  omega

end Timestamp

/-- A duration rounds down, and stops at the largest word. -/
theorem StreamConfig.nanos_framesToDuration (config : StreamConfig) (frames : Nat) :
    (config.framesToDuration frames).nanos =
      min (frames * nanosPerSecond / config.rate) maxWord := by
  unfold framesToDuration
  split
  · next hzero =>
    rw [hzero, Nat.div_zero]
    rfl
  · rfl

namespace ClockWord

theorem ofNanos_eq (nanos : UInt64) : ofNanos nanos = (Timestamp.ofNanos nanos.toNat).word := by
  have hreserved : reserved.toNat = Timestamp.latest + 1 := rfl
  have hlast : (reserved - 1).toNat = Timestamp.latest := rfl
  apply UInt64.toNat_inj.mp
  rw [Timestamp.toNat_word, Timestamp.nanos_ofNanos]
  unfold ofNanos
  split
  · next hle =>
    rw [UInt64.le_iff_toNat_le] at hle
    omega
  · next hlt =>
    rw [UInt64.le_iff_toNat_le] at hlt
    omega

/-- Numbers that are brought into the clock are the same in a word or before. -/
theorem ofNanos_narrow (n : Nat) : ofNanos (narrow n) = (Timestamp.ofNanos n).word := by
  have hlatest : Timestamp.latest ≤ maxWord := by decide
  rw [ofNanos_eq, toNat_narrow]
  congr 1
  apply Timestamp.ext
  rw [Timestamp.nanos_ofNanos, Timestamp.nanos_ofNanos]
  omega

theorem ofDuration?_eq (secs : UInt64) (nanos : UInt32) :
    ofDuration? secs nanos =
      some (Timestamp.ofDuration (.ofParts secs.toNat nanos.toNat)).word := by
  have hsecs := secs.toNat_lt
  have hnanos := nanos.toNat_lt
  have hwhole : unsignedWide? (secs.toNat * nanosPerSecond) = some (secs.toNat * nanosPerSecond) :=
    unsignedWide?_eq_some (by unfold nanosPerSecond; omega)
  have htotal : unsignedWide? (secs.toNat * nanosPerSecond + nanos.toNat) =
      some (secs.toNat * nanosPerSecond + nanos.toNat) :=
    unsignedWide?_eq_some (by unfold nanosPerSecond; omega)
  rw [ofDuration?, hwhole, Option.bind_eq_bind, Option.bind_some, htotal, Option.bind_some,
    ofNanos_narrow]
  rfl

/-- A place that is brought into a word leads to the reading that it leads to before. -/
theorem ofNanos_clamped (place : Int) :
    ofNanos (.ofNat (max 0 (min place reserved.toNat)).toNat) =
      (Timestamp.ofNanos place.toNat).word := by
  have hreserved : reserved.toNat = Timestamp.latest + 1 := rfl
  have hsize : reserved.toNat < UInt64.size := by decide
  rw [ofNanos_eq, UInt64.toNat_ofNat_of_lt' (by omega)]
  congr 1
  apply Timestamp.ext
  rw [Timestamp.nanos_ofNanos, Timestamp.nanos_ofNanos]
  omega

/-- No result of a shift is longer than a wide word. -/
theorem wide?_shift (word : UInt64) (frames : Int64) (rate : UInt32) :
    let product := frames.toInt * nanosPerSecond
    let shift := product.tdiv rate.toNat
    wide? product = some product ∧ wide? shift = some shift ∧
      wide? (word.toNat + shift) = some (word.toNat + shift) := by
  intro product shift
  have hword := word.toNat_lt
  have hlow := frames.le_toInt
  have hhigh := frames.toInt_lt
  have hproduct : -0x2000000000000000000000000 ≤ product ∧ product < 0x2000000000000000000000000 := by
    have heq : product = frames.toInt * 1000000000 := rfl
    omega
  have hshift : shift.natAbs ≤ product.natAbs := Int.natAbs_tdiv_le_natAbs product rate.toNat
  refine ⟨wide?_eq_some ?_ ?_, wide?_eq_some ?_ ?_, wide?_eq_some ?_ ?_⟩ <;> omega

theorem addFrames?_eq (t : Timestamp) (frames : Int64) (rate : UInt32) :
    addFrames? t.word frames rate = some (t.addFrames frames.toInt rate.toNat).word := by
  obtain ⟨hproduct, hshift, hplace⟩ := wide?_shift t.word frames rate
  by_cases hrate : rate = 0
  · subst hrate
    rfl
  · have hpos : rate.toNat ≠ 0 := fun h => hrate (UInt32.toNat_inj.mp h)
    rw [addFrames?, if_neg hrate, Option.bind_eq_bind, hproduct, Option.bind_some, hshift,
      Option.bind_some, hplace, Option.bind_some, ofNanos_clamped, t.toNat_word,
      Timestamp.addFrames, if_neg hpos]
    rfl

theorem durationNanos?_eq (config : StreamConfig) (rate : UInt32) (frames : UInt64) :
    (durationNanos? rate frames).map UInt64.toNat =
      some ({ config with rate := rate.toNat }.framesToDuration frames.toNat).nanos := by
  rw [StreamConfig.nanos_framesToDuration]
  by_cases hrate : rate = 0
  · subst hrate
    show some 0 = some (min (_ / 0) maxWord)
    rw [Nat.div_zero]
    rfl
  · have hframes := frames.toNat_lt
    have hproduct : unsignedWide? (frames.toNat * nanosPerSecond) =
        some (frames.toNat * nanosPerSecond) :=
      unsignedWide?_eq_some (by unfold nanosPerSecond; omega)
    have hle : frames.toNat * nanosPerSecond / rate.toNat ≤ frames.toNat * nanosPerSecond :=
      Nat.div_le_self _ _
    have hquotient : unsignedWide? (frames.toNat * nanosPerSecond / rate.toNat) =
        some (frames.toNat * nanosPerSecond / rate.toNat) :=
      unsignedWide?_eq_some (by unfold nanosPerSecond at *; omega)
    rw [durationNanos?, if_neg hrate, hproduct, Option.bind_eq_bind, Option.bind_some, hquotient,
      Option.bind_some]
    exact congrArg some (toNat_narrow _)

end ClockWord

/-! ## A shift is a duration -/

namespace Timestamp

/-- As many frames forth lead as far as they last, or to the last reading. -/
theorem nanos_addFrames_natCast (t : Timestamp) (frames : Nat) (config : StreamConfig) :
    (t.addFrames frames config.rate).nanos =
      min (t.nanos + (config.framesToDuration frames).nanos) latest := by
  have hmoved := t.nanos_addFrames frames config.rate
  have hlatest : latest ≤ maxWord := by decide
  rw [place, shiftNanos_natCast] at hmoved
  rw [config.nanos_framesToDuration]
  generalize frames * nanosPerSecond / config.rate = nanos at *
  omega

/-- As many frames back lead as far as they last, or to the start of the clock. -/
theorem nanos_addFrames_neg_natCast (t : Timestamp) (frames : Nat) (config : StreamConfig) :
    ((t.addFrames (-frames) config.rate).nanos : Int) =
      max ((t.nanos : Int) - (config.framesToDuration frames).nanos) 0 := by
  have hmoved := t.nanos_addFrames (-frames) config.rate
  have hlatest : latest ≤ maxWord := by decide
  have hle := t.nanos_le_latest
  rw [place, shiftNanos_neg, shiftNanos_natCast] at hmoved
  rw [config.nanos_framesToDuration]
  generalize frames * nanosPerSecond / config.rate = nanos at *
  omega

/-- A shift by any signed word of frames at any rate is the duration of its frames, added up to the
last reading or taken away down to the start of the clock.  The machine computes both without a
result that does not fit its word. -/
theorem addFrames_by_duration (t : Timestamp) (frames : Int64) (rate : UInt32)
    (config : StreamConfig) :
    let duration := { config with rate := rate.toNat }.framesToDuration frames.toInt.natAbs
    let shifted := t.addFrames frames.toInt rate.toNat
    (0 ≤ frames → shifted.nanos = min (t.nanos + duration.nanos) latest) ∧
      (frames < 0 → (shifted.nanos : Int) = max ((t.nanos : Int) - duration.nanos) 0) ∧
      (ClockWord.addFrames? t.word frames rate).map UInt64.toNat = some shifted.nanos ∧
      (ClockWord.durationNanos? rate (ClockWord.magnitude frames)).map UInt64.toNat =
        some duration.nanos := by
  intro duration shifted
  refine ⟨?_, ?_, ?_, ?_⟩
  · intro hsign
    have hnonneg : 0 ≤ frames.toInt := Int64.le_iff_toInt_le.mp hsign
    have hframes : frames.toInt = (frames.toInt.natAbs : Int) := by omega
    show (t.addFrames frames.toInt rate.toNat).nanos = _
    rw [hframes]
    exact t.nanos_addFrames_natCast _ { config with rate := rate.toNat }
  · intro hsign
    have hneg : frames.toInt < 0 := Int64.lt_iff_toInt_lt.mp hsign
    have hframes : frames.toInt = -(frames.toInt.natAbs : Int) := by omega
    show ((t.addFrames frames.toInt rate.toNat).nanos : Int) = _
    rw [hframes]
    exact t.nanos_addFrames_neg_natCast _ { config with rate := rate.toNat }
  · rw [ClockWord.addFrames?_eq, Option.map_some, toNat_word]
  · rw [ClockWord.durationNanos?_eq config, ClockWord.toNat_magnitude]

/-- The longest way back there is: its duration is longer than a word tells, and the shift stops at
the start of the clock. -/
theorem addFrames_by_duration_longest :
    Int64.minValue < 0 ∧
      ((ofNanos maxWord).addFrames Int64.minValue.toInt 1).nanos =
        max (((ofNanos maxWord).nanos : Int) -
          (({ rate := 1 } : StreamConfig).framesToDuration Int64.minValue.toInt.natAbs).nanos) 0 :=
  ⟨by decide, (addFrames_by_duration (ofNanos maxWord) Int64.minValue 1 {}).2.1 (by decide)⟩

end Timestamp

/-! ## Readings -/

/-- How a reading comes about. -/
inductive Reading
  /-- From nanoseconds. -/
  | ofNanos (nanos : UInt64)
  /-- From the distance to the start of the clock, in whole seconds and further nanoseconds. -/
  | ofDuration (secs : UInt64) (nanos : UInt32)
  /-- From another reading, moved by a number of frames. -/
  | addFrames (reading : Reading) (frames : Int64) (rate : UInt32)

namespace Reading

/-- The reading in numbers. -/
def time : Reading → Timestamp
  | ofNanos nanos => .ofNanos nanos.toNat
  | ofDuration secs nanos => .ofDuration (.ofParts secs.toNat nanos.toNat)
  | addFrames reading frames rate => reading.time.addFrames frames.toInt rate.toNat

/-- The reading as the machine computes it. -/
def word? : Reading → Option UInt64
  | ofNanos nanos => some (ClockWord.ofNanos nanos)
  | ofDuration secs nanos => ClockWord.ofDuration? secs nanos
  | addFrames reading frames rate => do ClockWord.addFrames? (← reading.word?) frames rate

/-- The machine computes every reading, and computes what the numbers give. -/
theorem word?_eq (r : Reading) : r.word? = some r.time.word := by
  induction r with
  | ofNanos nanos => exact congrArg some (ClockWord.ofNanos_eq nanos)
  | ofDuration secs nanos => exact ClockWord.ofDuration?_eq secs nanos
  | addFrames reading frames rate ih =>
    rw [word?, ih, Option.bind_eq_bind, Option.bind_some]
    exact ClockWord.addFrames?_eq reading.time frames rate

end Reading

end PcmStream
