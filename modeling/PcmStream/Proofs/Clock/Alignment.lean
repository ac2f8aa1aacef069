/-
  Aligning the two streams of a session: the offset between them, counted in frames, moves the first
  input onto the first output.

  Two truncated divisions stand between the two readings.  The offset is counted in whole frames
  (`Offset.exactFrames`), and these frames are turned into whole nanoseconds again
  (`Timestamp.shiftNanos`).  Both divisions are odd, so it is enough to look at offsets that are not
  negative, where both are quotients of natural numbers:

  * no more comes back than went in (`there_and_back_le`), so the first input never moves beyond the
    first output (`Offset.onTheWay_shift`);
  * what is missing is what the two divisions drop: less than one frame and one nanosecond
    (`le_there_and_back`), hence no more than one frame in whole nanoseconds (`Offset.shift_near`).

  Up to a rate of one frame for each nanosecond there are no more frames than nanoseconds
  (`Offset.onTheWay_exactFrames`), so the count fits wherever the offset does.
  `first_input_aligned` says this of a record that has both readings.
-/
import PcmStream.Proofs.Clock.WriteOnce

namespace PcmStream

/-! ## Counting in frames and back -/

/-- The nanoseconds of one frame, rounded up. -/
def frameNanos (rate : Nat) : Nat := (nanosPerSecond + rate - 1) / rate

/-- Of a number of nanoseconds no more come back than went in. -/
theorem there_and_back_le (nanos rate : Nat) :
    nanos * rate / nanosPerSecond * nanosPerSecond / rate ≤ nanos := by
  apply Nat.div_le_of_le_mul
  calc nanos * rate / nanosPerSecond * nanosPerSecond
      ≤ nanos * rate := Nat.div_mul_le_self _ _
    _ = rate * nanos := Nat.mul_comm _ _

/-- What does not come back is at most one frame. -/
theorem le_there_and_back (nanos : Nat) {rate : Nat} (hrate : 0 < rate) :
    nanos ≤ nanos * rate / nanosPerSecond * nanosPerSecond / rate + frameNanos rate := by
  have hsecond : 0 < nanosPerSecond := by decide
  have hframes := Nat.lt_mul_div_succ (nanos * rate) hsecond
  have hback := Nat.lt_mul_div_succ (nanos * rate / nanosPerSecond * nanosPerSecond) hrate
  have hframe := Nat.lt_mul_div_succ (nanosPerSecond + rate - 1) hrate
  unfold frameNanos
  generalize nanos * rate / nanosPerSecond = frames at *
  generalize frames * nanosPerSecond / rate = back at *
  generalize (nanosPerSecond + rate - 1) / rate = frame at *
  rw [Nat.mul_add, Nat.mul_one] at hframes hback hframe
  rw [Nat.mul_comm nanos, Nat.mul_comm nanosPerSecond] at hframes
  -- A second is no longer than its frames, each rounded up.
  have hle : nanosPerSecond ≤ rate * frame := by omega
  have hmul : rate * nanos < rate * (back + frame + 1) := by
    rw [Nat.mul_add, Nat.mul_add, Nat.mul_one]
    omega
  exact Nat.le_of_lt_succ (Nat.lt_of_mul_lt_mul_left hmul)

/-- The number `x` lies on the way from zero to `y`. -/
def OnTheWay (x y : Int) : Prop := (0 ≤ y → 0 ≤ x ∧ x ≤ y) ∧ (y ≤ 0 → y ≤ x ∧ x ≤ 0)

namespace OnTheWay

theorem of_le {m n : Nat} (h : m ≤ n) : OnTheWay m n := by
  unfold OnTheWay
  omega

theorem neg {x y : Int} (h : OnTheWay x y) : OnTheWay (-x) (-y) := by
  unfold OnTheWay at *
  omega

/-- What lies on the way goes the same way, unless it is zero. -/
theorem sign {x y : Int} (h : OnTheWay x y) : x = 0 ∨ x.sign = y.sign := by
  obtain ⟨hforth, hback⟩ := h
  rcases Int.lt_trichotomy x 0 with hx | hx | hx
  · have hy : y < 0 := by omega
    exact .inr ((Int.sign_eq_neg_one_of_neg hx).trans (Int.sign_eq_neg_one_of_neg hy).symm)
  · exact .inl hx
  · have hy : 0 < y := by omega
    exact .inr ((Int.sign_eq_one_of_pos hx).trans (Int.sign_eq_one_of_pos hy).symm)

end OnTheWay

namespace Offset

/-! ## The offset in frames -/

/-- The opposite offset has the opposite number of frames. -/
theorem exactFrames_neg (nanos : Int) (rate : Nat) :
    exactFrames ⟨-nanos⟩ rate = -exactFrames ⟨nanos⟩ rate := by
  unfold exactFrames
  rw [Int.neg_mul, Int.neg_tdiv]

theorem exactFrames_natCast (nanos rate : Nat) :
    exactFrames ⟨nanos⟩ rate = (nanos * rate / nanosPerSecond : Nat) := rfl

/-- Up to one frame for each nanosecond there are no more frames than nanoseconds. -/
theorem onTheWay_exactFrames (o : Offset) {rate : Nat} (hrate : rate ≤ nanosPerSecond) :
    OnTheWay (o.exactFrames rate) o.nanos := by
  have hnat : ∀ k : Nat, OnTheWay (exactFrames ⟨k⟩ rate) k := by
    intro k
    rw [exactFrames_natCast]
    apply OnTheWay.of_le
    apply Nat.div_le_of_le_mul
    rw [Nat.mul_comm]
    exact Nat.mul_le_mul_right k hrate
  obtain ⟨nanos⟩ := o
  obtain ⟨k, rfl | rfl⟩ := nanos.eq_nat_or_neg
  · exact hnat k
  · rw [exactFrames_neg]
    exact (hnat k).neg

/-- A count of frames within a signed word is not changed by narrowing it. -/
theorem frames_eq_exactFrames {o : Offset} {rate : Nat} (hlow : minSigned ≤ o.exactFrames rate)
    (hhigh : o.exactFrames rate ≤ maxSigned) : o.frames rate = o.exactFrames rate := by
  unfold minSigned at hlow
  unfold maxSigned at hhigh
  apply Int.bmod_eq_of_le
  · unfold wordCount
    omega
  · unfold wordCount
    omega

/-! ## The shift by that many frames -/

/-- The nanoseconds of the frames of an offset. -/
def shift (o : Offset) (rate : Nat) : Int := Timestamp.shiftNanos (o.exactFrames rate) rate

theorem shift_neg (nanos : Int) (rate : Nat) : shift ⟨-nanos⟩ rate = -shift ⟨nanos⟩ rate := by
  unfold shift
  rw [exactFrames_neg, Timestamp.shiftNanos_neg]

theorem shift_natCast (nanos rate : Nat) :
    shift ⟨nanos⟩ rate = (nanos * rate / nanosPerSecond * nanosPerSecond / rate : Nat) := rfl

/-- The shift does not lead beyond the offset. -/
theorem onTheWay_shift (o : Offset) (rate : Nat) : OnTheWay (o.shift rate) o.nanos := by
  obtain ⟨nanos⟩ := o
  obtain ⟨k, rfl | rfl⟩ := nanos.eq_nat_or_neg
  · rw [shift_natCast]
    exact .of_le (there_and_back_le k rate)
  · rw [shift_neg, shift_natCast]
    exact (OnTheWay.of_le (there_and_back_le k rate)).neg

/-- The shift falls short of the offset by at most one frame. -/
theorem shift_near (o : Offset) {rate : Nat} (hrate : 0 < rate) :
    (o.nanos - o.shift rate).natAbs ≤ frameNanos rate := by
  obtain ⟨nanos⟩ := o
  obtain ⟨k, rfl | rfl⟩ := nanos.eq_nat_or_neg
  · have hle := there_and_back_le k rate
    have hnear := le_there_and_back k hrate
    rw [shift_natCast]
    show ((k : Int) - _).natAbs ≤ _
    omega
  · have hle := there_and_back_le k rate
    have hnear := le_there_and_back k hrate
    rw [shift_neg, shift_natCast]
    show (-(k : Int) - _).natAbs ≤ _
    omega

end Offset

/-! ## The first input on the first output -/

namespace StartTimes

/-- In a record that has both readings, no further apart than a signed word holds, the offset in
frames is exact, fits a signed word and goes the way the offset goes.  The first input moved by that
many frames meets no end of the clock, lies between the first input and the first output, and is at
most one frame away from the first output. -/
theorem first_input_aligned {s : StartTimes} {input output : Timestamp} {rate : Nat}
    (hinput : s.first? .input = some input) (houtput : s.first? .output = some output)
    (hlow : minSigned ≤ (output.nanos : Int) - input.nanos)
    (hhigh : (output.nanos : Int) - input.nanos ≤ maxSigned)
    (hpos : 1 ≤ rate) (hrate : rate ≤ nanosPerSecond) :
    ∃ offset, s.offset? = some offset ∧ offset.nanos = (output.nanos : Int) - input.nanos ∧
      let frames := offset.frames rate
      let aligned := input.addFrames frames rate
      (frames = offset.exactFrames rate ∧ minSigned ≤ frames ∧ frames ≤ maxSigned) ∧
      (frames = 0 ∨ frames.sign = offset.nanos.sign) ∧
      (Timestamp.OnClock (input.place frames rate) ∧
        (aligned.nanos : Int) = input.place frames rate) ∧
      (min input.nanos output.nanos ≤ aligned.nanos ∧
        aligned.nanos ≤ max input.nanos output.nanos) ∧
      ((output.nanos : Int) - aligned.nanos).natAbs ≤ frameNanos rate := by
  have hnanos : (Offset.between input output).nanos = (output.nanos : Int) - input.nanos := by
    show max minSigned (min maxSigned _) = _
    omega
  refine ⟨.between input output, offset?_of_first hinput houtput, hnanos, ?_⟩
  generalize Offset.between input output = o at hnanos
  have hway := o.onTheWay_exactFrames hrate
  have hzero : minSigned ≤ 0 ∧ 0 ≤ maxSigned := by decide
  have hfits : minSigned ≤ o.exactFrames rate ∧ o.exactFrames rate ≤ maxSigned := by
    unfold OnTheWay at hway
    omega
  have hframes := Offset.frames_eq_exactFrames hfits.1 hfits.2
  rw [hframes]
  intro frames aligned
  have hshift := o.onTheWay_shift rate
  have hnear : (o.nanos - o.shift rate).natAbs ≤ frameNanos rate := o.shift_near hpos
  have hplace : input.place frames rate = input.nanos + o.shift rate := rfl
  have hi := input.nanos_le_latest
  have ho := output.nanos_le_latest
  -- On the way from the first input to the first output there is no end of the clock.
  have hclock : Timestamp.OnClock (input.place frames rate) := by
    unfold Timestamp.OnClock
    unfold OnTheWay at hshift
    omega
  have haligned : (aligned.nanos : Int) = input.nanos + o.shift rate :=
    (Timestamp.nanos_addFrames_of_onClock hclock).trans hplace
  refine ⟨⟨rfl, hfits⟩, hway.sign, ⟨hclock, haligned.trans hplace.symm⟩, ?_, ?_⟩
  · unfold OnTheWay at hshift
    omega
  · omega

/-- A record whose input started at the end of the clock, and whose output started as long before as
a signed word can tell. -/
def farApart : StartTimes := { input := 0xfffffffffffffffe, output := 0x7ffffffffffffffe }

theorem first_input_aligned_farApart :
    ∃ input output offset, farApart.first? .input = some input ∧
      farApart.first? .output = some output ∧ farApart.offset? = some offset ∧
        offset.nanos = minSigned ∧ offset.frames 44100 = offset.exactFrames 44100 ∧
          ((output.nanos : Int) - (input.addFrames (offset.frames 44100) 44100).nanos).natAbs ≤
            frameNanos 44100 := by
  have hinput : farApart.first? .input = some ⟨0xfffffffffffffffe, by decide⟩ := rfl
  have houtput : farApart.first? .output = some ⟨0x7ffffffffffffffe, by decide⟩ := rfl
  obtain ⟨offset, hoffset, hnanos, ⟨hexact, -⟩, -, -, -, hnear⟩ :=
    first_input_aligned hinput houtput (by decide) (by decide) (show 1 ≤ 44100 by decide)
      (by decide)
  exact ⟨_, _, offset, hinput, houtput, hoffset, hnanos, hexact, hnear⟩

end StartTimes

end PcmStream
