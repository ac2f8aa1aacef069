/-
  Moving clock readings by frames.

  A signed number of frames takes a signed number of nanoseconds, truncated toward zero
  (`shiftNanos`).  `place` is where a reading would go without the ends of the clock, and
  `nanos_addFrames` says that `addFrames` goes there and stops at the ends.  All that is said of
  `addFrames` comes from that equation and from three facts about the truncated shift:

  * it is odd, since truncation toward zero does not know a direction (`shiftNanos_neg`);
  * it is monotone (`shiftNanos_mono`);
  * it is additive but for one nanosecond (`shiftNanos_add_near`).  What truncation drops has the
    sign of what it is dropped from, so of the three parts dropped from `a`, `b` and `a + b` one
    always makes up for another, and what remains is less than two nanoseconds.

  `addFrames_orderly` puts them together.
-/
import PcmStream.Clock.Timestamp

namespace PcmStream

/-! ## Truncated quotients -/

/-- What truncation drops is less than the divisor, and has the sign of the dividend. -/
theorem tmod_bounds (x : Int) {r : Int} (hr : 0 < r) :
    (0 ≤ x → 0 ≤ x.tmod r) ∧ (x ≤ 0 → x.tmod r ≤ 0) ∧ -r < x.tmod r ∧ x.tmod r < r := by
  refine ⟨Int.tmod_nonneg r, ?_, Int.lt_tmod_of_pos x hr, Int.tmod_lt_of_pos x hr⟩
  intro hx
  have hneg := Int.tmod_nonneg r (show 0 ≤ -x by omega)
  rw [Int.neg_tmod] at hneg
  omega

/-- Truncated quotients are additive but for one. -/
theorem tdiv_add_near (x y : Int) {r : Int} (hr : 0 < r) :
    (x.tdiv r + y.tdiv r - (x + y).tdiv r).natAbs ≤ 1 := by
  have hx := Int.mul_tdiv_add_tmod x r
  have hy := Int.mul_tdiv_add_tmod y r
  have hsum := Int.mul_tdiv_add_tmod (x + y) r
  obtain ⟨hx₁, hx₂, hx₃, hx₄⟩ := tmod_bounds x hr
  obtain ⟨hy₁, hy₂, hy₃, hy₄⟩ := tmod_bounds y hr
  obtain ⟨hs₁, hs₂, hs₃, hs₄⟩ := tmod_bounds (x + y) hr
  generalize x.tdiv r = p, y.tdiv r = q, (x + y).tdiv r = s, x.tmod r = a, y.tmod r = b,
    (x + y).tmod r = c at *
  have hdropped : r * (p + q - s) = c - a - b := by
    rw [Int.mul_sub, Int.mul_add]
    omega
  -- Of three numbers that sum up to zero two have the same sign, so the parts never add up.
  have hsmall : -(r * 2) < c - a - b ∧ c - a - b < r * 2 := by
    rcases Int.le_total 0 x with h | h <;> rcases Int.le_total 0 y with h' | h' <;>
      rcases Int.le_total 0 (x + y) with h'' | h'' <;> omega
  have hlt : p + q - s < 2 := Int.lt_of_mul_lt_mul_left (hdropped ▸ hsmall.2) (by omega)
  have hgt : -2 < p + q - s := by
    apply Int.lt_of_mul_lt_mul_left (a := r) _ (by omega)
    rw [hdropped]
    omega
  omega

namespace Timestamp

/-! ## The nanoseconds of a number of frames -/

/-- As many frames back take as long as they take forth. -/
theorem shiftNanos_neg (frames : Int) (rate : Nat) :
    shiftNanos (-frames) rate = -shiftNanos frames rate := by
  unfold shiftNanos
  rw [Int.neg_mul, Int.neg_tdiv]

theorem shiftNanos_natCast (frames rate : Nat) :
    shiftNanos frames rate = (frames * nanosPerSecond / rate : Nat) := rfl

/-- At a rate of zero frames take no time. -/
@[simp] theorem shiftNanos_rate_zero (frames : Int) : shiftNanos frames 0 = 0 := Int.tdiv_zero _

/-- More frames take no less time. -/
theorem shiftNanos_mono {a b : Int} (h : a ≤ b) (rate : Nat) :
    shiftNanos a rate ≤ shiftNanos b rate := by
  rcases Nat.eq_zero_or_pos rate with rfl | hrate
  · simp
  · have hmul : a * nanosPerSecond ≤ b * nanosPerSecond :=
      Int.mul_le_mul_of_nonneg_right h (Int.natCast_nonneg _)
    exact Int.tdiv_le_tdiv (by omega) hmul

/-- Two shifts take as long as the shift by both counts, but for one nanosecond. -/
theorem shiftNanos_add_near (a b : Int) (rate : Nat) :
    (shiftNanos a rate + shiftNanos b rate - shiftNanos (a + b) rate).natAbs ≤ 1 := by
  rcases Nat.eq_zero_or_pos rate with rfl | hrate
  · simp
  · unfold shiftNanos
    rw [Int.add_mul]
    exact tdiv_add_near _ _ (by omega)

/-! ## Where a reading goes -/

/-- Where a reading goes if the clock has no ends. -/
def place (t : Timestamp) (frames : Int) (rate : Nat) : Int := t.nanos + shiftNanos frames rate

/-- The places between the ends of the clock. -/
def OnClock (place : Int) : Prop := 0 ≤ place ∧ place ≤ latest

instance (place : Int) : Decidable (OnClock place) := by
  unfold OnClock
  infer_instance

/-- Readings are ordered by their nanoseconds. -/
instance : LE Timestamp := leOfOrd

theorem le_iff_nanos {t u : Timestamp} : t ≤ u ↔ t.nanos ≤ u.nanos :=
  (Nat.isLE_compare : (compare t.nanos u.nanos).isLE ↔ _)

theorem nanos_le_latest (t : Timestamp) : t.nanos ≤ latest := Nat.le_pred_of_lt t.nanos_lt

/-- A reading goes to its place, or to the end of the clock that it meets on the way. -/
theorem nanos_addFrames (t : Timestamp) (frames : Int) (rate : Nat) :
    ((t.addFrames frames rate).nanos : Int) = max 0 (min (t.place frames rate) latest) := by
  have hle := t.nanos_le_latest
  unfold addFrames place
  split
  · next hzero =>
    rw [hzero, shiftNanos_rate_zero]
    omega
  · rw [nanos_ofNanos]
    omega

theorem nanos_addFrames_of_onClock {t : Timestamp} {frames : Int} {rate : Nat}
    (h : OnClock (t.place frames rate)) :
    ((t.addFrames frames rate).nanos : Int) = t.place frames rate := by
  obtain ⟨hlow, hhigh⟩ := h
  rw [nanos_addFrames]
  omega

/-- Of two readings the earlier one stays the earlier one. -/
theorem addFrames_le_addFrames {t u : Timestamp} (h : t ≤ u) (frames : Int) (rate : Nat) :
    t.addFrames frames rate ≤ u.addFrames frames rate := by
  rw [le_iff_nanos] at h ⊢
  have ht := t.nanos_addFrames frames rate
  have hu := u.nanos_addFrames frames rate
  unfold place at ht hu
  omega

/-- More frames lead no less far. -/
theorem addFrames_mono (t : Timestamp) {a b : Int} (h : a ≤ b) (rate : Nat) :
    t.addFrames a rate ≤ t.addFrames b rate := by
  rw [le_iff_nanos]
  have hshift := shiftNanos_mono h rate
  have ha := t.nanos_addFrames a rate
  have hb := t.nanos_addFrames b rate
  unfold place at ha hb
  omega

/-- A shift that met no end of the clock is undone by the opposite one. -/
theorem addFrames_neg {t : Timestamp} {frames : Int} {rate : Nat}
    (h : OnClock (t.place frames rate)) :
    (t.addFrames frames rate).addFrames (-frames) rate = t := by
  have hthere := nanos_addFrames_of_onClock h
  have hle := t.nanos_le_latest
  have hback : (t.addFrames frames rate).place (-frames) rate = t.nanos := by
    rw [place, hthere, shiftNanos_neg, place]
    omega
  have hclock : OnClock ((t.addFrames frames rate).place (-frames) rate) := by
    rw [hback]
    exact ⟨by omega, by omega⟩
  have hnanos := nanos_addFrames_of_onClock hclock
  rw [hback] at hnanos
  exact ext (by omega)

/-- Two shifts lead where the shift by both counts leads, but for one nanosecond, if none of the
three meets an end of the clock. -/
theorem addFrames_addFrames_near {t : Timestamp} {a b : Int} {rate : Nat}
    (ha : OnClock (t.place a rate)) (hb : OnClock ((t.addFrames a rate).place b rate))
    (hab : OnClock (t.place (a + b) rate)) :
    ((((t.addFrames a rate).addFrames b rate).nanos : Int) -
      (t.addFrames (a + b) rate).nanos).natAbs ≤ 1 := by
  have hnear := shiftNanos_add_near a b rate
  rw [nanos_addFrames_of_onClock hb, nanos_addFrames_of_onClock hab, place, place,
    nanos_addFrames_of_onClock ha, place]
  omega

/-- Shifts keep the order of readings and follow the order of counts, are undone by the opposite
shift, and add up but for one nanosecond, whatever the signs of the counts; the last two as long
as no end of the clock is met. -/
theorem addFrames_orderly (rate : Nat) :
    (∀ (t u : Timestamp) (a : Int), t ≤ u → t.addFrames a rate ≤ u.addFrames a rate) ∧
      (∀ (t : Timestamp) (a b : Int), a ≤ b → t.addFrames a rate ≤ t.addFrames b rate) ∧
      (∀ (t : Timestamp) (a : Int), OnClock (t.place a rate) →
        (t.addFrames a rate).addFrames (-a) rate = t) ∧
      ∀ (t : Timestamp) (a b : Int), OnClock (t.place a rate) →
        OnClock ((t.addFrames a rate).place b rate) → OnClock (t.place (a + b) rate) →
          ((((t.addFrames a rate).addFrames b rate).nanos : Int) -
            (t.addFrames (a + b) rate).nanos).natAbs ≤ 1 := by
  refine ⟨?_, ?_, ?_, ?_⟩
  · intro t u a h
    exact addFrames_le_addFrames h a rate
  · intro t a b h
    exact addFrames_mono t h rate
  · intro t a h
    exact addFrames_neg h
  · intro t a b ha hb hab
    exact addFrames_addFrames_near ha hb hab

/-- One frame back and three forth are two forth, but for the nanosecond; one back and one forth are
none. -/
theorem addFrames_orderly_backAndForth :
    let t := ofNanos 30000
    OnClock (t.place (-1) 44100) ∧ OnClock ((t.addFrames (-1) 44100).place 3 44100) ∧
      OnClock (t.place (-1 + 3) 44100) ∧ t.addFrames (-1) 44100 ≤ t.addFrames 3 44100 ∧
        (t.addFrames (-1) 44100).addFrames 1 44100 = t ∧
          ((((t.addFrames (-1) 44100).addFrames 3 44100).nanos : Int) -
            (t.addFrames (-1 + 3) 44100).nanos).natAbs ≤ 1 := by
  have hback : OnClock ((ofNanos 30000).place (-1) 44100) := by decide
  have hforth : OnClock (((ofNanos 30000).addFrames (-1) 44100).place 3 44100) := by decide
  have hboth : OnClock ((ofNanos 30000).place (-1 + 3) 44100) := by decide
  obtain ⟨-, hcounts, hundone, hsum⟩ := addFrames_orderly 44100
  exact ⟨hback, hforth, hboth, hcounts _ _ _ (by decide), hundone _ _ hback,
    hsum _ _ _ hback hforth hboth⟩

end Timestamp

end PcmStream
