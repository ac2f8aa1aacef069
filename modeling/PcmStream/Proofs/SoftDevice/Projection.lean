/-
  Settling on supported values is a monotone projection.

  What `nearest` finds is determined by the values that are supported (`nearest_eq_some`), so it
  depends neither on the order in which they are listed nor on how often (`nearest_congr`), and
  looking below a bound is looking among the values up to it (`nearestAtMost_eq_nearest`).  Everything
  else is said of `Nearest` and holds for both searches:

  * a value is its own nearest one exactly if it qualifies (`Nearest.self_iff`);
  * a larger value has no smaller nearest one (`Nearest.mono`).  Were the two the other way round,
    the smaller value would lie above and the larger one below the middle of them; so both values
    would lie in the middle, and of two candidates as close the smaller one is taken;
  * the nearest of more candidates is the nearest of fewer, if it is among these (`Nearest.of_imp`).
-/
import PcmStream.Proofs.SoftDevice.Nearest

namespace PcmStream.Supported

variable {p q : Nat → Prop} {v w a b c bound : Nat}

/-! ## Nearest values -/

theorem Nearest.congr (hpq : ∀ x, p x ↔ q x) : Nearest p v c ↔ Nearest q v c := by
  obtain rfl : p = q := funext fun x => propext (hpq x)
  exact Iff.rfl

/-- A value is its own nearest one exactly if it qualifies. -/
theorem Nearest.self_iff : Nearest p v v ↔ p v := by
  constructor
  · intro h
    exact h.holds
  · intro h
    exact .self h

/-- What is as close to the larger of two numbers as to the smaller one lies above their middle. -/
theorem middle_le (hlt : b < a) (hnear : distance a v ≤ distance b v) : a + b ≤ 2 * v := by
  unfold distance at hnear
  omega

/-- What is as close to the smaller of two numbers as to the larger one lies below their middle. -/
theorem le_middle (hlt : b < a) (hnear : distance b v ≤ distance a v) : 2 * v ≤ a + b := by
  unfold distance at hnear
  omega

/-- A larger value has no smaller nearest one. -/
theorem Nearest.mono (hv : Nearest p v a) (hw : Nearest p w b) (hle : v ≤ w) : a ≤ b := by
  rcases Nat.lt_or_ge b a with hlt | hge
  · have habove := middle_le hlt (hv.closest b hw.holds)
    have hbelow := le_middle hlt (hw.closest a hv.holds)
    -- Both values are in the middle of `b` and `a`, which are as close as each other then.
    have htie : distance b v = distance a v := by
      unfold distance
      omega
    exact hv.smallest b hw.holds htie
  · exact hge

/-- With fewer candidates the nearest one stays the same if it is still among them. -/
theorem Nearest.of_imp (h : Nearest p v c) (hqp : ∀ x, q x → p x) (hc : q c) : Nearest q v c where
  holds := hc
  closest x hx := h.closest x (hqp x hx)
  smallest x hx htie := h.smallest x (hqp x hx) htie

/-! ## Supported values -/

variable {s t : Supported}

/-- The search depends on what is supported, and not on how it is listed. -/
theorem nearest_congr (h : ∀ x, s.contains x = true ↔ t.contains x = true) (v : Nat) :
    s.nearest v = t.nearest v := by
  apply Option.ext
  intro c
  rw [nearest_eq_some, nearest_eq_some]
  exact Nearest.congr h

/-- The supported values up to a bound. -/
def upTo : Supported → Nat → Supported
  | any, bound => only (List.range (bound + 1))
  | only values, bound => only (values.filter (· ≤ bound))

theorem contains_only {values : List Nat} {x : Nat} :
    (only values).contains x = true ↔ x ∈ values := List.contains_iff_mem

theorem contains_upTo (s : Supported) (bound x : Nat) :
    (s.upTo bound).contains x = true ↔ s.contains x = true ∧ x ≤ bound := by
  cases s with
  | any =>
    show (only (List.range (bound + 1))).contains x = true ↔ _
    rw [contains_only, List.mem_range, Nat.lt_succ_iff]
    constructor
    · intro h
      exact ⟨rfl, h⟩
    · rintro ⟨-, h⟩
      exact h
  | only values =>
    show (only (values.filter (· ≤ bound))).contains x = true ↔ _
    rw [contains_only, contains_only, List.mem_filter, decide_eq_true_eq]

/-- Looking below a bound is looking among the values up to it. -/
theorem nearestAtMost_eq_nearest (s : Supported) (v bound : Nat) :
    s.nearestAtMost v bound = (s.upTo bound).nearest v := by
  apply Option.ext
  intro c
  rw [nearestAtMost_eq_some, nearest_eq_some]
  exact Nearest.congr fun x => (contains_upTo s bound x).symm

/-- Nothing is nearest only if nothing is listed. -/
theorem nearest_eq_none_iff (s : Supported) (v : Nat) : s.nearest v = none ↔ s = only [] := by
  cases s with
  | any =>
    constructor
    · intro h
      cases h
    · intro h
      cases h
  | only values =>
    show nearestOf v values = none ↔ only values = only []
    rw [nearestOf_eq_none, only.injEq]

/-- There is something nearest to every value or to none. -/
theorem exists_nearest (h : s.nearest v = some a) (w : Nat) : ∃ b, s.nearest w = some b := by
  apply Option.ne_none_iff_exists'.mp
  intro hnone
  rw [(nearest_eq_none_iff s w).mp hnone] at h
  cases h

/-- A larger value has no smaller nearest supported one. -/
theorem nearest_mono (s : Supported) (hle : v ≤ w) (h : s.nearest v = some a) :
    ∃ b, s.nearest w = some b ∧ a ≤ b := by
  obtain ⟨b, hb⟩ := exists_nearest h w
  exact ⟨b, hb, (nearest_eq_some.mp h).mono (nearest_eq_some.mp hb) hle⟩

/-- The search finds the nearest supported value, the smaller one on a tie, unless none is listed.
How the values are listed does not matter.  Exactly the supported values stay, and larger values lead
to no smaller ones.  The search below a bound is the same search among the supported values up to the
bound: it is monotone too, stays below the bound, and finds what the search without a bound finds
unless that is beyond it. -/
theorem nearest_projection (s : Supported) :
    (∀ v, s.nearest v = none ↔ s = only []) ∧
    (∀ v c, s.nearest v = some c ↔ Nearest (fun x => s.contains x = true) v c) ∧
    (∀ values values' : List Nat, (∀ x, x ∈ values ↔ x ∈ values') → ∀ v bound,
      (only values).nearest v = (only values').nearest v ∧
        (only values).nearestAtMost v bound = (only values').nearestAtMost v bound) ∧
    (∀ v, s.nearest v = some v ↔ s.contains v = true) ∧
    (∀ v w a, v ≤ w → s.nearest v = some a → ∃ b, s.nearest w = some b ∧ a ≤ b) ∧
    ∀ bound,
      (∀ v, s.nearestAtMost v bound = (s.upTo bound).nearest v) ∧
      (∀ x, (s.upTo bound).contains x = true ↔ s.contains x = true ∧ x ≤ bound) ∧
      (∀ v w a, v ≤ w → s.nearestAtMost v bound = some a →
        ∃ b, s.nearestAtMost w bound = some b ∧ a ≤ b) ∧
      (∀ v c, s.nearestAtMost v bound = some c → c ≤ bound) ∧
      ∀ v c, s.nearest v = some c → c ≤ bound → s.nearestAtMost v bound = some c := by
  refine ⟨nearest_eq_none_iff s, fun v c => nearest_eq_some, ?_, ?_, ?_, ?_⟩
  · intro values values' hsame v bound
    constructor
    · apply nearest_congr
      intro x
      rw [contains_only, contains_only]
      exact hsame x
    · rw [nearestAtMost_eq_nearest, nearestAtMost_eq_nearest]
      apply nearest_congr
      intro x
      rw [contains_upTo, contains_upTo, contains_only, contains_only, hsame x]
  · intro v
    rw [nearest_eq_some, Nearest.self_iff]
  · intro v w a hle h
    exact nearest_mono s hle h
  · intro bound
    refine ⟨fun v => nearestAtMost_eq_nearest s v bound, contains_upTo s bound, ?_, ?_, ?_⟩
    · intro v w a hle h
      rw [nearestAtMost_eq_nearest] at h ⊢
      exact nearest_mono _ hle h
    · intro v c h
      exact (nearestAtMost_eq_some.mp h).holds.2
    · intro v c h hc
      have hnearest := nearest_eq_some.mp h
      apply nearestAtMost_eq_some.mpr
      exact hnearest.of_imp (fun x hx => hx.1) ⟨hnearest.holds, hc⟩

/-- Halfway between two values the smaller one is nearest, and one step further the larger one.  In
another order, with one of them twice, it is the same. -/
theorem nearest_projection_halfway :
    let s := only [200, 100]
    s.nearest 150 = some 100 ∧ (∃ b, s.nearest 151 = some b ∧ 100 ≤ b) ∧
      s.nearest 150 = (only [100, 200, 100]).nearest 150 ∧
        s.nearestAtMost 151 199 = some 100 ∧ (∃ b, s.nearestAtMost 300 199 = some b ∧ 100 ≤ b) ∧
          s.nearestAtMost 150 199 = some 100 := by
  obtain ⟨-, -, hsame, -, hmono, hbound⟩ := nearest_projection (only [200, 100])
  obtain ⟨-, -, hmono', -, hwithin⟩ := hbound 199
  refine ⟨by decide, hmono 150 151 100 (by decide) (by decide), ?_, by decide,
    hmono' 151 300 100 (by decide) (by decide), hwithin 150 100 (by decide) (by decide)⟩
  refine (hsame [200, 100] [100, 200, 100] (fun x => ?_) 150 0).1
  simp only [List.mem_cons, List.not_mem_nil, or_false]
  omega

end PcmStream.Supported
