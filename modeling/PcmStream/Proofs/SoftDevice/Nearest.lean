/-
  The supported value nearest to a given one, said without a search.

  `Nearest p value c`: of all numbers with the property `p`, none is closer to `value` than `c`, and
  none as close is smaller.  There is at most one such number (`Nearest.unique`), so the searches of
  `Supported` are determined by it: they find `c` if and only if `c` is the nearest one
  (`nearest_eq_some`, `nearestAtMost_eq_some`), and nothing if and only if no number qualifies.
-/
import PcmStream.SoftDevice.Supported

namespace PcmStream.Supported

/-- The number with a property that is nearest to a value, the smaller one on a tie. -/
structure Nearest (p : Nat → Prop) (value c : Nat) : Prop where
  /-- It has the property. -/
  holds : p c
  /-- No other one is closer. -/
  closest (x : Nat) (hx : p x) : distance c value ≤ distance x value
  /-- No smaller one is as close. -/
  smallest (x : Nat) (hx : p x) (htie : distance x value = distance c value) : c ≤ x

variable {p : Nat → Prop} {value bound c c' : Nat}

/-- A value that has the property itself is the nearest one. -/
theorem Nearest.self (h : p value) : Nearest p value value where
  holds := h
  closest x _ := by
    unfold distance
    omega
  smallest x _ htie := by
    unfold distance at htie
    omega

theorem Nearest.unique (h : Nearest p value c) (h' : Nearest p value c') : c = c' := by
  have htie : distance c' value = distance c value :=
    Nat.le_antisymm (h'.closest c h.holds) (h.closest c' h'.holds)
  exact Nat.le_antisymm (h.smallest c' h'.holds htie) (h'.smallest c h.holds htie.symm)

/-! ## The search in a list -/

theorem preferred_iff {a b : Nat} :
    preferred value a b = true ↔
      distance a value < distance b value ∨ distance a value = distance b value ∧ a ≤ b := by
  simp [preferred]

theorem nearestOf_eq_none {cs : List Nat} : nearestOf value cs = none ↔ cs = [] := by
  cases cs with
  | nil => exact ⟨fun _ => rfl, fun _ => rfl⟩
  | cons c cs =>
    rw [nearestOf]
    cases nearestOf value cs with
    | none => exact ⟨nofun, nofun⟩
    | some best => exact ⟨nofun, nofun⟩

theorem Nearest.singleton (value c : Nat) : Nearest (· ∈ [c]) value c where
  holds := List.mem_singleton_self c
  closest x hx := by
    obtain rfl := List.mem_singleton.mp hx
    exact Nat.le_refl _
  smallest x hx _ := by
    obtain rfl := List.mem_singleton.mp hx
    exact Nat.le_refl _

/-- One more candidate replaces the nearest one if it is to be preferred. -/
theorem Nearest.cons {first : Nat} {rest : List Nat} (h : Nearest (· ∈ rest) value c) :
    Nearest (· ∈ first :: rest) value (if preferred value first c then first else c) := by
  by_cases hfirst : preferred value first c = true
  · rw [if_pos hfirst]
    have hlt := preferred_iff.mp hfirst
    refine ⟨List.mem_cons_self, ?_, ?_⟩
    · intro x hx
      rcases List.mem_cons.mp hx with rfl | hx
      · exact Nat.le_refl _
      · have := h.closest x hx
        omega
    · intro x hx htie
      rcases List.mem_cons.mp hx with rfl | hx
      · exact Nat.le_refl _
      -- It is as close as the first one, so as close as `c` too, which is the smaller one then.
      · have := h.closest x hx
        have := h.smallest x hx
        omega
  · rw [if_neg hfirst]
    have hge := mt preferred_iff.mpr hfirst
    refine ⟨List.mem_cons_of_mem _ h.holds, ?_, ?_⟩
    · intro x hx
      rcases List.mem_cons.mp hx with rfl | hx
      · omega
      · exact h.closest x hx
    · intro x hx htie
      rcases List.mem_cons.mp hx with rfl | hx
      · omega
      · exact h.smallest x hx htie

/-- What the search finds is the nearest candidate. -/
theorem nearest_of_nearestOf {cs : List Nat} (h : nearestOf value cs = some c) :
    Nearest (· ∈ cs) value c := by
  induction cs generalizing c with
  | nil => cases h
  | cons first rest ih =>
    rw [nearestOf] at h
    cases hrest : nearestOf value rest with
    | none =>
      rw [hrest] at h
      cases h
      rw [nearestOf_eq_none.mp hrest]
      exact .singleton value first
    | some best =>
      rw [hrest] at h
      cases h
      exact (ih hrest).cons

theorem nearestOf_eq_some {cs : List Nat} :
    nearestOf value cs = some c ↔ Nearest (· ∈ cs) value c := by
  refine ⟨nearest_of_nearestOf, fun h => ?_⟩
  cases hfound : nearestOf value cs with
  | none =>
    have hmem := h.holds
    rw [nearestOf_eq_none.mp hfound] at hmem
    cases hmem
  | some best => rw [(nearest_of_nearestOf hfound).unique h]

/-! ## The search among supported values -/

variable {s : Supported}

theorem nearest_eq_some :
    s.nearest value = some c ↔ Nearest (fun x => s.contains x = true) value c := by
  cases s with
  | any =>
    have hself : Nearest (fun x => any.contains x = true) value value := .self rfl
    refine ⟨fun h => ?_, fun h => congrArg some (hself.unique h)⟩
    cases h
    exact hself
  | only values =>
    show nearestOf value values = some c ↔ Nearest (fun x => values.contains x = true) value c
    simp only [nearestOf_eq_some, List.contains_iff_mem]

theorem nearest_eq_none : s.nearest value = none ↔ ∀ x, s.contains x = false := by
  cases s with
  | any =>
    refine ⟨nofun, fun h => ?_⟩
    cases h 0
  | only values =>
    show nearestOf value values = none ↔ ∀ x, values.contains x = false
    rw [nearestOf_eq_none]
    constructor
    · rintro rfl x
      rfl
    · intro h
      refine List.eq_nil_iff_forall_not_mem.mpr fun x hx => ?_
      have hin := List.contains_iff_mem.mpr hx
      rw [h x] at hin
      cases hin

theorem nearestAtMost_eq_some :
    s.nearestAtMost value bound = some c ↔
      Nearest (fun x => s.contains x = true ∧ x ≤ bound) value c := by
  cases s with
  | any =>
    have hmin : Nearest (fun x => any.contains x = true ∧ x ≤ bound) value (min value bound) := by
      refine ⟨⟨rfl, Nat.min_le_right ..⟩, ?_, ?_⟩
      · rintro x ⟨-, hx⟩
        unfold distance
        omega
      · rintro x ⟨-, hx⟩ htie
        unfold distance at htie
        omega
    refine ⟨fun h => ?_, fun h => congrArg some (hmin.unique h)⟩
    cases h
    exact hmin
  | only values =>
    show nearestOf value (values.filter (· ≤ bound)) = some c ↔
      Nearest (fun x => values.contains x = true ∧ x ≤ bound) value c
    simp only [nearestOf_eq_some, List.mem_filter, List.contains_iff_mem, decide_eq_true_eq]

theorem nearestAtMost_eq_none :
    s.nearestAtMost value bound = none ↔ ∀ x, s.contains x = true → bound < x := by
  cases s with
  | any =>
    refine ⟨nofun, fun h => ?_⟩
    exact absurd (h 0 rfl) (Nat.not_lt_zero _)
  | only values =>
    show nearestOf value (values.filter (· ≤ bound)) = none ↔
      ∀ x, values.contains x = true → bound < x
    rw [nearestOf_eq_none, List.filter_eq_nil_iff]
    simp only [List.contains_iff_mem, decide_eq_true_eq, Nat.not_le]

/-- There is a nearest supported value unless none is supported. -/
theorem forall_not_nearest_iff :
    (∀ c, ¬ Nearest (fun x => s.contains x = true) value c) ↔ ∀ x, s.contains x = false := by
  have hnone : s.nearest value = none ↔ ∀ x, s.contains x = false := nearest_eq_none
  rw [← hnone, Option.eq_none_iff_forall_ne_some]
  exact forall_congr' fun c => not_congr nearest_eq_some.symm

/-- There is a nearest one of those up to a bound unless all are above it. -/
theorem forall_not_nearestAtMost_iff :
    (∀ c, ¬ Nearest (fun x => s.contains x = true ∧ x ≤ bound) value c) ↔
      ∀ x, s.contains x = true → bound < x := by
  have hnone : s.nearestAtMost value bound = none ↔ ∀ x, s.contains x = true → bound < x :=
    nearestAtMost_eq_none
  rw [← hnone, Option.eq_none_iff_forall_ne_some]
  exact forall_congr' fun c => not_congr nearestAtMost_eq_some.symm

end PcmStream.Supported
