/-
  What silencing zeroes, byte by byte, and what that means for the samples of a view.

  `Memory.Zeroed m S m'` says that `m'` is `m` with exactly the bytes at the addresses in `S`
  zeroed.  Each operation that silences is specified by one such statement, and the sets compose:
  zeroing `S` and then `T` zeroes their union, so a fold over areas needs no induction of its own.

  * `zeroed_silenceFrom`  — what `silenceFrom k` zeroes is `View.Silenced k`;
  * `View.Sound`          — what the maker of a view promises: interleaved bytes are declared
    exactly, and areas cover their frames, do not share cells, and keep what they declare to
    themselves where their samples are packed;
  * `read_silenceFrom`    — over a sound view, the frames from `k` on read as silence and every
    earlier one reads as it did before.

  The promise about packed areas is needed because a packed area is silenced up to its declared
  end, which may lie far beyond its last frame.
-/
import PcmStream.View.Basic

namespace PcmStream

/-! ## Zeroed bytes -/

namespace Memory

/-- A byte outside of the memory reads as zero. -/
theorem byte_of_size_le {m : Memory} {j : Nat} (h : m.size ≤ j) : m.byte j = 0 := by
  have hnone : m.bytes[j]? = none := Array.getElem?_eq_none h
  rw [byte, Array.getD_eq_getD_getElem?, hnone, Option.getD_none]

/-- `m'` is `m` with exactly the bytes at the addresses in `S` zeroed. -/
structure Zeroed (m : Memory) (S : Nat → Prop) (m' : Memory) : Prop where
  /-- The size stays. -/
  size_eq : m'.size = m.size
  /-- The bytes in `S` are zero. -/
  inside : ∀ j, S j → m'.byte j = 0
  /-- All others are kept. -/
  outside : ∀ j, ¬ S j → m'.byte j = m.byte j

namespace Zeroed

variable {m m' m'' : Memory} {S T : Nat → Prop}

/-- Nothing is zeroed. -/
theorem none (m : Memory) (h : ∀ j, ¬ S j) : m.Zeroed S m where
  size_eq := rfl
  inside j hj := absurd hj (h j)
  outside _ _ := rfl

/-- Which addresses are zeroed matters, not how they are described. -/
theorem congr (h : m.Zeroed S m') (hST : ∀ j, S j ↔ T j) : m.Zeroed T m' where
  size_eq := h.size_eq
  inside j hj := h.inside j ((hST j).mpr hj)
  outside j hj := h.outside j fun hS => hj ((hST j).mp hS)

/-- Zeroing `S` and then `T` zeroes both. -/
theorem trans (h : m.Zeroed S m') (h' : m'.Zeroed T m'') : m.Zeroed (fun j => S j ∨ T j) m'' where
  size_eq := h'.size_eq.trans h.size_eq
  inside j hj := by
    by_cases hT : T j
    · exact h'.inside j hT
    · rw [h'.outside j hT]
      exact h.inside j (hj.resolve_right hT)
  outside j hj := by
    have hS : ¬ S j := fun hS => hj (.inl hS)
    have hT : ¬ T j := fun hT => hj (.inr hT)
    rw [h'.outside j hT, h.outside j hS]

/-- Zeroing for one thing after another zeroes what any of them covers. -/
theorem foldl {α : Type} {zero : Memory → α → Memory} {covers : α → Nat → Prop}
    (hzero : ∀ (m : Memory) a, m.Zeroed (covers a) (zero m a)) (list : List α) (m : Memory) :
    m.Zeroed (fun j => ∃ a ∈ list, covers a j) (list.foldl zero m) := by
  induction list generalizing m with
  | nil => exact none m (by simp)
  | cons a list ih =>
    have h := (hzero m a).trans (ih (zero m a))
    refine h.congr fun j => ?_
    simp only [List.mem_cons, exists_eq_or_imp]

/-- A sample all of whose bytes are zeroed is silent. -/
theorem loadSample_inside (h : m.Zeroed S m') (f : SampleFormat) {start : Nat}
    (hS : ∀ j, start ≤ j → j < start + f.bytes → S j) :
    m'.loadSample f start = Sample.silent f := by
  have hbytes : m'.load start f.bytes = List.replicate f.bytes 0 := by
    refine List.eq_replicate_iff.mpr ⟨length_load .., fun b hb => ?_⟩
    obtain ⟨j, hj, rfl⟩ := List.mem_map.mp hb
    obtain ⟨i, hi, rfl⟩ := List.mem_range'.mp hj
    exact h.inside _ (hS _ (by omega) (by omega))
  rw [loadSample, hbytes, ← Sample.toBytes_silent, Sample.ofBytes_toBytes]

/-- A sample none of whose bytes is zeroed is kept. -/
theorem loadSample_outside (h : m.Zeroed S m') (f : SampleFormat) {start : Nat}
    (hS : ∀ j, start ≤ j → j < start + f.bytes → ¬ S j) :
    m'.loadSample f start = m.loadSample f start := by
  rw [loadSample, loadSample, load_congr fun j hlo hhi => h.outside j (hS j hlo hhi)]

end Zeroed

/-- A fill with zero zeroes the bytes it covers; what lies outside of the memory is zero anyway. -/
theorem zeroed_fill (m : Memory) (start n : Nat) :
    m.Zeroed (fun j => start ≤ j ∧ j < start + n) (m.fill start n 0) where
  size_eq := size_fill ..
  inside j hj := by
    rw [byte_fill]
    by_cases hsize : j < m.size
    · rw [if_pos ⟨hj.1, hj.2, hsize⟩]
    · rw [if_neg fun h => hsize h.2.2]
      exact byte_of_size_le (by omega)
  outside j hj := by
    rw [byte_fill, if_neg fun h => hj ⟨h.1, h.2.1⟩]

end Memory

/-! ## The bytes that silencing zeroes -/

/-- The addresses of an area of `frames` samples of `bytes` bytes that silencing it from frame `k`
on zeroes: everything declared from there on if it is silenced as a whole or its samples are packed,
and otherwise the samples alone. -/
def ChannelArea.Silenced (a : ChannelArea) (bytes frames k j : Nat) : Prop :=
  if a.step = bytes ∨ k = 0 then a.start + k * bytes ≤ j ∧ j < a.start + a.length
  else ∃ n, (k ≤ n ∧ n < frames) ∧ a.start + n * a.step ≤ j ∧ j < a.start + n * a.step + bytes

namespace View

/-- The addresses that silencing a view from frame `k` on zeroes. -/
def Silenced (v : View) (k j : Nat) : Prop :=
  k < v.frames ∧
    match v.layout with
    | .interleaved base length => base + k * v.channels * v.format.bytes ≤ j ∧ j < base + length
    | .areas areas => ∃ a ∈ areas, a.Silenced v.format.bytes v.frames k j

/-- The addresses that a view declares. -/
def Declared (v : View) (j : Nat) : Prop :=
  match v.layout with
  | .interleaved base length => base ≤ j ∧ j < base + length
  | .areas areas => ∃ a ∈ areas, a.start ≤ j ∧ j < a.start + a.length

/-- All of them are zeroed if the view is silenced as a whole, even if it has no frames. -/
theorem zeroed_declared (v : View) (m : Memory) : m.Zeroed v.Declared (v.silence m) := by
  rw [silence]
  cases hl : v.layout with
  | interleaved base length =>
    refine (m.zeroed_fill base length).congr fun j => ?_
    simp only [Declared, hl]
  | areas areas =>
    refine (Memory.Zeroed.foldl (fun m a => m.zeroed_fill a.start a.length) areas m).congr
      fun j => ?_
    simp only [Declared, hl]

/-- What is silenced from frame 0 on is what the view declares. -/
theorem silenced_zero_iff {v : View} {j : Nat} : v.Silenced 0 j ↔ 0 < v.frames ∧ v.Declared j := by
  rw [Silenced, Declared]
  cases v.layout with
  | interleaved base length => simp only [Nat.zero_mul, Nat.add_zero]
  | areas areas =>
    simp only [ChannelArea.Silenced, or_true, if_true, Nat.zero_mul, Nat.add_zero]

theorem zeroed_silence (v : View) (m : Memory) (hf : 0 < v.frames) :
    m.Zeroed (v.Silenced 0) (v.silence m) := by
  refine (v.zeroed_declared m).congr fun j => ?_
  rw [silenced_zero_iff]
  exact (and_iff_right hf).symm

theorem zeroed_silenceArea (v : View) (m : Memory) {k : Nat} (hk : k ≠ 0) (a : ChannelArea) :
    m.Zeroed (a.Silenced v.format.bytes v.frames k) (v.silenceArea k m a) := by
  simp only [silenceArea]
  by_cases hstep : a.step = v.format.bytes
  · rw [if_pos hstep]
    refine (m.zeroed_fill _ _).congr fun j => ?_
    rw [ChannelArea.Silenced, if_pos (.inl hstep)]
    omega
  · rw [if_neg hstep]
    have hfold := Memory.Zeroed.foldl
      (fun m n => m.zeroed_fill (a.start + n * a.step) v.format.bytes)
      (List.range' k (v.frames - k)) m
    refine hfold.congr fun j => ?_
    rw [ChannelArea.Silenced, if_neg (by simp only [hstep, hk, or_self, not_false_eq_true])]
    refine exists_congr fun n => and_congr_left fun _ => ?_
    rw [List.mem_range'_1]
    omega

/-- What `silenceFrom` zeroes. -/
theorem zeroed_silenceFrom (v : View) (m : Memory) (k : Nat) :
    m.Zeroed (v.Silenced k) (v.silenceFrom m k) := by
  by_cases hk : v.frames ≤ k
  · rw [silenceFrom_of_le v m hk]
    exact .none m fun j hj => absurd hj.1 (by omega)
  · rw [silenceFrom, if_neg hk]
    by_cases h0 : k = 0
    · rw [if_pos h0]
      subst h0
      exact v.zeroed_silence m (by omega)
    · rw [if_neg h0]
      have hlt : k < v.frames := by omega
      cases hl : v.layout with
      | interleaved base length =>
        refine (m.zeroed_fill _ _).congr fun j => ?_
        simp only [Silenced, hl, hlt, true_and]
        omega
      | areas areas =>
        refine (Memory.Zeroed.foldl (fun m a => v.zeroed_silenceArea m h0 a) areas m).congr
          fun j => ?_
        simp only [Silenced, hl, hlt, true_and]

/-! ## Sound views -/

theorem areaOf_mem {areas : List ChannelArea} {channel : Nat} (h : channel < areas.length) :
    areaOf areas channel ∈ areas := by
  rw [areaOf, List.getD_eq_getElem?_getD, List.getElem?_eq_getElem h, Option.getD_some]
  exact List.getElem_mem h

theorem exists_areaOf_of_mem {areas : List ChannelArea} {a : ChannelArea} (h : a ∈ areas) :
    ∃ channel, channel < areas.length ∧ areaOf areas channel = a := by
  obtain ⟨channel, hc, rfl⟩ := List.getElem_of_mem h
  refine ⟨channel, hc, ?_⟩
  rw [areaOf, List.getD_eq_getElem?_getD, List.getElem?_eq_getElem hc, Option.getD_some]

/-- Two ranges of bytes, given by their starts and lengths, have no byte in common. -/
def Apart (start length start' length' : Nat) : Prop :=
  start + length ≤ start' ∨ start' + length' ≤ start

instance (start length start' length' : Nat) : Decidable (Apart start length start' length') :=
  inferInstanceAs (Decidable (_ ∨ _))

/-- What the maker of a view over areas promises. -/
structure AreasSound (v : View) (areas : List ChannelArea) : Prop where
  /-- There is one area per channel. -/
  length_eq : areas.length = v.channels
  /-- The declared length of an area covers all frames. -/
  covers : ∀ channel < v.channels, ∀ frame < v.frames,
    frame * (areaOf areas channel).step + v.format.bytes ≤ (areaOf areas channel).length
  /-- No two samples share a byte. -/
  cells_apart : ∀ channel < v.channels, ∀ frame < v.frames,
    ∀ channel' < v.channels, ∀ frame' < v.frames, (channel = channel' ∧ frame = frame') ∨
    Apart (v.address channel frame) v.format.bytes (v.address channel' frame') v.format.bytes
  /-- What a packed area declares holds no sample of another channel. -/
  packed_apart : ∀ channel < v.channels, ∀ channel' < v.channels, ∀ frame' < v.frames,
    channel ≠ channel' → (areaOf areas channel).step = v.format.bytes →
    Apart (areaOf areas channel).start (areaOf areas channel).length
      (v.address channel' frame') v.format.bytes

/-- What the maker of a view promises. -/
def Sound (v : View) : Prop :=
  match v.layout with
  | .interleaved _ length => length = v.frames * v.channels * v.format.bytes
  | .areas areas => v.AreasSound areas

/-- What is left of that promise if areas may overlap: the bytes that a view declares hold all of its
samples. -/
def Covered (v : View) : Prop :=
  match v.layout with
  | .interleaved _ length => length = v.frames * v.channels * v.format.bytes
  | .areas areas => areas.length = v.channels ∧
    ∀ a ∈ areas, ∀ frame < v.frames, frame * a.step + v.format.bytes ≤ a.length

theorem Sound.covered {v : View} (hv : v.Sound) : v.Covered := by
  rw [Covered]
  cases hl : v.layout with
  | interleaved base length =>
    simp only [Sound, hl] at hv
    exact hv
  | areas areas =>
    simp only [Sound, hl] at hv
    refine ⟨hv.length_eq, fun a ha frame hf => ?_⟩
    obtain ⟨channel, hc, rfl⟩ := exists_areaOf_of_mem ha
    exact hv.covers channel (hv.length_eq ▸ hc) frame hf

/-- A view over interleaved samples is sound, whatever its numbers. -/
theorem sound_interleaved (base frames channels : Nat) (format : SampleFormat) :
    (interleaved base frames channels format).Sound := rfl

/-- So is a view over a slice of samples. -/
theorem sound_ofSamples (count channels : Nat) (format : SampleFormat) :
    (ofSamples count channels format).Sound := rfl

variable {v : View} {channel frame k j : Nat}

/-- In interleaved bytes a sample of a frame before `k` ends where frame `k` starts, at the
latest. -/
theorem interleaved_cell_le (bytes : Nat) {channels : Nat} (hc : channel < channels)
    (hf : frame < k) :
    channel * bytes + frame * (channels * bytes) + bytes ≤ k * channels * bytes := by
  have hchannel : (channel + 1) * bytes ≤ channels * bytes := Nat.mul_le_mul_right bytes hc
  have hframe : (frame + 1) * (channels * bytes) ≤ k * (channels * bytes) :=
    Nat.mul_le_mul_right (channels * bytes) hf
  rw [Nat.add_mul, Nat.one_mul] at hchannel hframe
  rw [Nat.mul_assoc]
  omega

/-- The samples of the frames from `k` on are silenced. -/
theorem silenced_of_le (hv : v.Covered) (hc : channel < v.channels) (hf : frame < v.frames)
    (hk : k ≤ frame) (hlo : v.address channel frame ≤ j)
    (hhi : j < v.address channel frame + v.format.bytes) : v.Silenced k j := by
  refine ⟨by omega, ?_⟩
  cases hl : v.layout with
  | interleaved base length =>
    simp only [Covered, hl] at hv
    simp only [address, hl] at hlo hhi
    have hend := interleaved_cell_le v.format.bytes hc hf
    have hstart : k * v.channels * v.format.bytes ≤ frame * (v.channels * v.format.bytes) := by
      rw [Nat.mul_assoc]
      exact Nat.mul_le_mul_right _ hk
    show base + k * v.channels * v.format.bytes ≤ j ∧ j < base + length
    omega
  | areas areas =>
    simp only [Covered, hl] at hv
    simp only [address, hl] at hlo hhi
    have hmem : areaOf areas channel ∈ areas := areaOf_mem (by rw [hv.1]; exact hc)
    refine ⟨_, hmem, ?_⟩
    rw [ChannelArea.Silenced]
    by_cases hpacked : (areaOf areas channel).step = v.format.bytes ∨ k = 0
    · rw [if_pos hpacked]
      have hcover := hv.2 _ hmem frame hf
      refine ⟨?_, by omega⟩
      rcases hpacked with hstep | h0
      · rw [hstep] at hlo
        have := Nat.mul_le_mul_right v.format.bytes hk
        omega
      · subst h0
        omega
    · rw [if_neg hpacked]
      exact ⟨frame, ⟨hk, hf⟩, hlo, hhi⟩

/-- The samples of the frames before `k` are not. -/
theorem not_silenced_of_lt (hv : v.Sound) (hc : channel < v.channels) (hf : frame < v.frames)
    (hk : frame < k) (hlo : v.address channel frame ≤ j)
    (hhi : j < v.address channel frame + v.format.bytes) : ¬ v.Silenced k j := by
  rintro ⟨hkf, hs⟩
  cases hl : v.layout with
  | interleaved base length =>
    simp only [hl] at hs
    simp only [address, hl] at hhi
    have hend := interleaved_cell_le v.format.bytes hc hk
    omega
  | areas areas =>
    simp only [Sound, hl] at hv
    simp only [hl] at hs
    obtain ⟨a, ha, hs⟩ := hs
    obtain ⟨channel', hc', rfl⟩ := exists_areaOf_of_mem ha
    rw [hv.length_eq] at hc'
    have haddress : ∀ channel frame, v.address channel frame =
        (areaOf areas channel).start + frame * (areaOf areas channel).step := by
      intro channel frame
      simp only [address, hl]
    rw [ChannelArea.Silenced] at hs
    by_cases hpacked : (areaOf areas channel').step = v.format.bytes ∨ k = 0
    · rw [if_pos hpacked] at hs
      have hstep := hpacked.resolve_right (by omega)
      by_cases hcc : channel' = channel
      · -- Within one packed channel the earlier sample ends before the silence begins.
        subst hcc
        rw [haddress, hstep] at hhi
        have hnext : (frame + 1) * v.format.bytes ≤ k * v.format.bytes :=
          Nat.mul_le_mul_right _ hk
        rw [Nat.add_mul, Nat.one_mul] at hnext
        omega
      · -- Beyond its last frame a packed channel is silenced too, but declares nothing of others.
        have hap := hv.packed_apart channel' hc' channel hc frame hf hcc hstep
        rw [Apart] at hap
        omega
    · rw [if_neg hpacked] at hs
      obtain ⟨n, ⟨hkn, hn⟩, hlo', hhi'⟩ := hs
      rcases hv.cells_apart channel hc frame hf channel' hc' n hn with ⟨-, heq⟩ | hap
      · omega
      · rw [Apart, haddress channel' n] at hap
        omega

/-! ## Samples after silencing -/

/-- Over a sound view the frames from `k` on read as silence, and every earlier one reads as it did
before. -/
theorem read_silenceFrom (hv : v.Sound) (m : Memory) (k : Nat) (hc : channel < v.channels)
    (hf : frame < v.frames) :
    v.read (v.silenceFrom m k) v.format channel frame =
      if k ≤ frame then .ok (Sample.silent v.format) else v.read m v.format channel frame := by
  have hz := v.zeroed_silenceFrom m k
  have hcheck : v.check v.format channel frame = .ok () :=
    (check_eq_ok_iff ..).mpr ⟨rfl, hc, hf⟩
  rw [read_of_check _ hcheck, read_of_check _ hcheck]
  by_cases hk : k ≤ frame
  · rw [if_pos hk, hz.loadSample_inside v.format fun j => silenced_of_le hv.covered hc hf hk]
  · rw [if_neg hk,
      hz.loadSample_outside v.format fun j => not_silenced_of_lt hv hc hf (Nat.lt_of_not_le hk)]

end View

end PcmStream
