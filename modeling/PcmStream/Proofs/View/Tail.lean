/-
  The tail of a view: what silencing from a frame on touches, whatever its areas look like.

  Silencing takes one of four ways: it does nothing, zeroes everything that is declared, zeroes the
  declared bytes from some place on, or zeroes samples one by one.  They zero different bytes, and
  over areas that overlap the bytes of one channel may be those of another.  What all of them have in
  common is that the later the frame, the less is zeroed (`Silenced.mono`), and from that everything
  follows:

  * nothing is zeroed that is not zeroed from frame 0 on, which is what the view declares;
  * silencing twice zeroes what the earlier of the two frames zeroes, and nothing more.

  Here is the point where the declared length of an area has to cover its frames.  From frame 0 on an
  area is zeroed up to this length, from any later one perhaps sample by sample, and a sample beyond
  the length would be zeroed by the later frame only.
-/
import PcmStream.Proofs.View.Silence

namespace PcmStream

/-- There is one way only to zero some addresses. -/
theorem Memory.Zeroed.unique {m m' m'' : Memory} {S : Nat → Prop} (h : m.Zeroed S m')
    (h' : m.Zeroed S m'') : m' = m'' := by
  refine Memory.ext (h.size_eq.trans h'.size_eq.symm) fun j => ?_
  by_cases hj : S j
  · rw [h.inside j hj, h'.inside j hj]
  · rw [h.outside j hj, h'.outside j hj]

/-- The later the frame, the less of an area is silenced, if its declared length covers all frames. -/
theorem ChannelArea.Silenced.mono {a : ChannelArea} {bytes frames k k' j : Nat}
    (hcovers : ∀ frame < frames, frame * a.step + bytes ≤ a.length) (hle : k ≤ k')
    (h : a.Silenced bytes frames k' j) : a.Silenced bytes frames k j := by
  rw [Silenced] at h ⊢
  by_cases hpacked : a.step = bytes ∨ k' = 0
  · -- Both are silenced up to the declared end, since no frame is before frame 0.
    have hstart : k * bytes ≤ k' * bytes := Nat.mul_le_mul_right bytes hle
    rw [if_pos hpacked] at h
    rw [if_pos (by omega)]
    omega
  · rw [if_neg hpacked] at h
    obtain ⟨n, ⟨hkn, hn⟩, hlo, hhi⟩ := h
    by_cases h0 : k = 0
    · -- All that is declared is more than some samples.
      have hcover := hcovers n hn
      rw [if_pos (.inr h0), h0]
      omega
    · rw [if_neg (by omega)]
      exact ⟨n, ⟨by omega, hn⟩, hlo, hhi⟩

namespace View

/-! ## Views that declare their samples -/

theorem covered_interleaved (base frames channels : Nat) (format : SampleFormat) :
    (interleaved base frames channels format).Covered := rfl

theorem covered_ofSamples (count channels : Nat) (format : SampleFormat) :
    (ofSamples count channels format).Covered := rfl

theorem covered_ofAreas {areas : List ChannelArea} {frames : Nat} {format : SampleFormat}
    (h : ∀ a ∈ areas, ∀ frame < frames, frame * a.step + format.bytes ≤ a.length) :
    (ofAreas areas frames format).Covered := ⟨rfl, h⟩

variable {v : View} {k k' j : Nat}

/-! ## What is silenced, frame by frame -/

/-- The later the frame, the less is silenced. -/
theorem Silenced.mono (hv : v.Covered) (hle : k ≤ k') (h : v.Silenced k' j) : v.Silenced k j := by
  obtain ⟨hframes, h⟩ := h
  refine ⟨by omega, ?_⟩
  cases hl : v.layout with
  | interleaved base length =>
    simp only [hl] at h
    have hstart : k * v.channels * v.format.bytes ≤ k' * v.channels * v.format.bytes :=
      Nat.mul_le_mul_right _ (Nat.mul_le_mul_right _ hle)
    exact ⟨by omega, h.2⟩
  | areas areas =>
    simp only [hl] at h
    simp only [Covered, hl] at hv
    obtain ⟨a, ha, hs⟩ := h
    exact ⟨a, ha, hs.mono (hv.2 a ha) hle⟩

/-- Nothing is silenced that is not declared. -/
theorem Silenced.declared (hv : v.Covered) (h : v.Silenced k j) : v.Declared j :=
  (silenced_zero_iff.mp (h.mono hv (Nat.zero_le k))).2

/-- Silencing twice does what silencing from the earlier frame does. -/
theorem silenceFrom_silenceFrom (hv : v.Covered) (m : Memory) (k k' : Nat) :
    v.silenceFrom (v.silenceFrom m k) k' = v.silenceFrom m (min k k') := by
  have hboth := (v.zeroed_silenceFrom m k).trans (v.zeroed_silenceFrom (v.silenceFrom m k) k')
  refine hboth.unique ((v.zeroed_silenceFrom m (min k k')).congr fun j => ?_)
  constructor
  · intro h
    rcases Nat.le_total k k' with hle | hle
    · rw [Nat.min_eq_left hle] at h
      exact .inl h
    · rw [Nat.min_eq_right hle] at h
      exact .inr h
  · rintro (h | h)
    · exact h.mono hv (Nat.min_le_left ..)
    · exact h.mono hv (Nat.min_le_right ..)

/-! ## The tail -/

/-- Silencing a view covers exactly its tail, even if its areas overlap.  From frame `k` on every
sample reads as silence, nothing is changed outside of what the view declares, and nothing at all if
there is no frame `k`.  If no two samples share a byte and what a packed area declares holds no sample
of another channel, the samples of all earlier frames keep their bytes.  Silencing twice does what
silencing from the earlier frame does. -/
theorem silenceFrom_tail (hv : v.Covered) (m : Memory) (k : Nat) :
    (∀ channel < v.channels, ∀ frame < v.frames, k ≤ frame →
      v.read (v.silenceFrom m k) v.format channel frame = .ok (Sample.silent v.format)) ∧
    (∀ j, ¬ v.Declared j → (v.silenceFrom m k).byte j = m.byte j) ∧
    (v.frames ≤ k → v.silenceFrom m k = m) ∧
    (v.Sound → ∀ channel < v.channels, ∀ frame < v.frames, frame < k →
      (v.silenceFrom m k).load (v.address channel frame) v.format.bytes =
        m.load (v.address channel frame) v.format.bytes) ∧
    ∀ k', v.silenceFrom (v.silenceFrom m k) k' = v.silenceFrom m (min k k') := by
  have hz := v.zeroed_silenceFrom m k
  refine ⟨fun channel hc frame hf hk => ?_, fun j hj => ?_, v.silenceFrom_of_le m,
    fun hsound channel hc frame hf hk => ?_, v.silenceFrom_silenceFrom hv m k⟩
  · rw [read_of_check _ ((check_eq_ok_iff ..).mpr ⟨rfl, hc, hf⟩),
      hz.loadSample_inside v.format fun j => silenced_of_le hv hc hf hk]
  · exact hz.outside j fun h => hj (h.declared hv)
  · exact Memory.load_congr fun j hlo hhi =>
      hz.outside j (not_silenced_of_lt hsound hc hf hk hlo hhi)

/-- A packed channel and one whose samples are two bytes apart, over the same bytes. -/
def entangled : View := .ofAreas [⟨some 0, 1, 5⟩, ⟨some 1, 2, 5⟩] 3 .i8

/-- The second sample of the first channel is the first one of the second, so silencing from frame 1
on takes it away from both.  Interleaved samples share nothing, and their first frame is kept. -/
theorem silenceFrom_tail_entangled :
    let m := Memory.filled 8 7
    let apart := interleaved 0 3 2 .i8
    entangled.Covered ∧ entangled.silenceFrom m 1 = ⟨#[7, 0, 0, 0, 0, 0, 7, 7]⟩ ∧
      entangled.read (entangled.silenceFrom m 1) .i8 1 2 = .ok 0 ∧
      entangled.silenceFrom (entangled.silenceFrom m 2) 1 = entangled.silenceFrom m 1 ∧
      apart.Sound ∧ (apart.silenceFrom m 1).load (apart.address 1 0) 1 = [7] := by
  intro m apart
  have hcovered : entangled.Covered := covered_ofAreas (by decide)
  have hsound : apart.Sound := sound_interleaved ..
  obtain ⟨hsilent, -, -, -, -⟩ := silenceFrom_tail hcovered m 1
  obtain ⟨-, -, -, -, htwice⟩ := silenceFrom_tail hcovered m 2
  obtain ⟨-, -, -, hkept, -⟩ := silenceFrom_tail hsound.covered m 1
  refine ⟨hcovered, by decide, ?_, htwice 1, hsound, ?_⟩
  · exact (hsilent 1 (by decide) 2 (by decide) (by decide)).trans rfl
  · exact (hkept hsound 1 (by decide) 0 (by decide) (by decide)).trans (by decide)

end View

end PcmStream
