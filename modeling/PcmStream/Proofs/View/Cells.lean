/-
  Cells: the samples of a view one after the other.

  Whatever moves many samples at once goes through a view frame by frame, and within a frame channel
  by channel, and counts as it goes: `cell i` is the address of the `i`-th sample.  What there is to
  say of this order is said here, once for all that follow it.

  * Place and order agree: channel `c` of frame `f` is the `f * channels + c`-th sample, and counting
    through the first frames visits all of their samples (`cell_index`, `firstFrames_eq`).
  * The order stays inside of the view, so the loops that check every access do what the loops
    without a check do (`collect_eq`, `place_eq`).
  * Over a view that `Fits` into the memory every sample stored in this order reads back where it
    belongs, and every byte of no sample that was stored is kept (`loadSample_storeFrom`,
    `byte_storeFrom`).
-/
import PcmStream.Proofs.View.Silence

namespace PcmStream

namespace View

variable {v : View} {i j : Nat}

/-! ## Place and order -/

/-- A place in frame order that lies within `k` frames has a channel, and a frame among these. -/
theorem place_lt {channels k : Nat} (h : i < k * channels) :
    i % channels < channels ∧ i / channels < k :=
  ⟨Nat.mod_lt _ (Nat.pos_of_lt_mul_left h), Nat.div_lt_of_lt_mul (by rwa [Nat.mul_comm] at h)⟩

/-- The place of a channel and frame lies within as many frames as there are up to it. -/
theorem index_lt {channels channel frame k : Nat} (hc : channel < channels) (hf : frame < k) :
    frame * channels + channel < k * channels := by
  have hnext : (frame + 1) * channels ≤ k * channels := Nat.mul_le_mul_right _ hf
  rw [Nat.add_one_mul] at hnext
  omega

theorem index_mod {channels channel : Nat} (hc : channel < channels) (frame : Nat) :
    (frame * channels + channel) % channels = channel := by
  rw [Nat.add_comm, Nat.add_mul_mod_self_right, Nat.mod_eq_of_lt hc]

theorem index_div {channels channel : Nat} (hc : channel < channels) (frame : Nat) :
    (frame * channels + channel) / channels = frame := by
  rw [Nat.add_comm, Nat.add_mul_div_right _ _ (by omega), Nat.div_eq_of_lt hc, Nat.zero_add]

/-- Two numbers in mixed radix are equal only digit by digit. -/
theorem index_inj {width low low' high high' : Nat} (h : low < width) (h' : low' < width)
    (heq : high * width + low = high' * width + low') : high = high' ∧ low = low' := by
  have hhigh := congrArg (· / width) heq
  have hlow := congrArg (· % width) heq
  simp only [index_div h, index_div h'] at hhigh
  simp only [index_mod h, index_mod h'] at hlow
  exact ⟨hhigh, hlow⟩

/-- Channel `c` of frame `f` is the `f * channels + c`-th sample. -/
theorem cell_index {channel : Nat} (hc : channel < v.channels) (frame : Nat) :
    v.cell (frame * v.channels + channel) = v.address channel frame := by
  rw [cell, index_mod hc, index_div hc]

/-- Counting through whole frames goes frame by frame, and within a frame channel by channel. -/
theorem map_range_frames {α : Type} (f : Nat → Nat → α) (channels k : Nat) :
    (List.range (k * channels)).map (fun i => f (i % channels) (i / channels)) =
      (List.range k).flatMap fun frame => (List.range channels).map fun channel =>
        f channel frame := by
  induction k with
  | zero => rw [Nat.zero_mul]; rfl
  | succ k ih =>
    -- The places after those of `k` frames are the channels of the next one.
    have hframe : (List.range channels).map
        (fun c => f ((k * channels + c) % channels) ((k * channels + c) / channels)) =
        (List.range channels).map fun c => f c k := by
      refine List.map_congr_left fun c hc => ?_
      have hlt := List.mem_range.mp hc
      rw [index_mod hlt, index_div hlt]
    rw [Nat.add_mul, Nat.one_mul, List.range_add, List.map_append, List.map_map, ih,
      List.range_succ, List.flatMap_append, List.flatMap_singleton]
    exact congrArg _ hframe

/-- The samples of the first `k` frames of a view, frame by frame and channel by channel. -/
def firstFrames (v : View) (m : Memory) (type : SampleFormat) (k : Nat) : List (Sample type) :=
  (List.range k).flatMap fun frame => (List.range v.channels).map fun channel =>
    m.loadSample type (v.address channel frame)

/-- They are the first cells. -/
theorem firstFrames_eq (v : View) (m : Memory) (type : SampleFormat) (k : Nat) :
    v.firstFrames m type k =
      (List.range (k * v.channels)).map fun i => m.loadSample type (v.cell i) :=
  (map_range_frames (fun channel frame => m.loadSample type (v.address channel frame)) _ k).symm

theorem length_firstFrames (v : View) (m : Memory) (type : SampleFormat) (k : Nat) :
    (v.firstFrames m type k).length = k * v.channels := by
  rw [firstFrames_eq, List.length_map, List.length_range]

/-! ## Checked loops -/

/-- Access to a sample within the view is allowed. -/
theorem check_place (h : i < v.frames * v.channels) :
    v.check v.format (i % v.channels) (i / v.channels) = .ok () :=
  (check_eq_ok_iff ..).mpr ⟨rfl, place_lt h⟩

/-- Reading within the view reads every sample. -/
theorem collect_eq (v : View) (m : Memory) (i n : Nat) (h : i + n ≤ v.frames * v.channels) :
    v.collect m v.format i n =
      .ok ((List.range' i n).map fun j => m.loadSample v.format (v.cell j)) := by
  induction n generalizing i with
  | zero => rfl
  | succ n ih =>
    have hcheck := v.check_place (i := i) (by omega)
    rw [collect, v.read_of_check m hcheck, ih (i + 1) (by omega)]
    rfl

/-- Writing within the view stores every sample. -/
theorem place_eq (v : View) (i : Nat) (ss : List (Sample v.format)) (m : Memory)
    (h : i + ss.length ≤ v.frames * v.channels) :
    v.place i ss m = (.ok (), v.storeFrom i ss m) := by
  induction ss generalizing i m with
  | nil => rfl
  | cons s ss ih =>
    rw [List.length_cons] at h
    have hcheck := v.check_place (i := i) (by omega)
    rw [place, v.write_of_check m s hcheck]
    exact ih (i + 1) _ (by omega)

/-- A copy of samples of the view's type is not refused. -/
theorem checkType_of_eq {type : SampleFormat} (h : type = v.format) : v.checkType type = .ok () := by
  rw [checkType, if_neg (not_not_intro h)]

/-- It stays inside of the view. -/
theorem copyFrames_mul_le (v : View) (count : Nat) :
    v.copyFrames count * v.channels ≤ v.frames * v.channels :=
  Nat.mul_le_mul_right _ (Nat.min_le_left ..)

/-! ## Stored samples -/

/-- The samples of a view lie inside of a memory of the given size, and no two of them share a
byte. -/
structure Fits (v : View) (size : Nat) : Prop where
  /-- Every sample lies in the memory. -/
  inside : ∀ channel < v.channels, ∀ frame < v.frames,
    v.address channel frame + v.format.bytes ≤ size
  /-- No two samples share a byte. -/
  apart : ∀ channel < v.channels, ∀ frame < v.frames,
    ∀ channel' < v.channels, ∀ frame' < v.frames, (channel = channel' ∧ frame = frame') ∨
    Apart (v.address channel frame) v.format.bytes (v.address channel' frame') v.format.bytes

variable {size : Nat}

theorem Fits.cell_le (h : v.Fits size) (hi : i < v.frames * v.channels) :
    v.cell i + v.format.bytes ≤ size :=
  h.inside _ (place_lt hi).1 _ (place_lt hi).2

theorem Fits.cell_apart (h : v.Fits size) (hi : i < v.frames * v.channels)
    (hj : j < v.frames * v.channels) (hne : i ≠ j) :
    Apart (v.cell i) v.format.bytes (v.cell j) v.format.bytes := by
  rcases h.apart _ (place_lt hi).1 _ (place_lt hi).2 _ (place_lt hj).1 _ (place_lt hj).2 with
    ⟨hmod, hdiv⟩ | hapart
  · -- Places with the same channel and frame are the same.
    have hsame : v.channels * (i / v.channels) + i % v.channels =
        v.channels * (j / v.channels) + j % v.channels := by rw [hmod, hdiv]
    rw [Nat.div_add_mod, Nat.div_add_mod] at hsame
    exact absurd hsame hne
  · exact hapart

/-- Different places among packed samples share no byte. -/
theorem apart_of_ne {n n' : Nat} (width : Nat) (h : n ≠ n') :
    Apart (n * width) width (n' * width) width := by
  rw [Apart]
  rcases Nat.lt_or_gt_of_ne h with hlt | hgt
  · have hle : (n + 1) * width ≤ n' * width := Nat.mul_le_mul_right _ hlt
    rw [Nat.add_mul, Nat.one_mul] at hle
    omega
  · have hle : (n' + 1) * width ≤ n * width := Nat.mul_le_mul_right _ hgt
    rw [Nat.add_mul, Nat.one_mul] at hle
    omega

/-- Interleaved samples lie one after the other. -/
theorem fits_interleaved (base frames channels : Nat) (format : SampleFormat) :
    (interleaved base frames channels format).Fits (base + frames * channels * format.bytes) where
  inside channel hc frame hf := by
    have hend : channel * format.bytes + frame * (channels * format.bytes) + format.bytes ≤
        frames * channels * format.bytes := interleaved_cell_le format.bytes hc hf
    show base + channel * format.bytes + frame * (channels * format.bytes) + format.bytes ≤ _
    omega
  apart channel hc frame hf channel' hc' frame' hf' := by
    have hplace : ∀ channel frame, (interleaved base frames channels format).address channel frame =
        base + (frame * channels + channel) * format.bytes := by
      intro channel frame
      show base + channel * format.bytes + frame * (channels * format.bytes) = _
      rw [Nat.add_mul, Nat.mul_assoc]
      omega
    by_cases heq : frame * channels + channel = frame' * channels + channel'
    · exact .inl (index_inj hc hc' heq).symm
    · right
      have hapart := apart_of_ne format.bytes heq
      show Apart _ format.bytes _ format.bytes
      rw [Apart] at hapart
      rw [Apart, hplace, hplace]
      omega

/-- A sample stored in a cell is what this cell reads then, and every other one is kept. -/
theorem Fits.loadSample_storeSample {type : SampleFormat} {m : Memory} (h : v.Fits m.size)
    (htype : type = v.format) {channel frame channel' frame' : Nat} (hc : channel < v.channels)
    (hf : frame < v.frames) (hc' : channel' < v.channels) (hf' : frame' < v.frames)
    (s : Sample type) :
    (m.storeSample (v.address channel frame) s).loadSample type (v.address channel' frame') =
      if channel = channel' ∧ frame = frame' then s
      else m.loadSample type (v.address channel' frame') := by
  subst htype
  by_cases hsame : channel = channel' ∧ frame = frame'
  · rw [if_pos hsame, ← hsame.1, ← hsame.2]
    exact m.loadSample_storeSample_same _ s (h.inside channel hc frame hf)
  · rw [if_neg hsame]
    have hapart := (h.apart channel hc frame hf channel' hc' frame' hf').resolve_left hsame
    rw [Apart] at hapart
    exact m.loadSample_storeSample_of_disjoint _ _ s (by omega)

section Stored

variable {type : SampleFormat} (htype : type = v.format) (ss : List (Sample type)) (m : Memory)

include htype

/-- A byte that belongs to no sample that is stored is kept. -/
theorem byte_storeFrom {a : Nat}
    (h : ∀ k < ss.length, a < v.cell (i + k) ∨ v.cell (i + k) + v.format.bytes ≤ a) :
    (v.storeFrom i ss m).byte a = m.byte a := by
  subst htype
  induction ss generalizing i m with
  | nil => rfl
  | cons s ss ih =>
    have hfirst := h 0 (Nat.succ_pos _)
    have hlater : ∀ k < ss.length,
        a < v.cell (i + 1 + k) ∨ v.cell (i + 1 + k) + v.format.bytes ≤ a := by
      intro k hk
      have hnext : i + 1 + k = i + (k + 1) := by omega
      rw [hnext]
      exact h (k + 1) (Nat.succ_lt_succ hk)
    rw [storeFrom, ih _ hlater, Memory.storeSample, Memory.byte_store, Sample.length_toBytes,
      if_neg (by rw [Nat.add_zero] at hfirst; omega)]

/-- Nor does storing later samples change an earlier one. -/
theorem loadSample_storeFrom_of_lt (hv : v.Fits size)
    (hin : i + ss.length ≤ v.frames * v.channels) (hj : j < i) :
    (v.storeFrom i ss m).loadSample type (v.cell j) = m.loadSample type (v.cell j) := by
  rw [Memory.loadSample, Memory.loadSample]
  -- A sample is its bytes, and none of these belongs to one of the later samples.
  refine congrArg _ (Memory.load_congr fun a hlo hhi => byte_storeFrom htype ss m fun k hk => ?_)
  have hapart := hv.cell_apart (i := j) (j := i + k) (by omega) (by omega) (by omega)
  rw [Apart] at hapart
  rw [htype] at hhi
  omega

/-- Every sample stored reads back where it belongs. -/
theorem loadSample_storeFrom (hv : v.Fits size) (hm : m.size = size)
    (hin : i + ss.length ≤ v.frames * v.channels) {k : Nat} (hk : k < ss.length) :
    (v.storeFrom i ss m).loadSample type (v.cell (i + k)) = ss[k] := by
  induction ss generalizing i m k with
  | nil => cases hk
  | cons s ss ih =>
    rw [List.length_cons] at hin
    cases k with
    | zero =>
      -- The first sample is stored before all others, which do not touch it.
      have hsize : v.cell i + type.bytes ≤ m.size := by
        rw [hm, htype]
        exact hv.cell_le (by omega)
      show (v.storeFrom (i + 1) ss (m.storeSample (v.cell i) s)).loadSample type (v.cell i) = s
      rw [loadSample_storeFrom_of_lt htype ss _ hv (by omega) (Nat.lt_add_one i),
        Memory.loadSample_storeSample_same _ _ _ hsize]
    | succ k =>
      have hnext : i + (k + 1) = i + 1 + k := by omega
      rw [storeFrom, hnext]
      exact ih (m.storeSample (v.cell i) s) (by rw [Memory.size_storeSample, hm]) (by omega)
        (Nat.lt_of_succ_lt_succ hk)

/-- Silencing keeps the samples of the frames before it and silences all others. -/
theorem loadSample_silenceFrom (hv : v.Sound) (k : Nat) {channel frame : Nat}
    (hc : channel < v.channels) (hf : frame < v.frames) :
    (v.silenceFrom m k).loadSample type (v.address channel frame) =
      if k ≤ frame then Sample.silent type
      else m.loadSample type (v.address channel frame) := by
  subst htype
  have hcheck : v.check v.format channel frame = .ok () :=
    (check_eq_ok_iff ..).mpr ⟨rfl, hc, hf⟩
  have hread := read_silenceFrom hv m k hc hf
  rw [v.read_of_check _ hcheck, v.read_of_check _ hcheck] at hread
  split at hread
  · next hk => rw [if_pos hk, Except.ok.inj hread]
  · next hk => rw [if_neg hk, Except.ok.inj hread]

end Stored

end View

end PcmStream
