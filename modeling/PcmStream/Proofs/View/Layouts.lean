/-
  Two views over the same samples in different layouts.

  `View.Alike v m v' m'`: the views have the same frames, channels and format, both keep what the
  maker of a view promises, and every channel and frame reads the same in both.  Where the samples
  lie does not matter.

  Every operation on a view asks for samples by channel and frame, or in the order of `cell`, which
  is the same in both.  So it is answered alike, and leaves the two alike (`Alike.run`).  The one
  exception is the question for the layout itself, and `Action.blind` excludes it.
-/
import PcmStream.Proofs.View.Cells
import PcmStream.View.Action

namespace PcmStream

/-! ## Operations that do not look at the layout -/

/-- Whether a query is not the question for the layout. -/
def Query.blind : Query → Bool
  | info => false
  | shape | read .. | copyTo .. => true

/-- Whether an operation is not the question for the layout. -/
def Action.blind : Action → Bool
  | query q => q.blind
  | write .. | copyFrom .. | silence | silenceFrom _ | ramp .. => true

/-! ## Operations in terms of others -/

namespace View

/-- A ramp writes the samples that it counts, one by one. -/
theorem ramp_eq_place (v : View) (type : SampleFormat) (start : Int) (i n : Nat) (m : Memory) :
    v.ramp type start i n m =
      v.place i ((List.range' i n).map fun j : Nat => Sample.ofCount type (start + (j : Int))) m := by
  induction n generalizing i m with
  | zero => rfl
  | succ n ih =>
    rw [ramp, List.range'_succ, List.map_cons, place]
    rcases v.write m (i % v.channels) (i / v.channels) (Sample.ofCount type (start + i)) with
      ⟨e | _, m'⟩
    · rfl
    · exact ih (i + 1) m'

/-- Silencing a view with frames silences all of them. -/
theorem silence_eq (v : View) (m : Memory) (hf : 0 < v.frames) :
    v.silence m = v.silenceFrom m 0 := by
  rw [silenceFrom, if_neg (by omega), if_pos rfl]

/-! ## The size of the memory -/

section Sizes

variable {type : SampleFormat}

theorem size_write (v : View) (m : Memory) (channel frame : Nat) (s : Sample type) :
    (v.write m channel frame s).2.size = m.size := by
  rw [write]
  cases v.check type channel frame with
  | error e => rfl
  | ok => exact Memory.size_storeSample ..

theorem size_place (v : View) (i : Nat) (ss : List (Sample type)) (m : Memory) :
    (v.place i ss m).2.size = m.size := by
  induction ss generalizing i m with
  | nil => rfl
  | cons s ss ih =>
    have hwrite := v.size_write m (i % v.channels) (i / v.channels) s
    rw [place]
    rcases hw : v.write m (i % v.channels) (i / v.channels) s with ⟨e | _, m'⟩ <;>
      rw [hw] at hwrite
    · exact hwrite
    · exact (ih (i + 1) m').trans hwrite

theorem size_copyFrom (v : View) (m : Memory) (source : List (Sample type)) :
    (v.copyFrom m source).2.size = m.size := by
  rw [copyFrom]
  cases v.checkType type with
  | error e => rfl
  | ok => exact size_storeFrom ..

theorem size_silence (v : View) (m : Memory) : (v.silence m).size = m.size := by
  rw [silence]
  cases v.layout with
  | interleaved base length => exact Memory.size_fill ..
  | areas list =>
    show (list.foldl (fun m a => m.fill a.start a.length 0) m).size = m.size
    induction list generalizing m with
    | nil => rfl
    | cons a list ih => exact (ih _).trans (Memory.size_fill ..)

theorem size_silenceFrom (v : View) (m : Memory) (k : Nat) : (v.silenceFrom m k).size = m.size :=
  (v.zeroed_silenceFrom m k).size_eq

/-- No operation changes the size of the memory. -/
theorem size_run (v : View) (m : Memory) (a : Action) :
    (a.run v m).2.size = m.size := by
  cases a with
  | query q => rfl
  | write type channel frame s => exact v.size_write m channel frame s
  | copyFrom type source => exact v.size_copyFrom m source
  | silence => exact v.size_silence m
  | silenceFrom frame => exact v.size_silenceFrom m frame
  | ramp type frames start =>
    rw [Action.run, ramp_eq_place]
    exact v.size_place ..

end Sizes

/-! ## Views over the same samples -/

/-- Two views that no operation tells apart, unless it asks for the layout. -/
structure Alike (v : View) (m : Memory) (v' : View) (m' : Memory) : Prop where
  /-- The numbers of frames are the same. -/
  frames_eq : v.frames = v'.frames
  /-- So are those of channels. -/
  channels_eq : v.channels = v'.channels
  /-- And the formats. -/
  format_eq : v.format = v'.format
  /-- The first view keeps what its maker promises. -/
  sound : v.Sound
  /-- So does the second. -/
  sound' : v'.Sound
  /-- The samples of the first view lie in its memory, apart from each other. -/
  fits : v.Fits m.size
  /-- So do those of the second. -/
  fits' : v'.Fits m'.size
  /-- Every channel and frame holds the same sample. -/
  cells (type : SampleFormat) (htype : type = v.format) (channel : Nat)
    (hc : channel < v.channels) (frame : Nat) (hf : frame < v.frames) :
    m.loadSample type (v.address channel frame) = m'.loadSample type (v'.address channel frame)

namespace Alike

variable {v v' : View} {m m' : Memory} {type : SampleFormat} {channel frame i : Nat}

theorem shape_eq (h : v.Alike m v' m') : v.shape = v'.shape := by
  rw [shape, shape, h.frames_eq, h.channels_eq, h.format_eq]

theorem check_eq (h : v.Alike m v' m') (type : SampleFormat) (channel frame : Nat) :
    v.check type channel frame = v'.check type channel frame := by
  rw [check, check, h.frames_eq, h.channels_eq, h.format_eq]

theorem checkType_eq (h : v.Alike m v' m') (type : SampleFormat) :
    v.checkType type = v'.checkType type := by
  rw [checkType, checkType, h.format_eq]

theorem copyFrames_eq (h : v.Alike m v' m') (count : Nat) :
    v.copyFrames count = v'.copyFrames count := by
  rw [copyFrames, copyFrames, h.frames_eq, h.channels_eq]

/-- The samples are the same one after the other, too. -/
theorem cell_eq (h : v.Alike m v' m') (htype : type = v.format) (hi : i < v.frames * v.channels) :
    m.loadSample type (v.cell i) = m'.loadSample type (v'.cell i) := by
  rw [cell, cell, ← h.channels_eq]
  exact h.cells type htype _ (place_lt hi).1 _ (place_lt hi).2

/-! ## Looking -/

/-- Both views read the same, or refuse it alike. -/
theorem read_eq (h : v.Alike m v' m') (type : SampleFormat) (channel frame : Nat) :
    v.read m type channel frame = v'.read m' type channel frame := by
  rw [read, read, ← h.check_eq]
  cases hcheck : v.check type channel frame with
  | error e => rfl
  | ok =>
    obtain ⟨htype, hc, hf⟩ := (check_eq_ok_iff ..).mp hcheck
    exact congrArg Except.ok (h.cells type htype channel hc frame hf)

/-- The same is copied out of both. -/
theorem copyTo_eq (h : v.Alike m v' m') (target : List (Sample type)) :
    v.copyTo m target = v'.copyTo m' target := by
  rw [copyTo, copyTo, ← h.checkType_eq, ← h.copyFrames_eq, ← h.channels_eq]
  by_cases htype : type = v.format
  · have hcopied : (List.range (v.copyFrames target.length * v.channels)).map
        (fun i => m.loadSample type (v.cell i)) =
        (List.range (v.copyFrames target.length * v.channels)).map
        (fun i => m'.loadSample type (v'.cell i)) := by
      refine List.map_congr_left fun i hi => h.cell_eq htype ?_
      exact Nat.lt_of_lt_of_le (List.mem_range.mp hi) (v.copyFrames_mul_le _)
    simp only [hcopied]
  · rw [checkType, if_pos htype]

/-- Read one by one, the samples are the same. -/
theorem collect_eq (h : v.Alike m v' m') (type : SampleFormat) (i n : Nat) :
    v.collect m type i n = v'.collect m' type i n := by
  induction n generalizing i with
  | zero => rfl
  | succ n ih => rw [collect, collect, h.read_eq, h.channels_eq, ih]

/-! ## Changing -/

/-- Other memories of the same sizes, as long as every channel and frame holds the same sample. -/
theorem withMemory {n n' : Memory} (h : v.Alike m v' m') (hsize : n.size = m.size)
    (hsize' : n'.size = m'.size)
    (hcells : ∀ type, type = v.format → ∀ channel < v.channels, ∀ frame < v.frames,
      n.loadSample type (v.address channel frame) =
        n'.loadSample type (v'.address channel frame)) : v.Alike n v' n' where
  frames_eq := h.frames_eq
  channels_eq := h.channels_eq
  format_eq := h.format_eq
  sound := h.sound
  sound' := h.sound'
  fits := by
    rw [hsize]
    exact h.fits
  fits' := by
    rw [hsize']
    exact h.fits'
  cells := hcells

/-- The same sample is stored in both. -/
theorem store (h : v.Alike m v' m') (htype : type = v.format) (hc : channel < v.channels)
    (hf : frame < v.frames) (s : Sample type) :
    v.Alike (m.storeSample (v.address channel frame) s) v'
      (m'.storeSample (v'.address channel frame) s) := by
  refine h.withMemory (Memory.size_storeSample ..) (Memory.size_storeSample ..) ?_
  intro type' htype' channel' hc' frame' hf'
  obtain rfl : type' = type := htype'.trans htype.symm
  rw [h.fits.loadSample_storeSample htype hc hf hc' hf',
    h.fits'.loadSample_storeSample (htype.trans h.format_eq) (h.channels_eq ▸ hc)
      (h.frames_eq ▸ hf) (h.channels_eq ▸ hc') (h.frames_eq ▸ hf'),
    h.cells type' htype' channel' hc' frame' hf']

/-- The same sample is written into both, or refused alike. -/
theorem write (h : v.Alike m v' m') (channel frame : Nat) (s : Sample type) :
    (v.write m channel frame s).1 = (v'.write m' channel frame s).1 ∧
      v.Alike (v.write m channel frame s).2 v' (v'.write m' channel frame s).2 := by
  rw [View.write, View.write, ← h.check_eq]
  cases hcheck : v.check type channel frame with
  | error e => exact ⟨rfl, h⟩
  | ok =>
    obtain ⟨htype, hc, hf⟩ := (check_eq_ok_iff ..).mp hcheck
    exact ⟨rfl, h.store htype hc hf s⟩

/-- The same samples are written one by one, up to the same error. -/
theorem place (h : v.Alike m v' m') (i : Nat) (ss : List (Sample type)) :
    (v.place i ss m).1 = (v'.place i ss m').1 ∧
      v.Alike (v.place i ss m).2 v' (v'.place i ss m').2 := by
  induction ss generalizing i m m' with
  | nil => exact ⟨rfl, h⟩
  | cons s ss ih =>
    obtain ⟨hresult, hmemory⟩ := h.write (i % v.channels) (i / v.channels) s
    rw [View.place, View.place, ← h.channels_eq]
    rcases hw : v.write m (i % v.channels) (i / v.channels) s with ⟨e | _, m₁⟩ <;>
      rcases hw' : v'.write m' (i % v.channels) (i / v.channels) s with ⟨result, m₁'⟩ <;>
      rw [hw, hw'] at hresult hmemory <;> cases hresult
    · exact ⟨rfl, hmemory⟩
    · exact ih hmemory (i + 1)

/-- The same samples are stored one after the other. -/
theorem storeFrom (h : v.Alike m v' m') (htype : type = v.format) (i : Nat)
    (ss : List (Sample type)) (hin : i + ss.length ≤ v.frames * v.channels) :
    v.Alike (v.storeFrom i ss m) v' (v'.storeFrom i ss m') := by
  induction ss generalizing i m m' with
  | nil => exact h
  | cons s ss ih =>
    rw [List.length_cons] at hin
    have hplace := place_lt (show i < v.frames * v.channels by omega)
    have hstore := h.store htype hplace.1 hplace.2 s
    rw [View.storeFrom, View.storeFrom, cell, cell, ← h.channels_eq]
    exact ih hstore (i + 1) (by omega)

/-- The same is copied into both. -/
theorem copyFrom (h : v.Alike m v' m') (source : List (Sample type)) :
    (v.copyFrom m source).1 = (v'.copyFrom m' source).1 ∧
      v.Alike (v.copyFrom m source).2 v' (v'.copyFrom m' source).2 := by
  rw [View.copyFrom, View.copyFrom, ← h.checkType_eq, ← h.copyFrames_eq, ← h.channels_eq]
  by_cases htype : type = v.format
  · have hin : 0 + (source.take (v.copyFrames source.length * v.channels)).length ≤
        v.frames * v.channels := by
      have hle := v.copyFrames_mul_le source.length
      rw [List.length_take]
      omega
    rw [checkType_of_eq htype]
    exact ⟨rfl, h.storeFrom htype 0 _ hin⟩
  · rw [checkType, if_pos htype]
    exact ⟨rfl, h⟩

/-- The same frames are silenced, by whatever bytes. -/
theorem silenceFrom (h : v.Alike m v' m') (k : Nat) :
    v.Alike (v.silenceFrom m k) v' (v'.silenceFrom m' k) := by
  refine h.withMemory (size_silenceFrom ..) (size_silenceFrom ..) ?_
  intro type htype channel hc frame hf
  rw [loadSample_silenceFrom htype m h.sound k hc hf,
    loadSample_silenceFrom (htype.trans h.format_eq) m' h.sound' k (h.channels_eq ▸ hc)
      (h.frames_eq ▸ hf), h.cells type htype channel hc frame hf]

/-- The whole views are silenced. -/
theorem silence (h : v.Alike m v' m') : v.Alike (v.silence m) v' (v'.silence m') := by
  rcases Nat.eq_zero_or_pos v.frames with h0 | hpos
  · -- Without frames there are no samples, whatever else was zeroed.
    refine h.withMemory (size_silence ..) (size_silence ..) fun type htype channel hc frame hf => ?_
    omega
  · rw [silence_eq v m hpos, silence_eq v' m' (h.frames_eq ▸ hpos)]
    exact h.silenceFrom 0

/-! ## All operations -/

/-- A query that does not look at the layout is answered alike. -/
theorem answer_eq (h : v.Alike m v' m') {q : Query} (hq : q.blind = true) :
    q.answer v m = q.answer v' m' := by
  cases q with
  | shape => rw [Query.answer, Query.answer, h.shape_eq]
  | info => cases hq
  | read type channel frame => rw [Query.answer, Query.answer, h.read_eq]
  | copyTo type target => rw [Query.answer, Query.answer, h.copyTo_eq]

/-- An operation that does not look at the layout is answered alike, and leaves the views alike. -/
theorem run (h : v.Alike m v' m') {a : Action} (ha : a.blind = true) :
    (a.run v m).1 = (a.run v' m').1 ∧ v.Alike (a.run v m).2 v' (a.run v' m').2 := by
  cases a with
  | query q => exact ⟨h.answer_eq ha, h⟩
  | write type channel frame s =>
    obtain ⟨hresult, hmemory⟩ := h.write channel frame s
    exact ⟨congrArg (Except.map fun _ => Answer.done) hresult, hmemory⟩
  | copyFrom type source =>
    obtain ⟨hresult, hmemory⟩ := h.copyFrom source
    exact ⟨congrArg (Except.map Answer.copied) hresult, hmemory⟩
  | silence => exact ⟨rfl, h.silence⟩
  | silenceFrom frame => exact ⟨rfl, h.silenceFrom frame⟩
  | ramp type frames start =>
    rw [Action.run, Action.run, ← h.channels_eq, ramp_eq_place, ramp_eq_place]
    obtain ⟨hresult, hmemory⟩ := h.place 0 ((List.range' 0 (frames * v.channels)).map
      fun i : Nat => Sample.ofCount type (start + (i : Int)))
    exact ⟨congrArg (Except.map fun _ => Answer.done) hresult, hmemory⟩

end Alike

end View

end PcmStream
