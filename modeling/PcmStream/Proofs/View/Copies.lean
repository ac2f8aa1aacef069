/-
  Bulk copies do what loops over single samples do.

  A bulk copy checks the type once and moves samples without looking again; a loop asks for every
  sample whether it may.  Areas may overlap in any way, so it is not enough that the same samples end
  up stored: they have to be stored in the same order, since what is stored last stays.

  1. Program — `copyFrom`, `copyTo`, and rendering from a queue, which writes sample by sample.
  2. Specification — `writeFrames`, two nested loops over frames and channels, in which a refused
     write ends everything; for copying out, what `read` says of each channel and frame.
  3. Bridge — the nested loops visit the samples in the order of `cell` (`writeFrames_eq_place`), and
     none of their writes is refused, since a copy moves no more frames than the view has.

  Only the way back needs samples that are apart: what was copied in is copied out again.
-/
import PcmStream.Proofs.Queue.Frames
import PcmStream.View.Action

namespace PcmStream

namespace View

variable {type : SampleFormat} {v : View}

/-! ## The loops -/

/-- Write the next sample of a loop, unless an earlier one was refused. -/
def writeNext (v : View) (channel frame : Nat) (s : Sample type) :
    Except ViewError Unit × Memory → Except ViewError Unit × Memory
  | (.ok (), m) => v.write m channel frame s
  | (.error e, m) => (.error e, m)

/-- Write interleaved samples into the first `n` frames, frame by frame and channel by channel. -/
def writeFrames (v : View) (source : List (Sample type)) (n : Nat) (m : Memory) :
    Except ViewError Unit × Memory :=
  (List.range n).foldl
    (fun written frame =>
      (List.range v.channels).foldl
        (fun written channel =>
          let s := source.getD (frame * v.channels + channel) (Sample.silent type)
          v.writeNext channel frame s written)
        written)
    (.ok (), m)

/-- Nothing is written after a refusal. -/
theorem foldl_writeNext_error {α : Type} (place : α → Nat × Nat) (s : α → Sample type)
    (list : List α) (e : ViewError) (m : Memory) :
    list.foldl (fun written a => v.writeNext (place a).1 (place a).2 (s a) written) (.error e, m) =
      (.error e, m) := by
  induction list with
  | nil => rfl
  | cons a list ih => exact ih

/-- Writing one by one in the order of the samples is such a loop. -/
theorem place_eq_foldl (s : Nat → Sample type) (i n : Nat) (m : Memory) :
    v.place i ((List.range' i n).map s) m =
      (List.range' i n).foldl
        (fun written j => v.writeNext (j % v.channels) (j / v.channels) (s j) written) (.ok (), m) := by
  induction n generalizing i m with
  | zero => rfl
  | succ n ih =>
    rw [List.range'_succ, List.map_cons, place, List.foldl_cons, writeNext]
    rcases v.write m (i % v.channels) (i / v.channels) (s i) with ⟨e | _, m'⟩
    · exact (foldl_writeNext_error (fun j => (j % v.channels, j / v.channels)) s _ e m').symm
    · exact ih (i + 1) m'

/-- The first samples of a list, place by place. -/
theorem map_getD_range {ss : List (Sample type)} {n : Nat} (h : n ≤ ss.length) :
    (List.range n).map (fun i => ss.getD i (Sample.silent type)) = ss.take n := by
  refine List.ext_getElem (by simp [h]) fun i hi hi' => ?_
  have hlt : i < n := by simpa using hi
  simp [List.getElem?_eq_getElem (Nat.lt_of_lt_of_le hlt h)]

/-- Going through frames and channels is going through the samples in their order. -/
theorem writeFrames_eq_place {source : List (Sample type)} {n : Nat} (m : Memory)
    (h : n * v.channels ≤ source.length) :
    v.writeFrames source n m = v.place 0 (source.take (n * v.channels)) m := by
  have hplaces : v.writeFrames source n m =
      ((List.range n).flatMap fun frame => (List.range v.channels).map fun channel =>
        (channel, frame)).foldl
        (fun written p => v.writeNext p.1 p.2
          (source.getD (p.2 * v.channels + p.1) (Sample.silent type)) written) (.ok (), m) := by
    rw [List.foldl_flatMap]
    simp only [List.foldl_map]
    rfl
  rw [hplaces, ← map_range_frames Prod.mk, List.foldl_map, ← map_getD_range h,
    List.range_eq_range', place_eq_foldl]
  simp only [Nat.div_add_mod']

/-! ## Copying -/

/-- Without channels there are no frames to copy. -/
theorem copyFrames_eq (v : View) (count : Nat) :
    v.copyFrames count = if v.channels = 0 then 0 else min v.frames (count / v.channels) := by
  rw [copyFrames]
  split
  · next h => rw [h, Nat.div_zero, Nat.min_zero]
  · rfl

/-- The samples of the frames that are copied are in the list. -/
theorem copyFrames_mul_le_count (v : View) (count : Nat) :
    v.copyFrames count * v.channels ≤ count :=
  Nat.le_trans (Nat.mul_le_mul_right _ (Nat.min_le_right ..)) (Nat.div_mul_le_self ..)

/-- A list with room for what is copied from another one takes as many frames as that, and perhaps
more. -/
theorem copyFrames_mul_le_of_le {count length : Nat} (h : v.copyFrames count * v.channels ≤ length) :
    v.copyFrames count * v.channels ≤ v.copyFrames length * v.channels := by
  by_cases hc : v.channels = 0
  · rw [hc, Nat.mul_zero]
    exact Nat.zero_le _
  · have hfit : v.copyFrames count ≤ length / v.channels :=
      (Nat.le_div_iff_mul_le (by omega)).mpr h
    exact Nat.mul_le_mul_right _ (Nat.le_min.mpr ⟨Nat.min_le_left .., hfit⟩)

/-- Samples of another type are not copied in either direction. -/
theorem copies_of_ne (h : type ≠ v.format) (m : Memory) (source target : List (Sample type)) :
    v.copyFrom m source = (.error (.formatMismatch type v.format), m) ∧
      v.copyTo m target = .error (.formatMismatch type v.format) := by
  rw [copyFrom, copyTo, checkType, if_pos h]
  exact ⟨rfl, rfl⟩

/-- Copying in stores the first samples in their order. -/
theorem copyFrom_eq (htype : type = v.format) (m : Memory) (source : List (Sample type)) :
    v.copyFrom m source = (.ok (v.copyFrames source.length),
      v.storeFrom 0 (source.take (v.copyFrames source.length * v.channels)) m) := by
  subst htype
  rw [copyFrom, checkType_of_eq rfl]

/-- Copying in does what the loops do, and none of their writes is refused. -/
theorem copyFrom_eq_writeFrames (htype : type = v.format) (m : Memory)
    (source : List (Sample type)) :
    let n := v.copyFrames source.length
    (v.writeFrames source n m).1 = .ok () ∧
      v.copyFrom m source = (.ok n, (v.writeFrames source n m).2) := by
  intro n
  have hlength := v.copyFrames_mul_le_count source.length
  have hframes := v.copyFrames_mul_le source.length
  rw [copyFrom_eq htype, writeFrames_eq_place m hlength]
  subst htype
  rw [place_eq v 0 _ m (by rw [List.length_take]; omega)]
  exact ⟨rfl, rfl⟩

/-- Copying out puts every sample of the first frames where its channel and frame say, and leaves the
rest of the list. -/
theorem copyTo_eq_reads (htype : type = v.format) (m : Memory) (target : List (Sample type)) :
    let n := v.copyFrames target.length
    ∃ out, v.copyTo m target = .ok (n, out) ∧ out.length = target.length ∧
      (∀ frame < n, ∀ channel < v.channels, ∃ s, out[frame * v.channels + channel]? = some s ∧
        v.read m type channel frame = .ok s) ∧
      out.drop (n * v.channels) = target.drop (n * v.channels) := by
  subst htype
  intro n
  have hcount : n * v.channels ≤ target.length := v.copyFrames_mul_le_count _
  have hcopied : ((List.range (n * v.channels)).map
      fun i => m.loadSample v.format (v.cell i)).length = n * v.channels := by
    rw [List.length_map, List.length_range]
  refine ⟨(List.range (n * v.channels)).map (fun i => m.loadSample v.format (v.cell i)) ++
    target.drop (n * v.channels), by rw [copyTo, checkType_of_eq rfl], ?_, fun frame hf channel hc => ?_,
    ?_⟩
  · rw [List.length_append, hcopied, List.length_drop]
    omega
  · have hplace := index_lt hc hf
    have hframe : frame < v.frames := Nat.lt_of_lt_of_le hf (Nat.min_le_left ..)
    refine ⟨m.loadSample v.format (v.address channel frame), ?_, ?_⟩
    · rw [List.getElem?_append_left (by rw [hcopied]; exact hplace), List.getElem?_map,
        List.getElem?_range hplace, Option.map_some, cell_index hc]
    · exact v.read_of_check m ((check_eq_ok_iff ..).mpr ⟨rfl, hc, hframe⟩)
  · exact List.drop_left' hcopied

/-- What was copied in is copied out again, if the samples of the view are apart. -/
theorem copyTo_copyFrom (htype : type = v.format) {m : Memory} (hv : v.Fits m.size)
    {source target : List (Sample type)}
    (h : v.copyFrames source.length * v.channels ≤ target.length) :
    ∃ k out, v.copyTo (v.copyFrom m source).2 target = .ok (k, out) ∧
      out.take (v.copyFrames source.length * v.channels) =
        source.take (v.copyFrames source.length * v.channels) := by
  have hsource := v.copyFrames_mul_le_count source.length
  have hframes := v.copyFrames_mul_le source.length
  rw [copyFrom_eq htype]
  subst htype
  have hmore := copyFrames_mul_le_of_le h
  generalize v.copyFrames source.length * v.channels = count at *
  have hlength : (source.take count).length = count := by
    rw [List.length_take, Nat.min_eq_left hsource]
  refine ⟨_, _, by rw [copyTo, checkType_of_eq rfl], ?_⟩
  rw [List.take_append_of_le_length (by rwa [List.length_map, List.length_range])]
  refine List.ext_getElem (by simp; omega) fun i hi hi' => ?_
  have hlt : i < (source.take count).length := hi'
  have hback := loadSample_storeFrom (i := 0) rfl (source.take count) m hv rfl (by omega) hlt
  rw [Nat.zero_add] at hback
  rw [List.getElem_take, List.getElem_map, List.getElem_range, hback]

/-- Rendering into a view that fits pops samples and copies them in. -/
theorem render_eq_copyFrom {q : Queue type} (h : q.Fitting v) (m : Memory) :
    ∃ popped rest n m', popped ++ rest = q.samples ∧
      q.render v m = (.ok n, m', { q with samples := rest }) ∧ v.copyFrom m popped = (.ok n, m') := by
  have hlength : (q.take (min v.frames q.queuedFrames)).1.length =
      min v.frames q.queuedFrames * v.channels := by
    rw [Queue.length_take, Queue.available_eq (Nat.min_le_right ..), h.2]
  refine ⟨_, _, _, _, q.samples_take (min v.frames q.queuedFrames), Queue.render_of_fitting h m, ?_⟩
  have hpos : 0 < v.channels := h.2 ▸ q.channels_pos
  have hframes : v.copyFrames (min v.frames q.queuedFrames * v.channels) =
      min v.frames q.queuedFrames := by
    rw [copyFrames, Nat.mul_div_cancel _ hpos, ← Nat.min_assoc, Nat.min_self]
  rw [copyFrom_eq h.1, hlength, hframes, ← hlength, List.take_length]

/-- Bulk copies equal loops over samples, whatever the layout and however areas overlap.  Samples of
another type are not copied at all.  Otherwise copying in leaves the memory as writing frame by frame
and channel by channel does, none of these writes is refused, and the number of frames is answered;
copying out puts what each channel and frame reads in its place, and changes neither the rest of the
list nor the memory.  What was copied in is copied out again bit for bit, if no two samples share a
byte.  Rendering into a view that fits copies in what it pops off the queue. -/
theorem copies_eq_loops (v : View) (m : Memory) (source target : List (Sample type)) :
    let framesIn (count : Nat) := if v.channels = 0 then 0 else min v.frames (count / v.channels)
    let n := framesIn source.length
    let k := framesIn target.length
    (type ≠ v.format → v.copyFrom m source = (.error (.formatMismatch type v.format), m) ∧
      v.copyTo m target = .error (.formatMismatch type v.format)) ∧
    (type = v.format →
      (∀ frame < n, ∀ channel < v.channels, frame * v.channels + channel < source.length) ∧
      (v.writeFrames source n m).1 = .ok () ∧
      v.copyFrom m source = (.ok n, (v.writeFrames source n m).2) ∧
      ∃ out, v.copyTo m target = .ok (k, out) ∧ out.length = target.length ∧
        (∀ frame < k, ∀ channel < v.channels, ∃ s, out[frame * v.channels + channel]? = some s ∧
          v.read m type channel frame = .ok s) ∧
        out.drop (k * v.channels) = target.drop (k * v.channels)) ∧
    (Action.run v m (.query (.copyTo type target))).2 = m ∧
    (type = v.format → v.Fits m.size → n * v.channels ≤ target.length →
      ∃ k out, v.copyTo (v.copyFrom m source).2 target = .ok (k, out) ∧
        out.take (n * v.channels) = source.take (n * v.channels)) ∧
    ∀ q : Queue type, type = v.format ∧ q.channels = v.channels →
      ∃ popped rest n m', popped ++ rest = q.samples ∧
        q.render v m = (.ok n, m', { q with samples := rest }) ∧
        v.copyFrom m popped = (.ok n, m') := by
  intro framesIn n k
  have hn : n = v.copyFrames source.length := (v.copyFrames_eq _).symm
  have hk : k = v.copyFrames target.length := (v.copyFrames_eq _).symm
  refine ⟨fun htype => copies_of_ne htype m source target, fun htype => ?_, rfl,
    fun htype hv h => ?_, fun q hq => render_eq_copyFrom hq m⟩
  · obtain ⟨hloop, hcopy⟩ := copyFrom_eq_writeFrames htype m source
    rw [hn, hk]
    refine ⟨fun frame hf channel hc => ?_, hloop, hcopy, copyTo_eq_reads htype m target⟩
    exact Nat.lt_of_lt_of_le (index_lt hc hf) (v.copyFrames_mul_le_count _)
  · rw [hn] at h ⊢
    exact copyTo_copyFrom htype hv h

/-- Two channels that share a byte: what is stored last stays, and is read as both. -/
example :
    let v := ofAreas [⟨some 0, 1, 2⟩, ⟨some 1, 1, 2⟩] 2 .i8
    let m := (v.copyFrom (.filled 4 9) ([1, 2, 3, 4, 5] : List (Sample .i8))).2
    m = ⟨#[1, 3, 4, 9]⟩ ∧
      v.copyTo m ([7, 7, 7, 7, 7] : List (Sample .i8)) = .ok (2, [1, 3, 3, 4, 7]) :=
  ⟨by decide, rfl⟩

end View

end PcmStream
