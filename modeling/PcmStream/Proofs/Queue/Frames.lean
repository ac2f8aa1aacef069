/-
  Whole frames: what the operations of a hand-off queue do when nothing comes between them.

  `Queue.Regular` is what holds of every queue in use: it holds whole frames, and no more of them
  than there is room for.  A new queue is regular and every operation at either end keeps it so;
  hence the room is a whole number of frames as well, and no part of a frame is ever lost to
  rounding.

  The operations of the callback's end check the view once and every sample again.  The first check
  is the only one that matters: `render_of_fitting` and `capture_of_fitting` say what happens to a
  view that passes it, with no error left but that of a queue that is full, and
  `render_of_not_fitting` and `capture_of_not_fitting` that nothing happens to any other view.
-/
import PcmStream.Queue.Basic
import PcmStream.Proofs.View.Cells

namespace PcmStream

namespace Queue

variable {type : SampleFormat} {q : Queue type} {v : View}

/-! ## Views that fit -/

/-- The view has the type and the channels of the queue. -/
def Fitting (q : Queue type) (v : View) : Prop := type = v.format ∧ q.channels = v.channels

instance (q : Queue type) (v : View) : Decidable (q.Fitting v) :=
  inferInstanceAs (Decidable (_ ∧ _))

/-- A view passes the check exactly if it fits. -/
theorem check_eq_ok_iff (q : Queue type) (v : View) : q.check v = .ok () ↔ q.Fitting v := by
  unfold check Fitting
  by_cases ht : type = v.format
  · by_cases hc : q.channels = v.channels <;> simp [ht, hc]
  · simp [ht]

/-- Any other view is turned down. -/
theorem exists_check_eq_error (h : ¬ q.Fitting v) : ∃ e, q.check v = .error e := by
  cases hcheck : q.check v with
  | error e => exact ⟨e, rfl⟩
  | ok => exact absurd ((q.check_eq_ok_iff v).mp hcheck) h

/-! ## What the callback's end does -/

theorem available_eq {frames : Nat} (h : frames ≤ q.queuedFrames) :
    q.available frames = frames * q.channels := by
  rw [available, Nat.min_eq_left h]

/-- Every frame that is queued and that a fitting view has can be written. -/
theorem place_of_fitting (h : q.Fitting v) (m : Memory) :
    let taken := (q.take (min v.frames q.queuedFrames)).1
    v.place 0 taken m = (.ok (), v.storeFrom 0 taken m) := by
  obtain ⟨rfl, hchannels⟩ := h
  intro taken
  have hlength : taken.length = min v.frames q.queuedFrames * v.channels := by
    rw [length_take, available_eq (Nat.min_le_right ..), hchannels]
  refine v.place_eq 0 taken m ?_
  rw [Nat.zero_add, hlength]
  exact Nat.mul_le_mul_right _ (Nat.min_le_left ..)

/-- Every frame for which there is room and that a fitting view has can be read. -/
theorem collect_of_fitting (h : q.Fitting v) (m : Memory) :
    v.collect m type 0 (min v.frames q.freeFrames * q.channels) =
      .ok (v.firstFrames m type (min v.frames q.freeFrames)) := by
  obtain ⟨rfl, hchannels⟩ := h
  have hin : 0 + min v.frames q.freeFrames * v.channels ≤ v.frames * v.channels := by
    rw [Nat.zero_add]
    exact Nat.mul_le_mul_right _ (Nat.min_le_left ..)
  rw [hchannels, v.collect_eq m 0 _ hin, View.firstFrames_eq, List.range_eq_range']

/-- Rendering takes as many frames as are queued and the view has, and stores their samples in frame
order. -/
theorem render_of_fitting (h : q.Fitting v) (m : Memory) :
    let frames := min v.frames q.queuedFrames
    q.render v m =
      (.ok frames, v.storeFrom 0 (q.take frames).1 m, (q.take frames).2) := by
  have hcheck := (q.check_eq_ok_iff v).mpr h
  have hplace := place_of_fitting h m
  simp only [render, hcheck]
  rw [hplace]

/-- Rendering into a view that does not fit takes nothing and stores nothing. -/
theorem render_of_not_fitting (h : ¬ q.Fitting v) (m : Memory) :
    ∃ e, q.render v m = (.error (.view e), m, q) := by
  obtain ⟨e, he⟩ := exists_check_eq_error h
  refine ⟨e, ?_⟩
  simp only [render, he]

/-- Capturing queues as many of the first frames of the view as there is room for. -/
theorem capture_of_fitting (h : q.Fitting v) (m : Memory) :
    let frames := min v.frames q.freeFrames
    q.capture v m =
      (if frames = v.frames then .ok () else .error .notReady,
        { q with samples := q.samples ++ v.firstFrames m type frames }) := by
  intro frames
  have hcheck := (q.check_eq_ok_iff v).mpr h
  have hcollect := collect_of_fitting h m
  have hle : frames ≤ v.frames := Nat.min_le_left ..
  -- The operation asks whether frames are left over, the statement whether all were taken.
  have hresult : (if frames < v.frames then .error CallbackError.notReady else .ok () :
      Except CallbackError Unit) = if frames = v.frames then .ok () else .error .notReady := by
    by_cases heq : frames = v.frames
    · rw [if_neg (by omega), if_pos heq]
    · rw [if_pos (by omega), if_neg heq]
  simp only [capture, hcheck, hcollect]
  exact congrArg (·, _) hresult

/-- Capturing a view that does not fit queues nothing. -/
theorem capture_of_not_fitting (h : ¬ q.Fitting v) (m : Memory) :
    ∃ e, q.capture v m = (.error (.view e), q) := by
  obtain ⟨e, he⟩ := exists_check_eq_error h
  refine ⟨e, ?_⟩
  simp only [capture, he]

/-! ## Regular queues -/

/-- The queue holds whole frames, and no more than there is room for. -/
structure Regular (q : Queue type) : Prop where
  /-- Nothing but whole frames is queued. -/
  whole : q.channels ∣ q.samples.length
  /-- What is queued has room. -/
  bounded : q.samples.length ≤ q.capacity

namespace Regular

/-- The room is a whole number of frames. -/
theorem dvd_room (h : q.Regular) : q.channels ∣ q.room := by
  obtain ⟨k, hk⟩ := h.whole
  refine ⟨q.frames - k, ?_⟩
  rw [room, capacity, hk, Nat.mul_sub]

/-- What is queued and the room make up the capacity. -/
theorem length_add_room (h : q.Regular) : q.samples.length + q.room = q.capacity := by
  have hle := h.bounded
  rw [room]
  omega

/-- Adding frames for which there is room keeps a queue regular. -/
theorem append (h : q.Regular) {ss : List (Sample type)} {k : Nat}
    (hlength : ss.length = k * q.channels) (hk : k ≤ q.freeFrames) :
    Regular { q with samples := q.samples ++ ss } where
  whole := by
    show q.channels ∣ (q.samples ++ ss).length
    rw [List.length_append, hlength]
    exact Nat.dvd_add h.whole (Nat.dvd_mul_left ..)
  bounded := by
    have hroom : k * q.channels ≤ q.room :=
      Nat.mul_le_of_le_div _ _ _ hk
    have hsum := h.length_add_room
    show (q.samples ++ ss).length ≤ q.capacity
    rw [List.length_append, hlength]
    omega

/-- An empty queue is regular. -/
theorem make (type : SampleFormat) (channels frames : Nat) : (make type channels frames).Regular :=
  ⟨Nat.dvd_zero _, Nat.zero_le _⟩

/-- Writing keeps it regular. -/
theorem write (h : q.Regular) (source : List (Sample type)) : (q.write source).2.Regular := by
  refine h.append (k := min (source.length / q.channels) q.freeFrames) ?_ (Nat.min_le_right ..)
  rw [List.length_take, Nat.min_eq_left (q.accepted_le _)]
  rfl

/-- So does taking frames off the front. -/
theorem take (h : q.Regular) (frames : Nat) : (q.take frames).2.Regular where
  whole := by
    show q.channels ∣ (q.samples.drop (q.available frames)).length
    rw [List.length_drop]
    exact Nat.dvd_sub h.whole (Nat.dvd_mul_left ..)
  bounded := by
    have hle := h.bounded
    show (q.samples.drop (q.available frames)).length ≤ q.capacity
    rw [List.length_drop]
    omega

/-- Rendering takes frames or nothing. -/
theorem render (h : q.Regular) (v : View) (m : Memory) : (q.render v m).2.2.Regular := by
  by_cases hv : q.Fitting v
  · rw [render_of_fitting hv]
    exact h.take _
  · obtain ⟨e, he⟩ := render_of_not_fitting hv m
    rw [he]
    exact h

/-- Capturing adds frames for which there is room, or nothing. -/
theorem capture (h : q.Regular) (v : View) (m : Memory) : (q.capture v m).2.Regular := by
  by_cases hv : q.Fitting v
  · rw [capture_of_fitting hv]
    refine h.append (k := min v.frames q.freeFrames) ?_ (Nat.min_le_right ..)
    rw [View.length_firstFrames, hv.2]
  · obtain ⟨e, he⟩ := capture_of_not_fitting hv m
    rw [he]
    exact h

/-- Reading takes frames off the front. -/
theorem read (h : q.Regular) (target : List (Sample type)) : (q.read target).2.2.Regular :=
  h.take _

end Regular

/-! ## Counting frames -/

/-- No more frames are taken than are queued, whether any are taken or not. -/
theorem ite_le_queuedFrames (q : Queue type) (P : Prop) [Decidable P] (frames : Nat) :
    (if P then min frames q.queuedFrames else 0) ≤ q.queuedFrames := by
  split
  · exact Nat.min_le_right ..
  · exact Nat.zero_le _

/-- Taking frames that are queued takes so many samples. -/
theorem take_eq {k : Nat} (hk : k ≤ q.queuedFrames) :
    q.take k = (q.samples.take (k * q.channels),
      { q with samples := q.samples.drop (k * q.channels) }) := by
  rw [take, available_eq hk]

/-- Taking frames leaves so many fewer. -/
theorem queuedFrames_take (q : Queue type) (frames : Nat) :
    (q.take frames).2.queuedFrames = q.queuedFrames - frames := by
  show (q.samples.drop (q.available frames)).length / q.channels = q.samples.length / q.channels - _
  rw [List.length_drop, available, Nat.mul_comm, Nat.sub_mul_div, queuedFrames]
  omega

/-- If they are queued, that is how many are taken. -/
theorem queuedFrames_sub_take {k : Nat} (hk : k ≤ q.queuedFrames) :
    q.queuedFrames - (q.take k).2.queuedFrames = k := by
  rw [queuedFrames_take]
  omega

/-- A regular queue has room for the frames that are not queued. -/
theorem Regular.queuedFrames_add_freeFrames (h : q.Regular) :
    q.queuedFrames + q.freeFrames = q.frames := by
  obtain ⟨queued, hqueued⟩ := h.whole
  obtain ⟨free, hfree⟩ := h.dvd_room
  have hsum := h.length_add_room
  rw [hqueued, hfree, capacity, ← Nat.mul_add] at hsum
  rw [queuedFrames, freeFrames, hqueued, hfree, Nat.mul_div_cancel_left _ q.channels_pos,
    Nat.mul_div_cancel_left _ q.channels_pos]
  exact Nat.eq_of_mul_eq_mul_left q.channels_pos hsum

/-- So there is room for a frame once frames were taken. -/
theorem Regular.channels_le_room_take (h : q.Regular) (hframes : 0 < q.frames) {block : Nat}
    (hblock : 0 < block) : q.channels ≤ (q.take block).2.room := by
  have hbefore := h.queuedFrames_add_freeFrames
  have hafter := (h.take block).queuedFrames_add_freeFrames
  have hsame : (q.take block).2.frames = q.frames := rfl
  rw [queuedFrames_take, hsame] at hafter
  have hfree : 1 ≤ (q.take block).2.freeFrames := by omega
  rwa [freeFrames, Nat.le_div_iff_mul_le (q.take block).2.channels_pos, Nat.one_mul] at hfree

end Queue

end PcmStream
