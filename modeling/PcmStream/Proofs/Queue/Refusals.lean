/-
  What is said when an access to a view is refused.

  An error names what was asked for and what the view has, and finds fault with something.
  `ViewError.HoldsOf` says that all of this is so.  Whatever is refused leaves the memory and the queue
  as they are, and as to what is said:

  1. `read`, `write` and both copies say nothing but what holds (`holdsOf_of_check`,
     `holdsOf_of_checkType`).
  2. A queue compares numbers of channels, and has no channel at hand that was asked for.  It names the
     last one of the two, the queue or the view, that has more.  If this is the queue then the view has
     no such channel.  If it is the view then the channel that is said to be out of bounds is the last
     one within them (`Queue.holdsOf_iff`).
-/
import PcmStream.Proofs.Queue.Frames

namespace PcmStream

/-- Whether an error holds of an access to a view with samples of the given type: what it names is the
type and is of the view, and what it finds fault with is so. -/
def ViewError.HoldsOf (v : View) (type : SampleFormat) : ViewError → Prop
  | .formatMismatch type' format => type' = type ∧ format = v.format ∧ type' ≠ format
  | .channelOutOfBounds channel channels => channels = v.channels ∧ channels ≤ channel
  | .frameOutOfBounds frame frames => frames = v.frames ∧ frames ≤ frame

namespace View

variable {v : View} {m m' : Memory} {type : SampleFormat} {channel frame : Nat} {e : ViewError}

/-! ## Views -/

/-- The check of the type says what holds. -/
theorem holdsOf_of_checkType (h : v.checkType type = .error e) : e.HoldsOf v type := by
  rw [checkType] at h
  split at h
  · next hne =>
    cases h
    exact ⟨rfl, rfl, hne⟩
  · cases h

/-- So does the check of an access. -/
theorem holdsOf_of_check (h : v.check type channel frame = .error e) : e.HoldsOf v type := by
  rw [check] at h
  split at h
  · next hne =>
    cases h
    exact ⟨rfl, rfl, hne⟩
  · split at h
    · next hchannel =>
      cases h
      exact ⟨rfl, hchannel⟩
    · split at h
      · next hframe =>
        cases h
        exact ⟨rfl, hframe⟩
      · cases h

/-- What a refused read says was found by the check. -/
theorem check_of_read_error (h : v.read m type channel frame = .error e) :
    v.check type channel frame = .error e := by
  cases hcheck : v.check type channel frame with
  | ok =>
    rw [v.read_of_check m hcheck] at h
    cases h
  | error e' =>
    rw [read, hcheck] at h
    cases h
    rfl

/-- The same for a refused write, which leaves the memory as it is. -/
theorem check_of_write_error {s : Sample type} (h : v.write m channel frame s = (.error e, m')) :
    v.check type channel frame = .error e ∧ m' = m := by
  cases hcheck : v.check type channel frame with
  | ok =>
    rw [v.write_of_check m s hcheck] at h
    cases h
  | error e' =>
    rw [v.write_of_check_error m s hcheck] at h
    cases h
    exact ⟨rfl, rfl⟩

/-- Copying in is refused for the type alone, and leaves the memory as it is then. -/
theorem checkType_of_copyFrom_error {source : List (Sample type)}
    (h : v.copyFrom m source = (.error e, m')) : v.checkType type = .error e ∧ m' = m := by
  cases hcheck : v.checkType type with
  | ok =>
    rw [copyFrom, hcheck] at h
    cases h
  | error e' =>
    rw [copyFrom, hcheck] at h
    cases h
    exact ⟨rfl, rfl⟩

/-- So is copying out. -/
theorem checkType_of_copyTo_error {target : List (Sample type)} (h : v.copyTo m target = .error e) :
    v.checkType type = .error e := by
  cases hcheck : v.checkType type with
  | ok =>
    rw [copyTo, hcheck] at h
    cases h
  | error e' =>
    rw [copyTo, hcheck] at h
    cases h
    rfl

end View

/-! ## Queues -/

namespace Queue

variable {type : SampleFormat} {q q' : Queue type} {v : View} {m m' : Memory} {e : ViewError}

/-- A queue looks at the type first and then at the channels, and names the last channel of what has
more of them. -/
theorem check_error_cases (h : q.check v = .error e) :
    (type ≠ v.format ∧ e = .formatMismatch type v.format) ∨
      type = v.format ∧ q.channels ≠ v.channels ∧
        e = .channelOutOfBounds (max q.channels v.channels - 1) v.channels := by
  rw [check] at h
  split at h
  · next hne =>
    cases h
    exact .inl ⟨hne, rfl⟩
  · next htype =>
    split at h
    · next hchannels =>
      cases h
      exact .inr ⟨Decidable.not_not.mp htype, hchannels, rfl⟩
    · cases h

/-- What a queue says holds, unless it has the type of the view and fewer channels. -/
theorem holdsOf_iff (h : q.check v = .error e) :
    e.HoldsOf v type ↔ (type = v.format → v.channels ≤ q.channels) := by
  have hpos := q.channels_pos
  rcases check_error_cases h with ⟨hne, rfl⟩ | ⟨htype, hchannels, rfl⟩
  · constructor
    · intro _ htype
      exact absurd htype hne
    · intro _
      exact ⟨rfl, rfl, hne⟩
  · constructor
    · rintro ⟨-, hle⟩ -
      omega
    · intro hle
      have hmore := hle htype
      exact ⟨rfl, by omega⟩

/-- What a refused rendering says was found by the check, and nothing is taken or stored then. -/
theorem check_of_render_error (h : q.render v m = (.error (.view e), m', q')) :
    q.check v = .error e ∧ m' = m ∧ q' = q := by
  by_cases hv : q.Fitting v
  · rw [render_of_fitting hv] at h
    cases h
  · obtain ⟨e', he'⟩ := exists_check_eq_error hv
    simp only [render, he'] at h
    cases h
    exact ⟨he', rfl, rfl⟩

/-- The same for a refused capture, which queues nothing. -/
theorem check_of_capture_error (h : q.capture v m = (.error (.view e), q')) :
    q.check v = .error e ∧ q' = q := by
  by_cases hv : q.Fitting v
  · rw [capture_of_fitting hv] at h
    have hresult := congrArg Prod.fst h
    dsimp only at hresult
    split at hresult
    · cases hresult
    · cases hresult
  · obtain ⟨e', he'⟩ := exists_check_eq_error hv
    simp only [capture, he'] at h
    cases h
    exact ⟨he', rfl⟩

/-- Whatever is refused changes neither the memory nor the queue.  The error of a read, a write or a
copy holds of the view and the type.  So does the error of a queue if the view is of another type or
has fewer channels than the queue; if the view has more channels, its error does not hold. -/
theorem refusals_hold (v : View) (m : Memory) (q : Queue type) :
    (∀ channel frame e, v.read m type channel frame = .error e → e.HoldsOf v type) ∧
    (∀ channel frame (s : Sample type) e m', v.write m channel frame s = (.error e, m') →
      e.HoldsOf v type ∧ m' = m) ∧
    (∀ (source : List (Sample type)) e m', v.copyFrom m source = (.error e, m') →
      e.HoldsOf v type ∧ m' = m) ∧
    (∀ (target : List (Sample type)) e, v.copyTo m target = .error e → e.HoldsOf v type) ∧
    (∀ e m' q', q.render v m = (.error (.view e), m', q') →
      (e.HoldsOf v type ↔ (type = v.format → v.channels ≤ q.channels)) ∧ m' = m ∧ q' = q) ∧
    ∀ e q', q.capture v m = (.error (.view e), q') →
      (e.HoldsOf v type ↔ (type = v.format → v.channels ≤ q.channels)) ∧ q' = q := by
  refine ⟨?_, ?_, ?_, ?_, ?_, ?_⟩
  · intro channel frame e h
    exact View.holdsOf_of_check (View.check_of_read_error h)
  · intro channel frame s e m' h
    obtain ⟨hcheck, hmemory⟩ := View.check_of_write_error h
    exact ⟨View.holdsOf_of_check hcheck, hmemory⟩
  · intro source e m' h
    obtain ⟨hcheck, hmemory⟩ := View.checkType_of_copyFrom_error h
    exact ⟨View.holdsOf_of_checkType hcheck, hmemory⟩
  · intro target e h
    exact View.holdsOf_of_checkType (View.checkType_of_copyTo_error h)
  · intro e m' q' h
    obtain ⟨hcheck, hsame⟩ := check_of_render_error h
    exact ⟨holdsOf_iff hcheck, hsame⟩
  · intro e q' h
    obtain ⟨hcheck, hsame⟩ := check_of_capture_error h
    exact ⟨holdsOf_iff hcheck, hsame⟩

/-- A frame that two channels do not have, and a queue of three channels that names the third. -/
theorem refusals_hold_threeChannels :
    let v := View.ofSamples 4 2 .f32
    let m := Memory.filled 16 0
    let q := make .f32 3 8
    v.read m .f32 1 2 = .error (.frameOutOfBounds 2 2) ∧
      (ViewError.frameOutOfBounds 2 2).HoldsOf v .f32 ∧
      q.render v m = (.error (.view (.channelOutOfBounds 2 2)), m, q) ∧
        (ViewError.channelOutOfBounds 2 2).HoldsOf v .f32 := by
  intro v m q
  have hread : v.read m .f32 1 2 = .error (.frameOutOfBounds 2 2) := rfl
  have hrender : q.render v m = (.error (.view (.channelOutOfBounds 2 2)), m, q) := rfl
  obtain ⟨hreads, -, -, -, hrenders, -⟩ := refusals_hold v m q
  exact ⟨hread, hreads 1 2 _ hread, hrender, (hrenders _ m q hrender).1.mpr fun _ => by decide⟩

/-- A queue of one channel says of a view with two channels that its channel 1 is out of bounds. -/
theorem refused_channel_within_bounds :
    let v := View.ofSamples 4 2 .f32
    let m := Memory.filled 16 0
    let q := make .f32 1 8
    q.render v m = (.error (.view (.channelOutOfBounds 1 2)), m, q) ∧
      q.capture v m = (.error (.view (.channelOutOfBounds 1 2)), q) ∧ v.channels = 2 ∧
        ¬ (ViewError.channelOutOfBounds 1 2).HoldsOf v .f32 := by
  intro v m q
  refine ⟨rfl, rfl, rfl, ?_⟩
  rintro ⟨-, hle⟩
  omega

end Queue

end PcmStream
