/-
  Hand-off queues: a bounded first-in first-out queue of interleaved samples between an application
  thread and a callback.

  A queue carries a fixed number of channels and has room for a fixed number of frames.  Both ends
  move whole frames only: a producer offers a list of samples and the queue accepts the longest
  whole-frame start of it for which there is room; a consumer takes whole frames from the front.

  The same queue serves playback and capture.

  * playback — the application `write`s, and the callback `render`s the queued frames into a view;
  * capture  — the callback `capture`s the frames of a view, and the application `read`s them.

  The queue is the list of its samples, oldest first.  `samples_write` and `samples_take` are the
  conservation laws: accepted samples go to the end, taken samples come off the front, and nothing
  else happens to the list.
-/
import PcmStream.View.Basic
import PcmStream.Callback.Error

namespace PcmStream

/-- A bounded queue of interleaved samples. -/
structure Queue (type : SampleFormat) where
  /-- The number of channels. -/
  channels : Nat
  /-- The number of frames for which there is room. -/
  frames : Nat
  /-- The queued samples, oldest first. -/
  samples : List (Sample type) := []
  /-- A frame is never empty. -/
  channels_pos : 0 < channels
  deriving Repr

namespace Queue

variable {type : SampleFormat}

/-- An empty queue; a count of zero channels or frames is taken as one. -/
def make (type : SampleFormat) (channels frames : Nat) : Queue type where
  channels := max channels 1
  frames := max frames 1
  channels_pos := by omega

/-- The number of samples for which there is room. -/
def capacity (q : Queue type) : Nat := q.channels * q.frames

/-- The number of samples that can be pushed right now. -/
def room (q : Queue type) : Nat := q.capacity - q.samples.length

/-- The number of whole frames that can be queued right now. -/
def freeFrames (q : Queue type) : Nat := q.room / q.channels

/-- The number of whole frames that can be taken right now. -/
def queuedFrames (q : Queue type) : Nat := q.samples.length / q.channels

/-! ## Putting in and taking out -/

/-- The number of samples that are accepted of `count` offered ones: whole frames, as many as there
is room for. -/
def accepted (q : Queue type) (count : Nat) : Nat :=
  min (count / q.channels) q.freeFrames * q.channels

/-- Queue as many whole frames as there is room for; answers the number of samples queued. -/
def write (q : Queue type) (source : List (Sample type)) : Nat × Queue type :=
  let count := q.accepted source.length
  (count, { q with samples := q.samples ++ source.take count })

/-- The number of samples that come off the front when `frames` frames are asked for. -/
def available (q : Queue type) (frames : Nat) : Nat := min frames q.queuedFrames * q.channels

/-- Take up to the given number of frames off the front. -/
def take (q : Queue type) (frames : Nat) : List (Sample type) × Queue type :=
  let count := q.available frames
  (q.samples.take count, { q with samples := q.samples.drop count })

/-- Read as many whole frames as are queued and fit over the start of a list; answers the number of
samples read and the list. -/
def read (q : Queue type) (target : List (Sample type)) :
    Nat × List (Sample type) × Queue type :=
  let (taken, q') := q.take (target.length / q.channels)
  (taken.length, taken ++ target.drop taken.length, q')

/-! ## The callback's end -/

/-- Check that a view has the type and the channels of the queue. -/
def check (q : Queue type) (v : View) : Except ViewError Unit :=
  if type ≠ v.format then .error (.formatMismatch type v.format)
  else if q.channels ≠ v.channels then
    .error (.channelOutOfBounds (max q.channels v.channels - 1) v.channels)
  else .ok ()

/-- Fill a view with the queued frames, as many as there are and as fit.  Answers the number of
frames written, the memory and the queue. -/
def render (q : Queue type) (v : View) (m : Memory) :
    Except CallbackError Nat × Memory × Queue type :=
  match q.check v with
  | .error e => (.error (.view e), m, q)
  | .ok () =>
    let frames := min v.frames q.queuedFrames
    let (taken, q') := q.take frames
    match v.place 0 taken m with
    | (.ok (), m') => (.ok frames, m', q')
    | (.error e, m') => (.error (.view e), m', q')

/-- Queue the first frames of a view, as many as there is room for.  The frames that do not fit are
dropped, and dropping any is an error. -/
def capture (q : Queue type) (v : View) (m : Memory) : Except CallbackError Unit × Queue type :=
  match q.check v with
  | .error e => (.error (.view e), q)
  | .ok () =>
    let frames := min v.frames q.freeFrames
    match v.collect m type 0 (frames * q.channels) with
    | .error e => (.error (.view e), q)
    | .ok captured =>
      (if frames < v.frames then .error .notReady else .ok (),
        { q with samples := q.samples ++ captured })

/-! ## Conservation -/

@[simp] theorem channels_write (q : Queue type) (source : List (Sample type)) :
    (q.write source).2.channels = q.channels := rfl

@[simp] theorem capacity_write (q : Queue type) (source : List (Sample type)) :
    (q.write source).2.capacity = q.capacity := rfl

/-- The accepted samples are the first ones offered, and they go to the end of the queue. -/
theorem samples_write (q : Queue type) (source : List (Sample type)) :
    (q.write source).2.samples = q.samples ++ source.take (q.write source).1 := rfl

/-- What is taken is the front of the queue, and the rest stays queued. -/
theorem samples_take (q : Queue type) (frames : Nat) :
    (q.take frames).1 ++ (q.take frames).2.samples = q.samples :=
  List.take_append_drop _ _

/-- No more samples are accepted than were offered. -/
theorem accepted_le (q : Queue type) (count : Nat) : q.accepted count ≤ count :=
  Nat.le_trans (Nat.mul_le_mul_right _ (Nat.min_le_left ..)) (Nat.div_mul_le_self ..)

/-- No more samples are accepted than there is room for. -/
theorem accepted_le_room (q : Queue type) (count : Nat) : q.accepted count ≤ q.room :=
  Nat.le_trans (Nat.mul_le_mul_right _ (Nat.min_le_right ..)) (Nat.div_mul_le_self ..)

/-- No more samples are taken than are queued. -/
theorem available_le (q : Queue type) (frames : Nat) : q.available frames ≤ q.samples.length :=
  Nat.le_trans (Nat.mul_le_mul_right _ (Nat.min_le_right ..)) (Nat.div_mul_le_self ..)

@[simp] theorem length_take (q : Queue type) (frames : Nat) :
    (q.take frames).1.length = q.available frames := by
  simp only [take, List.length_take]
  exact Nat.min_eq_left (q.available_le frames)

example : ((make .i16 2 2).write [1, 2, 3]).1 = 2 := by decide

end Queue

end PcmStream
