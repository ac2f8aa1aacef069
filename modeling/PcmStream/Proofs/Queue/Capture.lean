/-
  Capture hand-off: frames that a callback captures reach the application once and in order.

  A capture queues the first frames of its view, as many as there is room for, and tells whether
  these were all.  What does not fit is dropped at once and for good; what was queued before stays.
  A read takes whole frames off the front.  Either may come at any time, and so `CaptureRun` lets
  captures and reads follow each other in any order and keeps two records: what the views held of
  the frames that were queued, and what the reads left in their targets.

  `capture_conserved` is the balance of the two: what was read and then what is queued is what was
  captured.  It needs no fact about a single sample, only that each move adds to one of the records
  what it adds to the queue or takes off it (`CaptureRun.Balanced.run`).
-/
import PcmStream.Proofs.Queue.Frames

namespace PcmStream

/-- A call at either end of a capture queue. -/
inductive CaptureMove (type : SampleFormat)
  /-- Capture a view. -/
  | capture (v : View) (m : Memory)
  /-- Read over a list. -/
  | read (target : List (Sample type))

/-- A capture queue in use. -/
structure CaptureRun (type : SampleFormat) where
  /-- The queue. -/
  queue : Queue type
  /-- The samples of all frames that captures have queued, in order. -/
  captured : List (Sample type) := []
  /-- The samples that reads have put over the start of their targets, in order. -/
  delivered : List (Sample type) := []

namespace CaptureRun

variable {type : SampleFormat}

/-- Make a call.  Of a view that fits, the record gets the first frames, as many as there is room
for; of any other view it gets nothing. -/
def run (r : CaptureRun type) : CaptureMove type → CaptureRun type
  | .capture v m =>
    { r with
      queue := (r.queue.capture v m).2
      captured := r.captured ++
        if r.queue.Fitting v then v.firstFrames m type (min v.frames r.queue.freeFrames) else [] }
  | .read target =>
    let (count, target, queue) := r.queue.read target
    { r with queue, delivered := r.delivered ++ target.take count }

/-- Make calls in order. -/
def runAll (r : CaptureRun type) (moves : List (CaptureMove type)) : CaptureRun type :=
  moves.foldl run r

/-- A queue of the given channels and capacity that holds whole frames, namely those that were
captured and are not read yet. -/
structure Balanced (channels capacity : Nat) (r : CaptureRun type) : Prop where
  /-- The channels stay. -/
  channels_eq : r.queue.channels = channels
  /-- So does the capacity. -/
  capacity_eq : r.queue.capacity = capacity
  /-- The queue holds whole frames. -/
  regular : r.queue.Regular
  /-- What was read and what is queued is what was captured. -/
  conserved : r.delivered ++ r.queue.samples = r.captured

namespace Balanced

variable {channels capacity : Nat} {r : CaptureRun type}

/-- A capture queues what it adds to the record. -/
theorem capture (h : r.Balanced channels capacity) (v : View) (m : Memory) :
    (r.run (.capture v m)).Balanced channels capacity := by
  have hregular := h.regular.capture v m
  by_cases hv : r.queue.Fitting v
  · have hcapture := Queue.capture_of_fitting hv m
    refine ⟨?_, ?_, hregular, ?_⟩
    · show (r.queue.capture v m).2.channels = channels
      rw [hcapture]
      exact h.channels_eq
    · show (r.queue.capture v m).2.capacity = capacity
      rw [hcapture]
      exact h.capacity_eq
    · show r.delivered ++ (r.queue.capture v m).2.samples = r.captured ++ if _ then _ else _
      rw [hcapture, if_pos hv, ← h.conserved, List.append_assoc]
  · obtain ⟨e, he⟩ := Queue.capture_of_not_fitting hv m
    have hsame : r.run (.capture v m) = r := by
      rw [run, he, if_neg hv, List.append_nil]
    rw [hsame]
    exact h

/-- A read adds to the record what it takes off the queue. -/
theorem read (h : r.Balanced channels capacity) (target : List (Sample type)) :
    (r.run (.read target)).Balanced channels capacity := by
  refine ⟨h.channels_eq, h.capacity_eq, h.regular.read target, ?_⟩
  have hsplit := r.queue.samples_take (target.length / r.queue.channels)
  show (r.delivered ++ (r.queue.read target).2.1.take (r.queue.read target).1) ++
    (r.queue.read target).2.2.samples = r.captured
  simp only [Queue.read, List.take_left]
  rw [List.append_assoc, hsplit, h.conserved]

/-- Every call keeps the balance. -/
theorem run (h : r.Balanced channels capacity) (move : CaptureMove type) :
    (r.run move).Balanced channels capacity := by
  cases move with
  | capture v m => exact h.capture v m
  | read target => exact h.read target

/-- So does every run. -/
theorem runAll (h : r.Balanced channels capacity) (moves : List (CaptureMove type)) :
    (r.runAll moves).Balanced channels capacity := by
  induction moves generalizing r with
  | nil => exact h
  | cons move moves ih => exact ih (h.run move)

end Balanced

/-- The capture hand-off.  After any captures and reads, what was read and then what is queued is
what was captured; both ends see whole frames, and together they see the capacity.  A capture of a
view that fits queues as many of its first frames as there is room for, frame by frame, and
succeeds exactly if these are all; one of any other view fails and changes nothing.  A read puts as
many of the oldest samples over the start of its target as there are whole frames queued and as fit,
and leaves the rest of the target. -/
theorem capture_conserved (type : SampleFormat) (channels frames : Nat)
    (moves : List (CaptureMove type)) :
    let r := runAll { queue := .make type channels frames } moves
    let q := r.queue
    r.delivered ++ q.samples = r.captured ∧
    q.channels = max channels 1 ∧
    q.channels ∣ q.samples.length ∧ q.channels ∣ q.room ∧
    q.samples.length + q.room = max channels 1 * max frames 1 ∧
    (∀ (v : View) (m : Memory), type = v.format ∧ q.channels = v.channels →
      let k := min v.frames (q.room / q.channels)
      q.capture v m =
        (if k = v.frames then .ok () else .error .notReady,
          { q with samples := q.samples ++ v.firstFrames m type k })) ∧
    (∀ (v : View) (m : Memory), ¬ (type = v.format ∧ q.channels = v.channels) →
      ∃ e, q.capture v m = (.error (.view e), q)) ∧
    ∀ target : List (Sample type),
      let n := min (target.length / q.channels) (q.samples.length / q.channels) * q.channels
      q.read target =
        (n, q.samples.take n ++ target.drop n, { q with samples := q.samples.drop n }) := by
  intro r q
  have hfresh : Balanced (max channels 1) (max channels 1 * max frames 1)
      ({ queue := .make type channels frames } : CaptureRun type) :=
    ⟨rfl, rfl, .make type channels frames, rfl⟩
  have hr := hfresh.runAll moves
  refine ⟨hr.conserved, hr.channels_eq, hr.regular.whole, hr.regular.dvd_room, ?_, ?_, ?_, ?_⟩
  · rw [hr.regular.length_add_room, hr.capacity_eq]
  · intro v m hv
    exact Queue.capture_of_fitting hv m
  · intro v m hv
    exact Queue.capture_of_not_fitting hv m
  · intro target n
    have hlength : (q.take (target.length / q.channels)).1.length = n :=
      q.length_take _
    simp only [Queue.read, hlength]
    rfl

/-- The third frame has no room, so a capture of three keeps two and says so. -/
example :
    let v := View.interleaved 0 3 2 .i8
    let r := runAll { queue := .make .i8 2 2 }
      [.capture v (.ofList [1, 2, 3, 4, 5, 6]), .read [0, 0, 0],
        .capture v (.ofList [7, 8, 9, 9, 9, 9])]
    r.delivered = [1, 2] ∧ r.queue.samples = [3, 4, 7, 8] := by decide

end CaptureRun

end PcmStream
