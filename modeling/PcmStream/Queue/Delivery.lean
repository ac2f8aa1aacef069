/-
  Deliveries: queueing every whole frame of a list, however long the queue stays full.

  The producer of a playback queue tries again and again, and between its attempts the consumer
  does what it likes: it renders frames, or it leaves.  A delivery is run against a *schedule*, one
  list of consumer steps before each attempt, so a statement about all schedules is a statement
  about all interleavings of the two at that grain.

  A delivery is over as soon as less than one frame is left, and a last incomplete frame is never
  queued.  It fails if the consumer has left while a whole frame was still to be queued.
-/
import PcmStream.Queue.Basic

namespace PcmStream

/-- What the consumer of a queue does between two attempts of the producer. -/
inductive ConsumerStep
  /-- Render up to the given number of frames. -/
  | render (frames : Nat)
  /-- Leave for good. -/
  | leave
  deriving DecidableEq, Repr

/-- A delivery under way. -/
structure Delivery (type : SampleFormat) where
  /-- The queue between the two ends. -/
  queue : Queue type
  /-- What is still to be queued. -/
  rest : List (Sample type)
  /-- Whether the consumer is still there. -/
  connected : Bool := true
  /-- What the consumer has rendered since the delivery began, in order. -/
  rendered : List (Sample type) := []
  deriving Repr

/-- How far a delivery has come. -/
inductive DeliveryStatus
  /-- Every whole frame was queued. -/
  | delivered
  /-- The consumer left before. -/
  | disconnected
  /-- The schedule ended and the producer is still trying. -/
  | waiting
  deriving DecidableEq, Repr

/-- The text of the error that a disconnected delivery ends with. -/
def disconnectedMessage : String := "the other end of the queue was dropped"

namespace Delivery

variable {type : SampleFormat}

/-- Whether less than one frame is left. -/
def isOver (d : Delivery type) : Bool := d.rest.length < d.queue.channels

/-- One step of the consumer.  A consumer that has left does nothing any more. -/
def consume (d : Delivery type) : ConsumerStep → Delivery type
  | .leave => { d with connected := false }
  | .render frames =>
    if d.connected then
      let (taken, queue) := d.queue.take frames
      { d with queue, rendered := d.rendered ++ taken }
    else d

/-- One attempt of the producer: queue what there is room for. -/
def attempt (d : Delivery type) : Delivery type :=
  let (count, queue) := d.queue.write d.rest
  { d with queue, rest := d.rest.drop count }

/-- Run a delivery against a schedule: the steps of the consumer before each attempt. -/
def run : List (List ConsumerStep) → Delivery type → DeliveryStatus × Delivery type
  | [], d => (if d.isOver then .delivered else .waiting, d)
  | steps :: schedule, d =>
    if d.isOver then (.delivered, d)
    else
      let d := steps.foldl consume d
      if d.connected then run schedule d.attempt else (.disconnected, d)

/-- Let the consumer render `block` frames at a time, at most `n` times. -/
def drain (block : Nat) : Nat → Delivery type → Delivery type
  | 0, d => d
  | n + 1, d => drain block n (d.consume (.render block))

/-- A delivery to a consumer that renders `block` frames before every attempt and goes on until the
queue is empty.  If `block` is not zero every attempt finds room for a frame, so one attempt for
each sample is enough, and one rendering for each sample empties the queue. -/
def complete (d : Delivery type) (block : Nat) : DeliveryStatus × Delivery type :=
  let (status, d) := d.run (List.replicate (d.rest.length + 1) [.render block])
  (status, d.drain block d.queue.samples.length)

example :
    (({ queue := .make .i16 1 2, rest := [1, 2, 3, 4, 5, 6] } : Delivery .i16).complete 2).2.rendered =
      [1, 2, 3, 4, 5, 6] := by decide

end Delivery

end PcmStream
