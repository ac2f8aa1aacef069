/-
  A test bench with one hand-off queue and both of its ends.

  Each end is used by its own party and can be dropped, after which it cannot be used any more.  The
  other end goes on with what is queued, and can tell that it is alone.
-/
import PcmStream.Queue.Delivery
import PcmStream.View.Surface

namespace PcmStream.Bench

/-- A hand-off queue and what is left of its ends. -/
structure HandoffBench (type : SampleFormat) where
  /-- The queue. -/
  queue : Queue type
  /-- Whether the application still has its end. -/
  applicationEnd : Bool := true
  /-- Whether the callback still has its end. -/
  callbackEnd : Bool := true

/-- A command to the bench.  Queries are those of the application's end. -/
inductive HandoffCommand
  /-- Write samples, given by their numbers. -/
  | write (numbers : List Int)
  /-- Write every whole frame; a consumer, if there still is one, renders the given number of frames
  at a time meanwhile. -/
  | deliver (numbers : List Int) (block : Nat)
  /-- Read into a list of the given length. -/
  | read (length : Nat)
  /-- Ask the producer's end for free frames. -/
  | free
  /-- Ask the consumer's end for queued frames. -/
  | queued
  /-- Ask whether the callback's end is gone. -/
  | isDisconnected
  /-- Render into a view. -/
  | render (source : Source)
  /-- Capture a view. -/
  | capture (source : Source)
  /-- Drop the application's end. -/
  | dropApplication
  /-- Drop the callback's end. -/
  | dropCallback
  deriving Repr

/-- The answer to a `HandoffCommand`. -/
inductive HandoffReply
  /-- The end was dropped before. -/
  | dropped
  /-- A number of samples or frames. -/
  | count (n : Nat)
  /-- Yes or no. -/
  | flag (b : Bool)
  /-- The number of samples read, and the list they were read into. -/
  | samples (count : Nat) (numbers : List Int)
  /-- The outcome of a delivery, and what a consumer rendered meanwhile, if there was one. -/
  | delivered (status : DeliveryStatus) (rendered : Option (List Int))
  /-- The outcome of rendering, and the memory. -/
  | rendered (result : Except CallbackError Nat) (surface : Surface)
  /-- The outcome of capturing. -/
  | captured (result : Except CallbackError Unit)
  /-- There was no view. -/
  | noView

namespace HandoffBench

variable {type : SampleFormat}

/-- A bench with an empty queue. -/
def make (type : SampleFormat) (channels frames : Nat) : HandoffBench type where
  queue := .make type channels frames

/-- Use the application's end. -/
def runApplication (b : HandoffBench type) : HandoffCommand → HandoffReply × HandoffBench type
  | .write numbers =>
    let (n, queue) := b.queue.write (numbers.map (Sample.ofNumber type))
    (.count n, { b with queue })
  | .deliver numbers block =>
    let d : Delivery type :=
      { queue := b.queue
        rest := numbers.map (Sample.ofNumber type)
        connected := b.callbackEnd }
    if b.callbackEnd then
      let (status, d) := d.complete block
      (.delivered status (some (d.rendered.map Sample.number)), { b with queue := d.queue })
    else
      let (status, d) := d.run [[]]
      (.delivered status none, { b with queue := d.queue })
  | .read length =>
    let (n, samples, queue) := b.queue.read (List.replicate length (Sample.silent type))
    (.samples n (samples.map Sample.number), { b with queue })
  | .free => (.count b.queue.freeFrames, b)
  | .queued => (.count b.queue.queuedFrames, b)
  | .isDisconnected => (.flag (!b.callbackEnd), b)
  | _ => (.dropped, b)

/-- Use the callback's end. -/
def runCallback (b : HandoffBench type) : HandoffCommand → HandoffReply × HandoffBench type
  | .render source =>
    let surface := source.surface
    match surface.view with
    | none => (.noView, b)
    | some view =>
      let (result, memory, queue) := b.queue.render view surface.memory
      (.rendered result { surface with memory }, { b with queue })
  | .capture source =>
    let surface := source.surface
    match surface.view with
    | none => (.noView, b)
    | some view =>
      let (result, queue) := b.queue.capture view surface.memory
      (.captured result, { b with queue })
  | _ => (.dropped, b)

/-- Carry out a command. -/
def run (b : HandoffBench type) : HandoffCommand → HandoffReply × HandoffBench type
  | .dropApplication => (.flag b.applicationEnd, { b with applicationEnd := false })
  | .dropCallback => (.flag b.callbackEnd, { b with callbackEnd := false })
  | .render source => if b.callbackEnd then b.runCallback (.render source) else (.dropped, b)
  | .capture source => if b.callbackEnd then b.runCallback (.capture source) else (.dropped, b)
  | c => if b.applicationEnd then b.runApplication c else (.dropped, b)

end HandoffBench

end PcmStream.Bench
