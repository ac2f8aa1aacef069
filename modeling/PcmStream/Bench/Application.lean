/-
  The application on a test bench: what it serves streams with, and what it keeps hold of.

  A `ServerPlan` says what the application wants to serve a stream with.  Preparing one makes the
  handler for the stream; if that is the callback's end of a hand-off queue, the application keeps
  the other end under a name.  It keeps it whatever becomes of the handler: if the stream cannot
  take the handler, the queue has lost its callback's end and the application's end is disconnected.
-/
import PcmStream.Handler.Basic

namespace PcmStream.Bench

/-- What the application wants to serve a stream with. -/
inductive ServerPlan
  /-- Nothing. -/
  | none
  /-- A scripted routine for playback. -/
  | render (calls : List (Call Action))
  /-- A scripted routine for capture. -/
  | capture (calls : List (Call Query))
  /-- A hand-off queue for playback, whose writing end is kept under a name. -/
  | renderQueue (type : SampleFormat) (channels frames : Nat) (name : String)
  /-- A hand-off queue for capture, whose reading end is kept under a name. -/
  | captureQueue (type : SampleFormat) (channels frames : Nat) (name : String)
  deriving Repr

/-- Which end of a hand-off queue the application keeps. -/
inductive Side
  /-- The end that samples are written into. -/
  | writer
  /-- The end that samples are read from. -/
  | reader
  deriving DecidableEq, Repr

/-- An end of a hand-off queue in the hands of the application. -/
structure HeldEnd where
  /-- The name it is kept under. -/
  name : String
  /-- The number of the queue. -/
  key : Nat
  /-- Which end it is. -/
  side : Side
  deriving DecidableEq, Repr

/-- What the application keeps hold of. -/
structure Application where
  /-- All hand-off queues. -/
  patchbay : Patchbay := {}
  /-- The ends kept; a later one of the same name hides an earlier one. -/
  ends : List HeldEnd := []
  deriving Repr

/-- What the application does with an end. -/
inductive EndCommand
  /-- Write samples, given by their numbers. -/
  | write (numbers : List Int)
  /-- Read into a list of the given length. -/
  | read (length : Nat)
  /-- Ask how many frames can be moved. -/
  | available
  /-- Ask whether the other end is gone. -/
  | isDisconnected
  deriving DecidableEq, Repr

/-- The answer to an `EndCommand`. -/
inductive EndReply
  /-- There is no such end. -/
  | unknown
  /-- A number of samples or frames. -/
  | count (n : Nat)
  /-- Yes or no. -/
  | flag (b : Bool)
  /-- The number of samples read, and the list they were read into. -/
  | samples (count : Nat) (numbers : List Int)
  deriving DecidableEq, Repr

namespace Application

/-- Add a queue and keep one of its ends under a name; answers the number of the queue. -/
def keep (a : Application) (type : SampleFormat) (channels frames : Nat) (name : String)
    (side : Side) : Nat × Application :=
  let (key, patchbay) := a.patchbay.add ⟨type, .make type channels frames⟩
  (key, ⟨patchbay, ⟨name, key, side⟩ :: a.ends⟩)

/-- Make the handler that a plan asks for. -/
def prepare (a : Application) : ServerPlan → Handler × Application
  | .none => (.none, a)
  | .render calls => (.render (.routine (.ofScript calls)), a)
  | .capture calls => (.capture (.routine (.ofScript calls)), a)
  | .renderQueue type channels frames name =>
    let (key, a) := a.keep type channels frames name .writer
    (.render (.queue key), a)
  | .captureQueue type channels frames name =>
    let (key, a) := a.keep type channels frames name .reader
    (.capture (.queue key), a)

/-- Use the end kept under a name.  Whether its queue is connected depends on who holds the other
end, which is for the caller to know. -/
def useEnd (a : Application) (connected : Nat → Bool) (name : String) (command : EndCommand) :
    EndReply × Application :=
  match a.ends.find? (·.name == name) with
  | none => (.unknown, a)
  | some held =>
    match a.patchbay.queue? held.key with
    | none => (.unknown, a)
    | some ⟨type, q⟩ =>
      match command, held.side with
      | .write numbers, .writer =>
        let (n, q) := q.write (numbers.map (Sample.ofNumber type))
        (.count n, { a with patchbay := a.patchbay.put held.key ⟨type, q⟩ })
      | .read length, .reader =>
        let (n, samples, q) := q.read (List.replicate length (Sample.silent type))
        (.samples n (samples.map Sample.number),
          { a with patchbay := a.patchbay.put held.key ⟨type, q⟩ })
      | .available, .writer => (.count q.freeFrames, a)
      | .available, .reader => (.count q.queuedFrames, a)
      | .isDisconnected, _ => (.flag (!connected held.key), a)
      | _, _ => (.unknown, a)

end Application

end PcmStream.Bench
