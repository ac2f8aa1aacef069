/-
  The lifecycle of one stream on a test bench.

  A device is there to begin with, moves into a stream once, and is left behind when the stream is
  dropped or cannot be opened.  It can still be looked at then, but not be moved into a stream
  again.  Operations that need what is not there are refused and change nothing.
-/
import PcmStream.Bench.Application
import PcmStream.Stream.Basic

namespace PcmStream.Bench

/-- Where a device is. -/
inductive Slot (σ : Type)
  /-- It has not been moved into a stream yet. -/
  | free (device : σ)
  /-- It belongs to a stream. -/
  | owned (stream : Stream σ)
  /-- Its stream is gone. -/
  | leftBehind (device : σ)

/-- An operation on the one stream of a bench. -/
inductive StreamCommand
  /-- Make a stream. -/
  | new (direction : Direction)
  /-- Make a stream and configure it. -/
  | open (direction : Direction) (config : StreamConfig) (plan : ServerPlan) (options : Options)
  /-- Configure the stream. -/
  | configure (config : StreamConfig) (plan : ServerPlan) (options : Options)
  /-- Start the stream. -/
  | start
  /-- Stop the stream. -/
  | stop
  /-- Close the stream. -/
  | close
  /-- Ask for the debug text. -/
  | debug
  /-- Drop the stream. -/
  | drop
  deriving Repr

/-- The answer to a `StreamCommand`. -/
inductive StreamReply
  /-- There is no device to make a stream of. -/
  | noDevice
  /-- There is no stream. -/
  | noStream
  /-- The result of an operation. -/
  | result (r : Except StreamError Unit)
  /-- A debug text. -/
  | text (s : String)

namespace Slot

variable {σ : Type}

/-- The device, wherever it is. -/
def device : Slot σ → σ
  | free device => device
  | owned stream => stream.device
  | leftBehind device => device

/-- The slot with the state of its device replaced. -/
def withDevice (s : Slot σ) (device : σ) : Slot σ :=
  match s with
  | free _ => .free device
  | owned stream => .owned { stream with device }
  | leftBehind _ => .leftBehind device

/-- The stream, if there is one. -/
def stream? : Slot σ → Option (Stream σ)
  | owned stream => some stream
  | _ => none

/-- The counters that a callback of the slot's device moves. -/
def stats (s : Slot σ) : Stats := (s.stream?.map (·.stats)).getD {}

/-- The slot with the counters of its stream replaced. -/
def withStats (s : Slot σ) (stats : Stats) : Slot σ :=
  match s with
  | owned stream => .owned { stream with stats }
  | other => other

end Slot

/-- What a command leaves behind. -/
structure StreamTurn (σ : Type) where
  /-- The answer. -/
  reply : StreamReply
  /-- Where the device is afterwards. -/
  slot : Slot σ
  /-- The application afterwards. -/
  application : Application
  /-- The events noted. -/
  log : List Event := []

namespace StreamCommand

variable {σ : Type} [Device σ]

/-- The turn of an operation on a stream. -/
def ofOutcome (application : Application) (o : Outcome σ) : StreamTurn σ :=
  ⟨.result o.result, .owned o.stream, application, o.log⟩

/-- Carry out a command on an existing stream. -/
def runOn (s : Stream σ) (application : Application) : StreamCommand → StreamTurn σ
  | configure config plan options =>
    let (handler, application) := application.prepare plan
    ofOutcome application (s.configure config handler options)
  | start => ofOutcome application s.start
  | stop => ofOutcome application s.stop
  | close => ofOutcome application s.close
  | debug => ⟨.text s.debugText, .owned s, application, []⟩
  | drop =>
    let (device, log) := s.drop
    ⟨.result (.ok ()), .leftBehind device, application, log⟩
  | new _ | .open .. => ⟨.noDevice, .owned s, application, []⟩

/-- Carry out a command on a device that is not in a stream yet. -/
def runFree (device : σ) (application : Application) : StreamCommand → StreamTurn σ
  | new direction => ⟨.result (.ok ()), .owned { device, direction }, application, []⟩
  | .open direction config plan options =>
    let (handler, application) := application.prepare plan
    match Stream.open device direction config handler options with
    | .ok stream log => ⟨.result (.ok ()), .owned stream, application, log⟩
    | .failed e device log => ⟨.result (.error e), .leftBehind device, application, log⟩
  | _ => ⟨.noStream, .free device, application, []⟩

/-- Carry out a command. -/
def run (slot : Slot σ) (application : Application) (c : StreamCommand) : StreamTurn σ :=
  match slot with
  | .owned s => c.runOn s application
  | .free device => c.runFree device application
  | .leftBehind device =>
    match c with
    | new _ | .open .. => ⟨.noDevice, .leftBehind device, application, []⟩
    | _ => ⟨.noStream, .leftBehind device, application, []⟩

end StreamCommand

end PcmStream.Bench
