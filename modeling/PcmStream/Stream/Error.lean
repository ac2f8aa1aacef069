/-
  What the thread that controls a stream can be told: the states, the operations and the errors.
-/
import PcmStream.Device.Negotiation
import PcmStream.Direction

namespace PcmStream

/-- The lifecycle state of a stream. -/
inductive State
  /-- The device has not been configured. -/
  | created
  /-- The device is configured and has its callback, but no data flows. -/
  | configured
  /-- Callbacks are being issued. -/
  | started
  /-- Callbacks have been halted. -/
  | stopped
  /-- The device has been released, for good. -/
  | closed
  deriving DecidableEq, Repr

/-- The name of a state. -/
def State.name : State → String
  | created => "created"
  | configured => "configured"
  | started => "started"
  | stopped => "stopped"
  | closed => "closed"

/-- The name of a state as it stands in a debug text. -/
def State.debugText : State → String
  | created => "Created"
  | configured => "Configured"
  | started => "Started"
  | stopped => "Stopped"
  | closed => "Closed"

/-- A lifecycle operation on a stream. -/
inductive Operation
  /-- Acquiring and configuring the device. -/
  | open
  /-- Starting callbacks. -/
  | start
  /-- Stopping callbacks. -/
  | stop
  /-- Releasing the device. -/
  | close
  deriving DecidableEq, Repr

/-- The name of an operation. -/
def Operation.name : Operation → String
  | «open» => "open"
  | start => "start"
  | stop => "stop"
  | close => "close"

/-- Errors surfaced to the thread that controls a stream. -/
inductive StreamError
  /-- The device could not satisfy the requested configuration. -/
  | negotiation (error : NegotiationError)
  /-- The operation is not valid in the current state. -/
  | state (operation : Operation) (state : State)
  /-- The platform failed to perform an operation. -/
  | device (operation : Operation) (status : Status)
  /-- The handler does not serve the direction of the stream. -/
  | handlerMismatch (direction : Direction)
  /-- The two directions of a session have not both had their first callback. -/
  | notAvailable
  deriving DecidableEq, Repr

/-- The text of an error. -/
def StreamError.message : StreamError → String
  | negotiation error => "negotiation failed: " ++ error.message
  | .state operation current =>
    "cannot " ++ operation.name ++ " a stream in state `" ++ current.name ++ "`"
  | device operation status =>
    "device error during " ++ operation.name ++ ": status " ++ status.message
  | handlerMismatch direction =>
    "handler cannot serve a stream in the " ++ direction.name ++ " direction"
  | notAvailable => "timing offset is not available yet"

end PcmStream
