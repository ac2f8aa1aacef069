/-
  Log events: what a stream notes besides the results of its operations.

  Moves of the lifecycle are noted at debug level.  A failure that cannot be returned, because an
  earlier one is, or because there is nobody to return it to, is noted as a warning.
-/
import PcmStream.Stream.Error

namespace PcmStream

/-- Something a stream notes. -/
inductive Event
  /-- A configuration was negotiated. -/
  | negotiated (direction : Direction) (config : StreamConfig)
  /-- A stream was started. -/
  | started (direction : Direction)
  /-- A stream was stopped. -/
  | stopped (direction : Direction)
  /-- A stream was closed. -/
  | closed (direction : Direction)
  /-- Releasing a device failed after its negotiation had failed. -/
  | releaseFailed (status : Status)
  /-- Closing failed after it had failed before. -/
  | closeFailedAgain (error : StreamError)
  /-- Closing a dropped stream failed. -/
  | dropFailed (error : StreamError)
  /-- Stopping the input of a session failed after its output had failed to start. -/
  | rollbackFailed (error : StreamError)
  /-- The input of a session failed after its output had failed. -/
  | sessionFailedAgain (error : StreamError)
  deriving DecidableEq, Repr

/-- How severe an event is. -/
inductive Level
  /-- A move of the lifecycle. -/
  | debug
  /-- A failure that is not returned. -/
  | warn
  deriving DecidableEq, Repr

/-- The name of a level. -/
def Level.name : Level → String
  | debug => "DEBUG"
  | warn => "WARN"

/-- The value of a field of an event. -/
inductive FieldValue
  /-- A number. -/
  | number (n : Nat)
  /-- A text. -/
  | text (s : String)
  deriving DecidableEq, Repr

namespace Event

/-- How severe the event is. -/
def level : Event → Level
  | negotiated .. | started _ | stopped _ | closed _ => .debug
  | releaseFailed _ | closeFailedAgain _ | dropFailed _ | rollbackFailed _
  | sessionFailedAgain _ => .warn

/-- The message of the event. -/
def message : Event → String
  | negotiated .. => "negotiated stream configuration"
  | started _ => "stream started"
  | stopped _ => "stream stopped"
  | closed _ => "stream closed"
  | releaseFailed _ => "failed to release device after negotiation failure"
  | closeFailedAgain _ => "additional error while closing stream"
  | dropFailed _ => "error closing dropped stream"
  | rollbackFailed _ => "failed to stop input after output failed to start"
  | sessionFailedAgain _ => "additional error in duplex session"

/-- The fields of the event. -/
def fields : Event → List (String × FieldValue)
  | negotiated direction config =>
    [("direction", .text direction.name), ("rate", .number config.rate),
      ("channels", .number config.channels), ("format", .text config.format.name),
      ("buffer_size", .number config.bufferSize), ("period_size", .number config.periodSize)]
  | started direction => [("direction", .text direction.name)]
  | stopped direction => [("direction", .text direction.name)]
  | closed direction => [("direction", .text direction.name)]
  | releaseFailed status => [("status", .text status.message)]
  | closeFailedAgain error => [("error", .text error.message)]
  | dropFailed error => [("error", .text error.message)]
  | rollbackFailed error => [("error", .text error.message)]
  | sessionFailedAgain error => [("error", .text error.message)]

end Event

end PcmStream
