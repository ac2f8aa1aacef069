/-
  Full-duplex sessions: an input and an output stream with a common record of first clock readings.

  The two streams are opened, started and released as one.  Input comes first on the way up and
  last on the way down.  If the second half of a step up fails the first half is undone: an opened
  input is closed again, and a started one stopped.  On the way down both halves are always
  attempted, the output's failure is the result, and a failure of the input on top of it is noted.
-/
import PcmStream.Stream.Basic

namespace PcmStream

/-- A full-duplex session. -/
structure Duplex (ι ο : Type) where
  /-- The input stream. -/
  input : Stream ι
  /-- The output stream. -/
  output : Stream ο
  /-- The first clock reading of each direction. -/
  times : StartTimes := {}

/-- What an operation on a session leaves behind. -/
structure DuplexOutcome (ι ο : Type) where
  /-- The result of the operation. -/
  result : Except StreamError Unit
  /-- The session afterwards. -/
  session : Duplex ι ο
  /-- The events noted, in order. -/
  log : List Event := []

/-- The outcome of opening a session. -/
inductive DuplexOpened (ι ο : Type)
  /-- Both streams are configured. -/
  | ok (session : Duplex ι ο) (log : List Event)
  /-- The attempt failed; the devices are left in the given states. -/
  | failed (error : StreamError) (input : ι) (output : ο) (log : List Event)

/-- What is asked of a session when it is opened. -/
structure DuplexRequest where
  /-- The configuration asked of the input. -/
  inputConfig : StreamConfig := {}
  /-- The configuration asked of the output. -/
  outputConfig : StreamConfig := {}
  /-- The handler of the input. -/
  capture : Handler := .none
  /-- The handler of the output. -/
  render : Handler := .none
  /-- The options of both. -/
  options : Options := {}

namespace Duplex

variable {ι ο : Type} [Device ι] [Device ο]

/-- Open both directions of a session. -/
def «open» (inputDevice : ι) (outputDevice : ο) (request : DuplexRequest) : DuplexOpened ι ο :=
  let input := ({ device := inputDevice, direction := .input } : Stream ι).configure
    request.inputConfig request.capture request.options
  match input.result with
  | .error e =>
    let (inputDevice, log) := input.stream.drop
    .failed e inputDevice outputDevice (input.log ++ log)
  | .ok () =>
    let output := ({ device := outputDevice, direction := .output } : Stream ο).configure
      request.outputConfig request.render request.options
    match output.result with
    | .ok () => .ok { input := input.stream, output := output.stream } (input.log ++ output.log)
    | .error e =>
      let (outputDevice, outputLog) := output.stream.drop
      let (inputDevice, inputLog) := input.stream.drop
      .failed e inputDevice outputDevice (input.log ++ output.log ++ outputLog ++ inputLog)

/-- Start the input, then the output; if the output fails to start, the input is stopped again. -/
def start (d : Duplex ι ο) : DuplexOutcome ι ο :=
  let input := d.input.start
  match input.result with
  | .error e => ⟨.error e, { d with input := input.stream }, input.log⟩
  | .ok () =>
    let output := d.output.start
    match output.result with
    | .ok () =>
      ⟨.ok (), { d with input := input.stream, output := output.stream }, input.log ++ output.log⟩
    | .error e =>
      let undone := input.stream.stop
      let warning := match undone.result with
        | .ok () => []
        | .error e => [.rollbackFailed e]
      ⟨.error e, { d with input := undone.stream, output := output.stream },
        input.log ++ output.log ++ undone.log ++ warning⟩

/-- The outcome of an operation that was attempted on both streams, the output first. -/
def both (d : Duplex ι ο) (output : Outcome ο) (input : Outcome ι) : DuplexOutcome ι ο :=
  let session := { d with input := input.stream, output := output.stream }
  let log := output.log ++ input.log
  match output.result, input.result with
  | .error e, .error also => ⟨.error e, session, log ++ [.sessionFailedAgain also]⟩
  | .error e, .ok () => ⟨.error e, session, log⟩
  | .ok (), result => ⟨result, session, log⟩

/-- Stop both directions. -/
def stop (d : Duplex ι ο) : DuplexOutcome ι ο := d.both d.output.stop d.input.stop

/-- Close both directions. -/
def close (d : Duplex ι ο) : DuplexOutcome ι ο := d.both d.output.close d.input.close

/-- Drop both streams, the input first; answers the devices and the events noted. -/
def drop (d : Duplex ι ο) : (ι × ο) × List Event :=
  let (input, inputLog) := d.input.drop
  let (output, outputLog) := d.output.drop
  ((input, output), inputLog ++ outputLog)

/-- The time between the first input and the first output. -/
def offset (d : Duplex ι ο) : Except StreamError Offset :=
  match d.times.offset? with
  | some offset => .ok offset
  | none => .error .notAvailable

end Duplex

end PcmStream
