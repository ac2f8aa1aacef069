/-
  Streams: a single direction of audio on an exclusively owned device.

  A stream moves along

      created → configured → started ⇄ stopped → closed

  where closing is possible from everywhere and final.  Every operation answers with its result,
  the stream afterwards and the events noted; the stream afterwards is there whatever the result.

  * `configure` acquires the device, negotiates, and hands over the callback.  If the negotiation
    fails the device is released again and the stream stays created, so it can be tried again.  From
    the negotiation on the device is configured, and a failing registration is left to `close`.
  * `start` and `stop` do nothing if there is nothing to do, and otherwise depend on the device.
  * `close` makes every cleanup call, whatever the earlier ones said, and answers with the first
    failure; the stream is closed afterwards in any case.
  * `drop` closes a stream that nobody closed, and notes what it cannot return.
-/
import PcmStream.Device.Basic
import PcmStream.Stream.Event

namespace PcmStream

/-- A stream that drives a device of state `σ`. -/
structure Stream (σ : Type) where
  /-- The device. -/
  device : σ
  /-- The direction of the stream. -/
  direction : Direction
  /-- The negotiated configuration; the default one before that. -/
  config : StreamConfig := {}
  /-- The lifecycle state. -/
  state : State := .created
  /-- The counters moved by the callback. -/
  stats : Stats := {}

/-- What an operation leaves behind. -/
structure Outcome (σ : Type) where
  /-- The result of the operation. -/
  result : Except StreamError Unit
  /-- The stream afterwards. -/
  stream : Stream σ
  /-- The events noted, in order. -/
  log : List Event := []

/-- The outcome of opening a stream. -/
inductive Opened (σ : Type)
  /-- The stream is configured. -/
  | ok (stream : Stream σ) (log : List Event)
  /-- The attempt failed and its stream was dropped; the device is left in the given state. -/
  | failed (error : StreamError) (device : σ) (log : List Event)

/-- The errors among the outcomes of device calls, in order. -/
def failures : List (Operation × Except Status Unit) → List StreamError
  | [] => []
  | (_, .ok ()) :: rest => failures rest
  | (operation, .error status) :: rest => .device operation status :: failures rest

/-- The result that reports the first of several errors. -/
def firstFailure : List StreamError → Except StreamError Unit
  | [] => .ok ()
  | error :: _ => .error error

namespace Stream

variable {σ : Type} [Device σ]

/-- Access the parameters of an acquired device and settle a configuration. -/
def negotiate (requested : StreamConfig) (device : σ) : Except StreamError StreamConfig × σ :=
  match Device.perform .parameters device with
  | (.error status, device) => (.error (.device .open status), device)
  | (.ok (), device) =>
    match Negotiation.run requested device with
    | (.error e, device) => (.error (.negotiation e), device)
    | (.ok config, device) => (.ok config, device)

/-- The callback handed to the device. -/
def callback (s : Stream σ) (config : StreamConfig) (handler : Handler) (options : Options) :
    Callback where
  direction := s.direction
  config := config
  handler := handler
  preclear := options.preclear

/-- Configure a created stream as close as possible to a request. -/
def configure (s : Stream σ) (requested : StreamConfig) (handler : Handler) (options : Options) :
    Outcome σ :=
  if s.state ≠ .created then ⟨.error (.state .open s.state), s, []⟩
  else if ¬ handler.accepts s.direction then ⟨.error (.handlerMismatch s.direction), s, []⟩
  else
    match Device.perform (.acquire s.direction options) s.device with
    | (.error status, device) => ⟨.error (.device .open status), { s with device }, []⟩
    | (.ok (), device) =>
      match negotiate requested device with
      | (.error e, device) =>
        match Device.perform .dispose device with
        | (.ok (), device) => ⟨.error e, { s with device }, []⟩
        | (.error status, device) => ⟨.error e, { s with device }, [.releaseFailed status]⟩
      | (.ok config, device) =>
        let log := [.negotiated s.direction config]
        match Device.perform (.register (s.callback config handler options)) device with
        | (.ok (), device) => ⟨.ok (), { s with device, config, state := .configured }, log⟩
        | (.error status, device) =>
          ⟨.error (.device .open status), { s with device, config, state := .configured }, log⟩

/-- Begin issuing callbacks.  Starting a started stream does nothing. -/
def start (s : Stream σ) : Outcome σ :=
  match s.state with
  | .started => ⟨.ok (), s, []⟩
  | .created | .closed => ⟨.error (.state .start s.state), s, []⟩
  | .configured | .stopped =>
    match Device.perform .start s.device with
    | (.error status, device) => ⟨.error (.device .start status), { s with device }, []⟩
    | (.ok (), device) => ⟨.ok (), { s with device, state := .started }, [.started s.direction]⟩

/-- Stop issuing callbacks.  Stopping a stream that is not started does nothing. -/
def stop (s : Stream σ) : Outcome σ :=
  match s.state with
  | .configured | .stopped => ⟨.ok (), s, []⟩
  | .created | .closed => ⟨.error (.state .stop s.state), s, []⟩
  | .started =>
    match Device.perform .stop s.device with
    | (.error status, device) => ⟨.error (.device .stop status), { s with device }, []⟩
    | (.ok (), device) => ⟨.ok (), { s with device, state := .stopped }, [.stopped s.direction]⟩

/-- Make every cleanup call that a configured stream owes its device; answers their outcomes with
the operations they are reported under. -/
def cleanUp (s : Stream σ) : List (Operation × Except Status Unit) × σ :=
  let halted : List (Operation × Except Status Unit) × σ :=
    if s.state = .started then
      let (result, device) := Device.perform .stop s.device
      ([(.stop, result)], device)
    else ([], s.device)
  let (torn, device) := Device.perform .tearDown halted.2
  let (released, device) := Device.perform .dispose device
  (halted.1 ++ [(.close, torn), (.close, released)], device)

/-- Release the device.  The first failure is the result, and every later one is noted. -/
def close (s : Stream σ) : Outcome σ :=
  match s.state with
  | .closed => ⟨.error (.state .close .closed), s, []⟩
  | .created => ⟨.ok (), { s with state := .closed }, []⟩
  | _ =>
    let (outcomes, device) := s.cleanUp
    let errors := failures outcomes
    ⟨firstFailure errors, { s with device, state := .closed },
      errors.tail.map .closeFailedAgain ++ [.closed s.direction]⟩

/-- Drop the stream, closing it if nobody did; answers the device and the events noted. -/
def drop (s : Stream σ) : σ × List Event :=
  match s.state with
  | .closed => (s.device, [])
  | _ =>
    let closed := s.close
    match closed.result with
    | .ok () => (closed.stream.device, closed.log)
    | .error e => (closed.stream.device, closed.log ++ [.dropFailed e])

/-- Open a stream: make one and configure it, dropping it again if that fails. -/
def «open» (device : σ) (direction : Direction) (requested : StreamConfig) (handler : Handler)
    (options : Options) : Opened σ :=
  let outcome := ({ device, direction } : Stream σ).configure requested handler options
  match outcome.result with
  | .ok () => .ok outcome.stream outcome.log
  | .error e =>
    let (device, log) := outcome.stream.drop
    .failed e device (outcome.log ++ log)

/-- The debug text of a stream. -/
def debugText (s : Stream σ) : String :=
  "StreamHandle \x7b direction: " ++ s.direction.debugText ++ ", config: " ++ s.config.debugText ++
    ", state: " ++ s.state.debugText ++ " \x7d"

end Stream

end PcmStream
