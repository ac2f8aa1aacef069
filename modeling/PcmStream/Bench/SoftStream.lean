/-
  A test bench with one stream over a software device.

  Three parties act on it in any order: whoever controls the stream, the hand that drives the
  device, and the application at the other ends of its hand-off queues.  As long as the device has
  not been moved into a stream it can also be called directly, which is how calls in an order that
  no stream would make are tried.
-/
import PcmStream.Bench.Lifecycle
import PcmStream.Bench.Controller
import PcmStream.Device.Negotiation

namespace PcmStream.Bench

/-- A request to the hardware of a device that is called directly. -/
inductive DirectRequest
  /-- One request. -/
  | request (r : Request)
  /-- Ask whether the device can pause. -/
  | canPause
  /-- A whole negotiation. -/
  | negotiate (config : StreamConfig)
  deriving Repr

/-- The answer to a `DirectRequest`. -/
inductive DirectAnswer
  /-- The outcome of a request; the value picked if it was a `near` one. -/
  | request (outcome : Except Status (Option Nat))
  /-- Whether the device can pause. -/
  | canPause (b : Bool)
  /-- The outcome of a negotiation. -/
  | negotiated (outcome : Except NegotiationError StreamConfig)

/-- A call to a device that is not in a stream. -/
inductive DirectCall
  /-- Acquire the device. -/
  | acquire (direction : Direction) (options : Options)
  /-- Access its parameters and make requests. -/
  | parameters (requests : List DirectRequest)
  /-- Register a callback with counters of its own. -/
  | register (direction : Direction) (config : StreamConfig) (plan : ServerPlan)
      (options : Options)
  /-- Start it. -/
  | start
  /-- Stop it. -/
  | stop
  /-- Tear it down. -/
  | tearDown
  /-- Dispose of it. -/
  | dispose
  /-- Ask for its debug text. -/
  | debug
  deriving Repr

/-- The answer to a `DirectCall`. -/
inductive DirectReply
  /-- The device belongs to a stream already. -/
  | noDevice
  /-- The outcome of a call. -/
  | outcome (r : Except Status Unit)
  /-- The handler does not serve the direction. -/
  | mismatch (e : StreamError)
  /-- The answers to the requests made. -/
  | answers (list : List DirectAnswer)
  /-- A debug text. -/
  | text (s : String)

/-- The value that a granted request was answered with, if it is a `near` one. -/
def pickedValue : (r : Request) → r.Answer → Option Nat
  | .setRateNear _, rate => some rate
  | .setBufferSizeNear _, frames => some frames
  | .setPeriodSizeNear _, frames => some frames
  | .setAccess _, _ | .setFormat _, _ | .setChannels _, _ | .setResample _, _ | .install, _ => none

/-- Make a direct request. -/
def DirectRequest.run (d : SoftDevice) : DirectRequest → DirectAnswer × SoftDevice
  | request r =>
    let (outcome, d) := d.request r
    (.request (outcome.map (pickedValue r)), d)
  | canPause => (.canPause (Hardware.canPause d), d)
  | negotiate config =>
    let (outcome, d) := Negotiation.run config d
    (.negotiated outcome, d)

/-- Make direct requests in order. -/
def DirectRequest.runAll : List DirectRequest → SoftDevice → List DirectAnswer × SoftDevice
  | [], d => ([], d)
  | r :: rest, d =>
    let (answer, d) := r.run d
    let (answers, d) := runAll rest d
    (answer :: answers, d)

/-- Make a direct call. -/
def DirectCall.run (d : SoftDevice) (application : Application) :
    DirectCall → DirectReply × SoftDevice × Application
  | acquire direction options =>
    let (r, d) := d.perform (.acquire direction options)
    (.outcome r, d, application)
  | parameters requests =>
    match d.perform .parameters with
    | (.error status, d) => (.outcome (.error status), d, application)
    | (.ok (), d) =>
      let (answers, d) := DirectRequest.runAll requests d
      (.answers answers, d, application)
  | register direction config plan options =>
    let (handler, application) := application.prepare plan
    if handler.accepts direction then
      let callback : Callback :=
        { direction, config, handler, preclear := options.preclear, ownStats := some {} }
      let (r, d) := d.perform (.register callback)
      (.outcome r, d, application)
    else (.mismatch (.handlerMismatch direction), d, application)
  | start =>
    let (r, d) := d.perform .start
    (.outcome r, d, application)
  | stop =>
    let (r, d) := d.perform .stop
    (.outcome r, d, application)
  | tearDown =>
    let (r, d) := d.perform .tearDown
    (.outcome r, d, application)
  | dispose =>
    let (r, d) := d.perform .dispose
    (.outcome r, d, application)
  | debug => (.text "FakeDevice \x7b .. \x7d", d, application)

/-- A command to the bench. -/
inductive SoftCommand
  /-- An operation on the stream. -/
  | stream (c : StreamCommand)
  /-- A command of the hand that drives the device. -/
  | controller (c : ControllerCommand)
  /-- A direct call to the device. -/
  | direct (c : DirectCall)
  /-- Use an end of a hand-off queue. -/
  | atEnd (name : String) (c : EndCommand)
  deriving Repr

/-- The answer to a `SoftCommand`. -/
inductive SoftReply
  /-- Of an operation on the stream. -/
  | stream (r : StreamReply)
  /-- Of the hand that drives the device. -/
  | controller (r : ControllerReply)
  /-- Of a direct call. -/
  | direct (r : DirectReply)
  /-- Of an end. -/
  | atEnd (r : EndReply)

/-- The bench. -/
structure SoftBench where
  /-- Where the device is. -/
  slot : Slot SoftDevice
  /-- The application. -/
  application : Application := {}
  /-- The period of the last tick. -/
  period : Option Period := none

/-- What a command leaves behind. -/
structure SoftTurn where
  /-- The answer. -/
  reply : SoftReply
  /-- The bench afterwards. -/
  bench : SoftBench
  /-- The events noted. -/
  log : List Event := []
  /-- What routines did during the command. -/
  records : List CallbackRecord := []

namespace SoftBench

/-- A bench with a fresh device. -/
def ofCapabilities (capabilities : Capabilities) : SoftBench where
  slot := .free { capabilities }

/-- What a callback of the device shares with the controlling side. -/
def context (b : SoftBench) : Context where
  stats := b.slot.stats
  patchbay := b.application.patchbay

/-- Carry out a command. -/
def run (b : SoftBench) : SoftCommand → SoftTurn
  | .stream c =>
    let t := c.run b.slot b.application
    { reply := .stream t.reply
      bench := { b with slot := t.slot, application := t.application }
      log := t.log }
  | .controller c =>
    let t := c.run b.slot.device b.period b.context
    { reply := .controller t.reply
      bench :=
        { slot := (b.slot.withDevice t.device).withStats t.context.stats
          application := { b.application with patchbay := t.context.patchbay }
          period := t.period }
      records := t.records }
  | .direct c =>
    match b.slot with
    | .free d =>
      let (reply, d, application) := c.run d b.application
      { reply := .direct reply, bench := { b with slot := .free d, application } }
    | _ => { reply := .direct .noDevice, bench := b }
  | .atEnd name c =>
    let (reply, application) := b.application.useEnd b.slot.device.holdsQueue name c
    { reply := .atEnd reply, bench := { b with application } }

end SoftBench

end PcmStream.Bench
