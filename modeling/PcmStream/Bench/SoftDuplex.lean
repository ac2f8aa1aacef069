/-
  A test bench with one full-duplex session over two software devices.

  Each device has a hand of its own that drives it.  A callback of either device moves the counters
  of its stream and records in the session's first clock readings.
-/
import PcmStream.Bench.Controller
import PcmStream.Bench.Application
import PcmStream.Duplex

namespace PcmStream.Bench

/-- Where the two devices are. -/
inductive DuplexSlot
  /-- They have not been moved into a session yet. -/
  | free (input output : SoftDevice)
  /-- They belong to a session. -/
  | owned (session : Duplex SoftDevice SoftDevice)
  /-- Their session is gone. -/
  | leftBehind (input output : SoftDevice)

/-- A command to the bench. -/
inductive DuplexCommand
  /-- Open the session. -/
  | open (inputConfig outputConfig : StreamConfig) (capture render : ServerPlan)
      (options : Options)
  /-- Start both directions. -/
  | start
  /-- Stop both directions. -/
  | stop
  /-- Close both directions. -/
  | close
  /-- Ask for the time between the first input and the first output. -/
  | offset
  /-- Drop the session. -/
  | drop
  /-- A command of the hand that drives the device of a direction. -/
  | controller (direction : Direction) (c : ControllerCommand)
  /-- Use an end of a hand-off queue. -/
  | atEnd (name : String) (c : EndCommand)
  deriving Repr

/-- The answer to a `DuplexCommand`. -/
inductive DuplexReply
  /-- The devices are gone already. -/
  | noDevice
  /-- There is no session. -/
  | noSession
  /-- The result of an operation. -/
  | result (r : Except StreamError Unit)
  /-- The time between the first callbacks. -/
  | offset (r : Except StreamError Offset)
  /-- Of the hand that drives a device. -/
  | controller (r : ControllerReply)
  /-- Of an end. -/
  | atEnd (r : EndReply)

namespace DuplexSlot

/-- The device of a direction, wherever it is. -/
def device (s : DuplexSlot) (d : Direction) : SoftDevice :=
  match s, d with
  | free input _, .input => input
  | free _ output, .output => output
  | owned session, .input => session.input.device
  | owned session, .output => session.output.device
  | leftBehind input _, .input => input
  | leftBehind _ output, .output => output

/-- The slot with the device of a direction replaced. -/
def withDevice (s : DuplexSlot) (d : Direction) (device : SoftDevice) : DuplexSlot :=
  match s, d with
  | free _ output, .input => .free device output
  | free input _, .output => .free input device
  | owned session, .input => .owned { session with input.device := device }
  | owned session, .output => .owned { session with output.device := device }
  | leftBehind _ output, .input => .leftBehind device output
  | leftBehind input _, .output => .leftBehind input device

/-- The session, if there is one. -/
def session? : DuplexSlot → Option (Duplex SoftDevice SoftDevice)
  | owned session => some session
  | _ => none

/-- What a callback of a direction shares with the controlling side. -/
def context (s : DuplexSlot) (d : Direction) (patchbay : Patchbay) : Context :=
  match s, d with
  | owned session, .input =>
    { stats := session.input.stats, times := some session.times, patchbay }
  | owned session, .output =>
    { stats := session.output.stats, times := some session.times, patchbay }
  | _, _ => { patchbay }

/-- The slot with what a callback of a direction shares replaced. -/
def withContext (s : DuplexSlot) (d : Direction) (c : Context) : DuplexSlot :=
  match s with
  | owned session =>
    let session := { session with times := c.times.getD session.times }
    match d with
    | .input => .owned { session with input.stats := c.stats }
    | .output => .owned { session with output.stats := c.stats }
  | other => other

end DuplexSlot

/-- The bench. -/
structure DuplexBench where
  /-- Where the devices are. -/
  slot : DuplexSlot
  /-- The application. -/
  application : Application := {}
  /-- The period of the last tick of the input. -/
  inputPeriod : Option Period := none
  /-- The period of the last tick of the output. -/
  outputPeriod : Option Period := none

/-- What a command leaves behind. -/
structure DuplexTurn where
  /-- The answer. -/
  reply : DuplexReply
  /-- The bench afterwards. -/
  bench : DuplexBench
  /-- The events noted. -/
  log : List Event := []
  /-- What routines did during the command. -/
  records : List CallbackRecord := []

namespace DuplexBench

/-- A bench with two fresh devices. -/
def ofCapabilities (input output : Capabilities) : DuplexBench where
  slot := .free { capabilities := input } { capabilities := output }

/-- The period kept for a direction. -/
def period (b : DuplexBench) : Direction → Option Period
  | .input => b.inputPeriod
  | .output => b.outputPeriod

/-- The bench with the period kept for a direction replaced. -/
def withPeriod (b : DuplexBench) (d : Direction) (p : Option Period) : DuplexBench :=
  match d with
  | .input => { b with inputPeriod := p }
  | .output => { b with outputPeriod := p }

/-- The turn of an operation on the session. -/
def ofOutcome (b : DuplexBench) (o : DuplexOutcome SoftDevice SoftDevice) : DuplexTurn where
  reply := .result o.result
  bench := { b with slot := .owned o.session }
  log := o.log

/-- Open a session over two devices. -/
def openOver (b : DuplexBench) (input output : SoftDevice) (inputConfig outputConfig : StreamConfig)
    (capture render : ServerPlan) (options : Options) : DuplexTurn :=
  let (capture, application) := b.application.prepare capture
  let (render, application) := application.prepare render
  let b := { b with application }
  match Duplex.open input output { inputConfig, outputConfig, capture, render, options } with
  | .ok session log =>
    { reply := .result (.ok ()), bench := { b with slot := .owned session }, log }
  | .failed e input output log =>
    { reply := .result (.error e), bench := { b with slot := .leftBehind input output }, log }

/-- Carry out a command on the session. -/
def runOn (b : DuplexBench) (session : Duplex SoftDevice SoftDevice) : DuplexCommand → DuplexTurn
  | .start => b.ofOutcome session.start
  | .stop => b.ofOutcome session.stop
  | .close => b.ofOutcome session.close
  | .offset => { reply := .offset session.offset, bench := b }
  | .drop =>
    let ((input, output), log) := session.drop
    { reply := .result (.ok ()), bench := { b with slot := .leftBehind input output }, log }
  | _ => { reply := .noDevice, bench := b }

/-- Whether a device holds the callback's end of the hand-off queue of the given number. -/
def holdsQueue (b : DuplexBench) (key : Nat) : Bool :=
  (b.slot.device .input).holdsQueue key || (b.slot.device .output).holdsQueue key

/-- Carry out a command. -/
def run (b : DuplexBench) : DuplexCommand → DuplexTurn
  | .controller d c =>
    let t := c.run (b.slot.device d) (b.period d) (b.slot.context d b.application.patchbay)
    let slot := (b.slot.withDevice d t.device).withContext d t.context
    let application := { b.application with patchbay := t.context.patchbay }
    { reply := .controller t.reply
      bench := { b with slot, application }.withPeriod d t.period
      records := t.records }
  | .atEnd name c =>
    let (reply, application) := b.application.useEnd b.holdsQueue name c
    { reply := .atEnd reply, bench := { b with application } }
  | .open inputConfig outputConfig capture render options =>
    match b.slot with
    | .free input output => b.openOver input output inputConfig outputConfig capture render options
    | _ => { reply := .noDevice, bench := b }
  | c =>
    match b.slot with
    | .owned session => b.runOn session c
    | _ => { reply := .noSession, bench := b }

end DuplexBench

end PcmStream.Bench
