/-
  The hand that drives a software device on a test bench.

  It injects faults, queues input and lets time pass, and keeps the period of the last tick for
  inspection.  Whoever owns the device does not matter to it.
-/
import PcmStream.SoftDevice.Period

namespace PcmStream.Bench

/-- What can be done to a software device from outside. -/
inductive ControllerCommand
  /-- Replace the faults to inject. -/
  | setFaults (faults : Faults)
  /-- Queue samples to be captured, given by their numbers. -/
  | pushInput (type : SampleFormat) (numbers : List Int)
  /-- Issue one callback. -/
  | tick (frames : Nat) (time : Timestamp)
  /-- Look at one sample of the period kept. -/
  | periodSample (type : SampleFormat) (channel frame : Nat)
  /-- Look at one channel of the period kept. -/
  | periodChannel (type : SampleFormat) (channel : Nat)
  /-- Ask for the debug text. -/
  | debug
  deriving Repr

/-- The answer to a `ControllerCommand`. -/
inductive ControllerReply
  /-- The command was carried out. -/
  | done
  /-- The period of a tick, or nothing if the device was not running. -/
  | ticked (p : Option Period)
  /-- No period is kept. -/
  | noPeriod
  /-- A sample of the period kept, shown as a number, if it exists. -/
  | sample (number : Option Int)
  /-- Samples of the period kept, shown as numbers. -/
  | samples (numbers : List Int)
  /-- A debug text. -/
  | text (s : String)
  deriving DecidableEq, Repr

/-- What a command leaves behind. -/
structure ControllerTurn where
  /-- The answer. -/
  reply : ControllerReply
  /-- The device afterwards. -/
  device : SoftDevice
  /-- The period kept afterwards. -/
  period : Option Period
  /-- What the callback shares with the controlling side. -/
  context : Context
  /-- What routines did during the command. -/
  records : List CallbackRecord := []

/-- Carry out a command on a device, with the period kept so far. -/
def ControllerCommand.run (d : SoftDevice) (period : Option Period) (context : Context) :
    ControllerCommand → ControllerTurn
  | setFaults faults => ⟨.done, d.setFaults faults, period, context, []⟩
  | pushInput type numbers =>
    let bytes := numbers.flatMap fun n => (Sample.ofNumber type n).toBytes
    ⟨.done, d.pushInput bytes, period, context, []⟩
  | tick frames time =>
    match d.tick frames time context with
    | none => ⟨.ticked none, d, none, context, []⟩
    | some t => ⟨.ticked (some t.period), t.device, some t.period, t.context, t.record.toList⟩
  | periodSample type channel frame =>
    match period with
    | none => ⟨.noPeriod, d, period, context, []⟩
    | some p => ⟨.sample ((p.sample? type channel frame).map Sample.number), d, period, context, []⟩
  | periodChannel type channel =>
    match period with
    | none => ⟨.noPeriod, d, period, context, []⟩
    | some p => ⟨.samples ((p.channel type channel).map Sample.number), d, period, context, []⟩
  | debug => ⟨.text "FakeController \x7b .. \x7d", d, period, context, []⟩

end PcmStream.Bench
