/-
  Scripted devices: a device that does as it is told.

  A script names the calls that fail, with the status of each, and the answers of `near` requests
  that differ from what was asked for.  Everything else succeeds.  The device keeps the callback
  that was registered last, and keeps it for good, so that it can be run by hand at any time.
-/
import PcmStream.Device.Recorded

namespace PcmStream

/-- The name of a call, without its arguments. -/
inductive CallName
  /-- A request to the hardware. -/
  | step (s : Step)
  /-- Acquiring the device. -/
  | acquire
  /-- Access to the hardware parameters. -/
  | parameters
  /-- Registering a callback. -/
  | register
  /-- Starting. -/
  | start
  /-- Stopping. -/
  | stop
  /-- Tearing down the configuration. -/
  | tearDown
  /-- Releasing the device. -/
  | dispose
  deriving DecidableEq, Repr

/-- The name as text. -/
def CallName.text : CallName → String
  | step s => s.name
  | acquire => "acquire"
  | parameters => "parameters"
  | register => "register"
  | start => "start"
  | stop => "stop"
  | tearDown => "uninitialize"
  | dispose => "dispose"

/-- Every name. -/
def CallName.all : List CallName :=
  Step.all.map .step ++ [acquire, parameters, register, start, stop, tearDown, dispose]

/-- The name of the given text. -/
def CallName.ofText? (s : String) : Option CallName := all.find? fun n => n.text == s

/-- The name of a lifecycle call. -/
def DeviceCall.name : DeviceCall → CallName
  | .acquire .. => .acquire
  | .parameters => .parameters
  | .register _ => .register
  | .start => .start
  | .stop => .stop
  | .tearDown => .tearDown
  | .dispose => .dispose

/-- What a scripted device does. -/
structure Script where
  /-- The calls that fail, with their statuses. -/
  fail : List (CallName × Status) := []
  /-- The values that `near` requests are answered with. -/
  near : List (CallName × Nat) := []
  deriving Repr

namespace Script

/-- The outcome of a call of the given name that answers `answer` if it succeeds. -/
def outcome {α : Type} (s : Script) (name : CallName) (answer : α) : Except Status α :=
  match s.fail.lookup name with
  | some status => .error status
  | none => .ok answer

/-- The value picked for a `near` request. -/
def pick (s : Script) (step : Step) (asked : Nat) : Nat := (s.near.lookup (.step step)).getD asked

/-- The answer to a request. -/
def answer (s : Script) : (r : Request) → Except Status r.Answer
  | .setAccess _ => s.outcome (.step .access) ()
  | .setFormat _ => s.outcome (.step .format) ()
  | .setChannels _ => s.outcome (.step .channels) ()
  | .setResample _ => s.outcome (.step .resample) ()
  | .setRateNear rate => s.outcome (.step .rate) (s.pick .rate rate)
  | .setBufferSizeNear frames => s.outcome (.step .bufferSize) (s.pick .bufferSize frames)
  | .setPeriodSizeNear frames => s.outcome (.step .periodSize) (s.pick .periodSize frames)
  | .install => s.outcome (.step .install) ()

end Script

/-- A device that follows a script. -/
structure ScriptedDevice where
  /-- The script. -/
  script : Script := {}
  /-- The callback that was registered last. -/
  callback : Option Callback := none

instance : Hardware ScriptedDevice where
  request r d := (d.script.answer r, d)

instance : Device ScriptedDevice where
  perform c d :=
    match d.script.outcome c.name (), c with
    | .ok (), .register callback => (.ok (), { d with callback := some callback })
    | result, _ => (result, d)

end PcmStream
