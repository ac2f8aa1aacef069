/-
  Devices: what a stream drives.

  A device is acquired, gives access to its hardware parameters, takes a callback, is started and
  stopped, and is finally torn down and disposed of.  As with hardware requests, the calls are
  data and a device is anything that performs them out of a state of its own, with any outcome.
-/
import PcmStream.Callback.Basic
import PcmStream.Device.Hardware

namespace PcmStream

/-- A lifecycle call to a device. -/
inductive DeviceCall
  /-- Acquire the device for a direction. -/
  | acquire (direction : Direction) (options : Options)
  /-- Give access to the hardware parameters. -/
  | parameters
  /-- Take a callback. -/
  | register (callback : Callback)
  /-- Begin issuing callbacks. -/
  | start
  /-- Stop issuing callbacks. -/
  | stop
  /-- Tear down the configuration. -/
  | tearDown
  /-- Release the device. -/
  | dispose

/-- The text of a lifecycle call. -/
def DeviceCall.text : DeviceCall → String
  | acquire direction options =>
    "acquire(" ++ direction.name ++ "," ++ options.deviceName.getD "-" ++ "," ++
      (if options.preclear then "true" else "false") ++ ")"
  | parameters => "parameters()"
  | register callback => "register(" ++ callback.direction.name ++ ")"
  | start => "start()"
  | stop => "stop()"
  | tearDown => "uninitialize()"
  | dispose => "dispose()"

/-- An audio device. -/
class Device (σ : Type) extends Hardware σ where
  /-- Perform a lifecycle call. -/
  perform : DeviceCall → σ → Except Status Unit × σ

end PcmStream
