/-
  Software devices: a device that lives in memory and is driven by hand.

  What it supports is described by its `Capabilities`, and failures are injected through its
  `Faults`, which can be replaced at any time.  A request first meets the fault of its step, then
  the capabilities; what it settles is kept aside until it is installed.

  Acquiring forgets what an earlier owner settled, and disposing releases everything even if it is
  made to fail.
-/
import PcmStream.Device.Basic
import PcmStream.SoftDevice.Supported

namespace PcmStream

/-- The configuration space of a software device. -/
structure Capabilities where
  /-- Supported sample formats. -/
  formats : List SampleFormat := SampleFormat.all
  /-- Supported channel counts. -/
  channels : Supported := .any
  /-- Supported sample rates. -/
  rates : Supported := .any
  /-- Supported buffer sizes. -/
  bufferSizes : Supported := .any
  /-- Supported period sizes; a period is never larger than the buffer that was picked before. -/
  periodSizes : Supported := .any
  /-- Whether interleaved access is supported. -/
  interleaved : Bool := true
  /-- Whether callbacks are handed one area per channel instead of interleaved samples. -/
  planar : Bool := false
  /-- Whether the device can pause. -/
  canPause : Bool := true
  deriving DecidableEq, Repr

/-- Failures to inject. -/
structure Faults where
  /-- The device cannot be acquired. -/
  busy : Bool := false
  /-- A step of the negotiation is rejected. -/
  step : Option (Step × Status) := none
  /-- Registering a callback fails. -/
  register : Option Status := none
  /-- Starting fails. -/
  start : Option Status := none
  /-- Stopping fails. -/
  stop : Option Status := none
  /-- Tearing down fails. -/
  tearDown : Option Status := none
  /-- Disposing fails; the device is released anyway. -/
  dispose : Option Status := none
  deriving DecidableEq, Repr

/-- The status injected into a step, if it is the faulty one. -/
def Faults.atStep (f : Faults) (step : Step) : Option Status :=
  match f.step with
  | some (faulty, status) => if faulty = step then some status else none
  | none => none

/-- Parameters that are settled but not installed. -/
structure Pending where
  /-- The access mode. -/
  access : Option Access := none
  /-- The sample format. -/
  format : Option SampleFormat := none
  /-- The number of channels. -/
  channels : Option Nat := none
  /-- The sample rate. -/
  rate : Option Nat := none
  /-- The buffer size. -/
  bufferSize : Option Nat := none
  /-- The period size. -/
  periodSize : Option Nat := none
  deriving DecidableEq, Repr

/-- The configuration that the settled parameters make up, if none is missing and neither the rate
nor a size is zero. -/
def Pending.config? (p : Pending) : Option StreamConfig :=
  match p.format, p.channels, p.rate, p.bufferSize, p.periodSize with
  | some format, some channels, some rate, some bufferSize, some periodSize =>
    if 0 < rate ∧ 0 < bufferSize ∧ 0 < periodSize then
      some { rate, channels, format, bufferSize, periodSize }
    else none
  | _, _, _, _, _ => none

/-- A software device. -/
structure SoftDevice where
  /-- What it supports. -/
  capabilities : Capabilities := {}
  /-- The failures injected into it. -/
  faults : Faults := {}
  /-- Whether it belongs to somebody. -/
  acquired : Bool := false
  /-- The parameters settled since it was acquired. -/
  pending : Pending := {}
  /-- The installed configuration. -/
  installed : Option StreamConfig := none
  /-- The steps taken since it was acquired, oldest first. -/
  calls : List Step := []
  /-- The registered callback. -/
  callback : Option Callback := none
  /-- Whether it issues callbacks. -/
  running : Bool := false
  /-- Whether it was disposed of since it was acquired. -/
  disposed : Bool := false
  /-- The bytes waiting to be captured. -/
  input : List UInt8 := []

namespace SoftDevice

/-- The largest rate a configuration can have. -/
def maxRate : Nat := 0xffffffff

/-- The period size picked for a request: never larger than a buffer size that is settled. -/
def pickPeriod (d : SoftDevice) (frames : Nat) : Option Nat :=
  match d.pending.bufferSize with
  | some bufferSize => d.capabilities.periodSizes.nearestAtMost frames bufferSize
  | none => d.capabilities.periodSizes.nearest frames

/-- Settle a parameter, or say that it is not supported. -/
def settle (d : SoftDevice) : (r : Request) → Except Status r.Answer × SoftDevice
  | .setAccess access =>
    if access = .interleaved ∧ ¬ d.capabilities.interleaved then (.error .invalid, d)
    else (.ok (), { d with pending.access := some access })
  | .setFormat format =>
    if d.capabilities.formats.contains format then
      (.ok (), { d with pending.format := some format })
    else (.error .invalid, d)
  | .setChannels channels =>
    if channels ≠ 0 ∧ d.capabilities.channels.contains channels then
      (.ok (), { d with pending.channels := some channels })
    else (.error .invalid, d)
  | .setResample _ => (.ok (), d)
  | .setRateNear rate =>
    match d.capabilities.rates.nearest rate with
    | some picked =>
      if picked ≤ maxRate then (.ok picked, { d with pending.rate := some picked })
      else (.error .invalid, d)
    | none => (.error .invalid, d)
  | .setBufferSizeNear frames =>
    match d.capabilities.bufferSizes.nearest frames with
    | some picked => (.ok picked, { d with pending.bufferSize := some picked })
    | none => (.error .invalid, d)
  | .setPeriodSizeNear frames =>
    match d.pickPeriod frames with
    | some picked => (.ok picked, { d with pending.periodSize := some picked })
    | none => (.error .invalid, d)
  | .install =>
    match d.pending.config? with
    | some config => (.ok (), { d with installed := some config })
    | none => (.error .invalid, d)

/-- Answer a request: note its step, and settle it unless its step is faulty. -/
def request (d : SoftDevice) (r : Request) : Except Status r.Answer × SoftDevice :=
  let d := { d with calls := d.calls ++ [r.step] }
  match d.faults.atStep r.step with
  | some status => (.error status, d)
  | none => d.settle r

instance : Hardware SoftDevice where
  request r d := d.request r
  canPause d := d.capabilities.canPause

/-- The outcome of a call that fails only if a fault is injected. -/
def checked (fault : Option Status) : Except Status Unit :=
  match fault with
  | some status => .error status
  | none => .ok ()

/-- The device with nothing configured and nothing running. -/
def reset (d : SoftDevice) : SoftDevice :=
  { d with running := false, callback := none, installed := none }

/-- Perform a lifecycle call. -/
def perform (d : SoftDevice) : DeviceCall → Except Status Unit × SoftDevice
  | .acquire _ _ =>
    if d.faults.busy ∨ d.acquired then (.error .busy, d)
    else
      (.ok (),
        { d with acquired := true, disposed := false, pending := {}, installed := none, calls := [] })
  | .parameters => (if d.acquired then .ok () else .error .badState, d)
  | .register callback =>
    match d.faults.register with
    | some status => (.error status, d)
    | none =>
      if d.installed.isNone then (.error .badState, d)
      else (.ok (), { d with callback := some callback })
  | .start =>
    match d.faults.start with
    | some status => (.error status, d)
    | none =>
      if d.callback.isNone then (.error .badState, d) else (.ok (), { d with running := true })
  | .stop =>
    match d.faults.stop with
    | some status => (.error status, d)
    | none => (.ok (), { d with running := false })
  | .tearDown =>
    match d.faults.tearDown with
    | some status => (.error status, d)
    | none => (.ok (), d.reset)
  | .dispose => (checked d.faults.dispose, { d.reset with acquired := false, disposed := true })

instance : Device SoftDevice where
  perform c d := d.perform c

/-- Replace the faults to inject. -/
def setFaults (d : SoftDevice) (faults : Faults) : SoftDevice := { d with faults }

/-- Queue bytes to be captured. -/
def pushInput (d : SoftDevice) (bytes : List UInt8) : SoftDevice :=
  { d with input := d.input ++ bytes }

/-- Whether the device holds the callback's end of the hand-off queue of the given number. -/
def holdsQueue (d : SoftDevice) (key : Nat) : Bool :=
  d.callback.any fun c => c.handler.queueKey? == some key

end SoftDevice

end PcmStream
