/-
  Recorded devices: a device together with everything that was asked of it.

  `Recorded σ` behaves like the device inside, and keeps each call with the status it failed with,
  if it failed.  What a stream asks of a device, and in which order, is then a list to be looked at.
-/
import PcmStream.Device.Basic

namespace PcmStream

/-- Anything that can be asked of a device. -/
inductive AnyCall
  /-- A request to its hardware. -/
  | request (r : Request)
  /-- A lifecycle call. -/
  | device (c : DeviceCall)

/-- The text of a call. -/
def AnyCall.text : AnyCall → String
  | request r => r.text
  | device c => c.text

/-- A call and its outcome. -/
structure CallRecord where
  /-- The call. -/
  call : AnyCall
  /-- The status it failed with, if it failed. -/
  failure : Option Status

/-- A device with a record of its calls. -/
structure Recorded (σ : Type) where
  /-- The device. -/
  device : σ
  /-- Every call and its outcome, oldest first. -/
  calls : List CallRecord := []

/-- The status of a failed outcome. -/
def failure? {α : Type} : Except Status α → Option Status
  | .ok _ => none
  | .error status => some status

namespace Recorded

variable {σ : Type}

/-- The device after a call, with the call recorded. -/
def record {α : Type} (r : Recorded σ) (call : AnyCall) (outcome : Except Status α × σ) :
    Except Status α × Recorded σ :=
  (outcome.1, ⟨outcome.2, r.calls ++ [⟨call, failure? outcome.1⟩]⟩)

instance [Hardware σ] : Hardware (Recorded σ) where
  request q r := r.record (.request q) (Hardware.request q r.device)
  canPause r := Hardware.canPause r.device

instance [Device σ] : Device (Recorded σ) where
  perform c r := r.record (.device c) (Device.perform c r.device)

end Recorded

end PcmStream
