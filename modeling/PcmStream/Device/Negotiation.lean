/-
  Negotiation: settling a configuration with the hardware.

  The eight steps are taken in a fixed order, each at most once.  The first request that is
  rejected ends the negotiation: nothing is asked after it, and the rejection is what gets
  reported.  No fallback is tried; that is up to the caller.

  The settled configuration keeps the requested format and channels and has the rate, the buffer
  and the period that the hardware answered with.
-/
import PcmStream.Config
import PcmStream.Device.Hardware

namespace PcmStream

/-- The first step that the hardware rejected. -/
structure NegotiationError where
  /-- The rejected step. -/
  step : Step
  /-- The status reported for it. -/
  status : Status
  deriving DecidableEq, Repr

/-- The text of the error. -/
def NegotiationError.message (e : NegotiationError) : String :=
  "step `" ++ e.step.name ++ "` was rejected with status " ++ e.status.message

namespace Negotiation

variable {σ : Type} [Hardware σ] {α : Type}

/-- Make one request and go on with its answer; a rejection is the result. -/
def attempt (r : Request) (hw : σ) (next : r.Answer → σ → Except NegotiationError α × σ) :
    Except NegotiationError α × σ :=
  match Hardware.request r hw with
  | (.ok answer, hw) => next answer hw
  | (.error status, hw) => (.error ⟨r.step, status⟩, hw)

/-- Settle a configuration as close as possible to the requested one. -/
def run (requested : StreamConfig) (hw : σ) : Except NegotiationError StreamConfig × σ :=
  attempt (.setAccess .interleaved) hw fun _ hw =>
  attempt (.setFormat requested.format) hw fun _ hw =>
  attempt (.setChannels requested.channels) hw fun _ hw =>
  attempt (.setResample true) hw fun _ hw =>
  attempt (.setRateNear requested.rate) hw fun rate hw =>
  attempt (.setBufferSizeNear requested.bufferSize) hw fun bufferSize hw =>
  attempt (.setPeriodSizeNear requested.periodSize) hw fun periodSize hw =>
  attempt .install hw fun _ hw =>
  (.ok { requested with rate, bufferSize, periodSize }, hw)

/-- The requests of a negotiation in which none is rejected. -/
def plan (requested : StreamConfig) : List Request :=
  [.setAccess .interleaved, .setFormat requested.format, .setChannels requested.channels,
    .setResample true, .setRateNear requested.rate, .setBufferSizeNear requested.bufferSize,
    .setPeriodSizeNear requested.periodSize, .install]

/-- The plan takes every step once, in order. -/
theorem plan_steps (requested : StreamConfig) : (plan requested).map Request.step = Step.all := rfl

end Negotiation

end PcmStream
