/-
  Devices that cannot be told apart by what they answer.

  A simulation relates the states of two devices.  Asked the same from related states, both give the
  same answer and are in related states again (`Agree`).  Whoever only works with the answers then
  does the same with both: a negotiation is one example (`Hardware.Simulation.run`), and the
  operations on a stream are others.

  A device may look into the callback that it is handed, so a simulation of devices says for which
  handlers it holds.
-/
import PcmStream.Device.Basic
import PcmStream.Device.Negotiation

namespace PcmStream

variable {σ τ : Type}

/-- Two computations that end with the same result, in related states. -/
inductive Agree (R : σ → τ → Prop) {α : Type} : α × σ → α × τ → Prop
  /-- With the given result. -/
  | intro (result : α) {hw : σ} {hw' : τ} (h : R hw hw') : Agree R (result, hw) (result, hw')

/-- The common result, and the states. -/
theorem Agree.exists {R : σ → τ → Prop} {α : Type} {x : α × σ} {y : α × τ} (h : Agree R x y) :
    ∃ result hw hw', x = (result, hw) ∧ y = (result, hw') ∧ R hw hw' := by
  cases h with
  | intro result h => exact ⟨result, _, _, rfl, rfl, h⟩

/-! ## Hardware -/

/-- A relation that every request to the hardware preserves, with the same answer. -/
structure Hardware.Simulation [Hardware σ] [Hardware τ] (R : σ → τ → Prop) : Prop where
  /-- A request made from related states. -/
  request {hw : σ} {hw' : τ} (h : R hw hw') (q : Request) :
    Agree R (Hardware.request q hw) (Hardware.request q hw')

namespace Hardware.Simulation

variable [Hardware σ] [Hardware τ] {R : σ → τ → Prop} {hw : σ} {hw' : τ}

/-- One request of a negotiation, and what follows it. -/
theorem attempt {α : Type} {q : Request}
    {next : q.Answer → σ → Except NegotiationError α × σ}
    {next' : q.Answer → τ → Except NegotiationError α × τ} (S : Simulation R) (h : R hw hw')
    (hnext : ∀ answer {hw : σ} {hw' : τ}, R hw hw' → Agree R (next answer hw) (next' answer hw')) :
    Agree R (Negotiation.attempt q hw next) (Negotiation.attempt q hw' next') := by
  obtain ⟨answer, later, later', hx, hy, hlater⟩ := (S.request h q).exists
  rw [Negotiation.attempt, Negotiation.attempt, hx, hy]
  cases answer with
  | error status => exact .intro _ hlater
  | ok answer => exact hnext answer hlater

/-- Related hardware settles the same configuration, or rejects the same step. -/
theorem run (S : Simulation R) (requested : StreamConfig) (h : R hw hw') :
    Agree R (Negotiation.run requested hw) (Negotiation.run requested hw') := by
  refine S.attempt h fun _ _ _ h => S.attempt h fun _ _ _ h => S.attempt h fun _ _ _ h => ?_
  refine S.attempt h fun _ _ _ h => S.attempt h fun _ _ _ h => S.attempt h fun _ _ _ h => ?_
  refine S.attempt h fun _ _ _ h => S.attempt h fun _ _ _ h => ?_
  exact .intro _ h

end Hardware.Simulation

/-! ## Devices -/

/-- Whether the handler that a call hands over, if it hands over one, is as required. -/
def DeviceCall.Admitted (admits : Handler → Prop) : DeviceCall → Prop
  | register callback => admits callback.handler
  | _ => True

/-- A relation that requests and calls preserve, as long as the handlers are as required. -/
structure Device.Simulation [Device σ] [Device τ] (R : σ → τ → Prop) (admits : Handler → Prop) :
    Prop extends Hardware.Simulation R where
  /-- A call made from related states. -/
  perform {d : σ} {d' : τ} (h : R d d') (c : DeviceCall) (hc : c.Admitted admits) :
    Agree R (Device.perform c d) (Device.perform c d')

end PcmStream
