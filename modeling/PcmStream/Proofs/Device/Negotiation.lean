/-
  What a negotiation asks of the hardware.

  A negotiation goes through its plan from the front and ends at the first request that is rejected.
  `Asked plan earlier later result` says so of a record: either all of the plan was granted and the
  result is a configuration, or the part before some request was granted, that request was rejected,
  nothing was asked after it, and the result names its step and status.

  `asked_run` is the statement for `Negotiation.run`.  It is put together from one lemma on
  `attempt`, applied once for each step.
-/
import PcmStream.Proofs.Device.Usage
import PcmStream.Device.Negotiation

namespace PcmStream.Negotiation

variable {σ α : Type}

/-- What was asked of recorded hardware, and how it came out, when a plan was followed. -/
inductive Asked (plan : List Request) (earlier later : Recorded σ) :
    Except NegotiationError α → Prop
  /-- Every request was granted. -/
  | settled (a : α)
      (hcalls : later.calls = earlier.calls ++ plan.map fun q => AnyCall.granted (.request q)) :
      Asked plan earlier later (.ok a)
  /-- A request was rejected, and nothing was asked after it. -/
  | rejected (before : List Request) (q : Request) (rest : List Request) (status : Status)
      (hplan : plan = before ++ q :: rest)
      (hcalls : later.calls = earlier.calls ++
        ((before.map fun q => AnyCall.granted (.request q)) ++
          [AnyCall.rejected (.request q) status])) :
      Asked plan earlier later (.error ⟨q.step, status⟩)

/-- With nothing left to ask, the record stays. -/
theorem Asked.nil (r : Recorded σ) (a : α) : Asked [] r r (.ok a) :=
  .settled a (List.append_nil _).symm

/-- A granted request goes in front of whatever follows. -/
theorem Asked.cons {plan : List Request} {earlier middle later : Recorded σ} {q : Request}
    {result : Except NegotiationError α}
    (hq : middle.calls = earlier.calls ++ [AnyCall.granted (.request q)])
    (h : Asked plan middle later result) : Asked (q :: plan) earlier later result := by
  cases h with
  | settled a hcalls =>
    refine .settled a ?_
    rw [hcalls, hq, List.append_assoc]
    rfl
  | rejected before q' rest status hplan hcalls =>
    refine .rejected (q :: before) q' rest status ?_ ?_
    · rw [hplan]
      rfl
    · rw [hcalls, hq, List.append_assoc]
      rfl

variable [Hardware σ]

/-- One request and what follows it. -/
theorem Asked.attempt {plan : List Request} {q : Request} {r : Recorded σ}
    {next : q.Answer → Recorded σ → Except NegotiationError α × Recorded σ}
    (hnext : ∀ answer middle, Asked plan middle (next answer middle).2 (next answer middle).1) :
    Asked (q :: plan) r (attempt q r next).2 (attempt q r next).1 := by
  rw [Negotiation.attempt]
  rcases hq : Hardware.request q r with ⟨status | answer, middle⟩
  · exact .rejected [] q plan status rfl (Recorded.calls_request hq)
  · exact (hnext answer middle).cons (Recorded.calls_request hq)

/-- A negotiation follows its plan. -/
theorem asked_run (requested : StreamConfig) (r : Recorded σ) :
    Asked (plan requested) r (run requested r).2 (run requested r).1 := by
  refine .attempt fun _ _ => .attempt fun _ _ => .attempt fun _ _ => .attempt fun _ _ => ?_
  refine .attempt fun _ _ => .attempt fun _ _ => .attempt fun _ _ => .attempt fun _ r => ?_
  exact .nil r _

end PcmStream.Negotiation
