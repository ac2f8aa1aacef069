/-
  What is said in a negotiation, request by request.

  The hardware may be anything that answers requests, with any state, and each answer may depend on
  all that was asked before.  `Transcribed σ` is the same hardware with a transcript: every request
  with its outcome, which for a granted `near` request includes the value picked.  Keeping it changes
  nothing (`run_transcribed`).

  `UpToFirstError` says how transcript and result of a negotiation belong together.  The requests are
  taken from the front of the plan.  The first one that is rejected is the last one made, and the
  result names its step, by its place among all steps, and its status.  If none is rejected the plan
  was carried out to its end, and the result has the values that the hardware picked.

  `upToFirstError_run` says that every negotiation is of this kind.
-/
import PcmStream.Proofs.Device.Simulation
import PcmStream.Proofs.SoftDevice.Settling

namespace PcmStream

/-! ## Transcripts -/

/-- A request and its outcome. -/
structure Exchange where
  /-- The request. -/
  request : Request
  /-- What it was answered with. -/
  outcome : Except Status request.Answer

/-- Hardware with a transcript. -/
structure Transcribed (σ : Type) where
  /-- The hardware. -/
  hardware : σ
  /-- Every request made of it with its outcome, oldest first. -/
  exchanges : List Exchange := []

instance {σ : Type} [Hardware σ] : Hardware (Transcribed σ) where
  request q t :=
    let (outcome, hardware) := Hardware.request q t.hardware
    (outcome, ⟨hardware, t.exchanges ++ [⟨q, outcome⟩]⟩)
  canPause t := Hardware.canPause t.hardware

namespace Negotiation

variable {σ : Type} [Hardware σ] {α : Type}

/-- A request is noted with its outcome. -/
theorem exchanges_request {q : Request} {t t' : Transcribed σ} {outcome : Except Status q.Answer}
    (h : Hardware.request q t = (outcome, t')) :
    t'.exchanges = t.exchanges ++ [⟨q, outcome⟩] := by
  cases h
  rfl

/-- A negotiation does not depend on whether a transcript is kept. -/
theorem run_transcribed (requested : StreamConfig) (t : Transcribed σ) :
    run requested t.hardware = ((run requested t).1, (run requested t).2.hardware) := by
  have hkept : Hardware.Simulation fun (t : Transcribed σ) (hw : σ) => t.hardware = hw := by
    refine ⟨fun {t hw} h q => ?_⟩
    subst h
    exact .intro _ rfl
  obtain ⟨result, later, hw, hx, hy, hhw⟩ := (hkept.run requested (rfl : t.hardware = _)).exists
  rw [hx, hy, hhw]

/-! ## From the front of a plan -/

/-- What is said when a plan is followed until a request is rejected. -/
inductive Said (α : Type) : List Request → List Exchange → Except NegotiationError α → Prop
  /-- Nothing is left to be asked. -/
  | settled (a : α) : Said α [] [] (.ok a)
  /-- A request is rejected, and the rest is not asked. -/
  | rejected (q : Request) (rest : List Request) (status : Status) :
      Said α (q :: rest) [⟨q, .error status⟩] (.error ⟨q.step, status⟩)
  /-- A request is granted, and the rest follows. -/
  | granted (q : Request) (answer : q.Answer) {rest : List Request} {exchanges : List Exchange}
      {result : Except NegotiationError α} (h : Said α rest exchanges result) :
      Said α (q :: rest) (⟨q, .ok answer⟩ :: exchanges) result

namespace Said

variable {plan : List Request} {exchanges : List Exchange} {result : Except NegotiationError α}

/-- The requests made are those at the front of the plan. -/
theorem isPrefix (h : Said α plan exchanges result) :
    exchanges.map Exchange.request <+: plan := by
  induction h with
  | settled a => exact List.prefix_refl []
  | rejected q rest status => exact List.cons_prefix_cons.mpr ⟨rfl, List.nil_prefix⟩
  | granted q answer h ih => exact List.cons_prefix_cons.mpr ⟨rfl, ih⟩

/-- A rejected request is the last one made, and is the error. -/
theorem of_rejected (h : Said α plan exchanges result) {k : Nat} {q : Request} {status : Status}
    (hk : exchanges[k]? = some ⟨q, .error status⟩) :
    exchanges.length = k + 1 ∧ result = .error ⟨q.step, status⟩ := by
  induction h generalizing k with
  | settled a => cases hk
  | rejected q' rest status' =>
    cases k with
    | zero =>
      cases hk
      exact ⟨rfl, rfl⟩
    | succ k => cases hk
  | granted q' answer h ih =>
    cases k with
    | zero => cases hk
    | succ k =>
      obtain ⟨hlength, hresult⟩ := ih hk
      exact ⟨congrArg (· + 1) hlength, hresult⟩

/-- Without a rejected request the plan is settled. -/
theorem of_granted (h : Said α plan exchanges result)
    (hall : ∀ e ∈ exchanges, ∃ answer, e.outcome = .ok answer) : ∃ a, result = .ok a := by
  induction h with
  | settled a => exact ⟨a, rfl⟩
  | rejected q rest status =>
    obtain ⟨answer, hanswer⟩ := hall _ List.mem_cons_self
    cases hanswer
  | granted q answer h ih => exact ih fun e he => hall e (List.mem_cons_of_mem _ he)

end Said

/-- One request and what follows it, after what is in the transcript already. -/
theorem said_attempt {plan : List Request} {q : Request} {t : Transcribed σ}
    {next : q.Answer → Transcribed σ → Except NegotiationError α × Transcribed σ}
    (hnext : ∀ answer t, ∃ exchanges, (next answer t).2.exchanges = t.exchanges ++ exchanges ∧
      Said α plan exchanges (next answer t).1) :
    ∃ exchanges, (attempt q t next).2.exchanges = t.exchanges ++ exchanges ∧
      Said α (q :: plan) exchanges (attempt q t next).1 := by
  rw [attempt]
  rcases hq : Hardware.request q t with ⟨status | answer, t'⟩
  · exact ⟨_, exchanges_request hq, .rejected q plan status⟩
  · obtain ⟨exchanges, hexchanges, hsaid⟩ := hnext answer t'
    refine ⟨⟨q, .ok answer⟩ :: exchanges, ?_, .granted q answer hsaid⟩
    rw [hexchanges, exchanges_request hq, List.append_assoc]
    rfl

/-- A negotiation follows its plan. -/
theorem said_run (requested : StreamConfig) (t : Transcribed σ) :
    ∃ exchanges, (run requested t).2.exchanges = t.exchanges ++ exchanges ∧
      Said StreamConfig (plan requested) exchanges (run requested t).1 := by
  refine said_attempt fun _ _ => said_attempt fun _ _ => said_attempt fun _ _ => ?_
  refine said_attempt fun _ _ => said_attempt fun _ _ => said_attempt fun _ _ => ?_
  refine said_attempt fun _ _ => said_attempt fun _ _ => ?_
  exact ⟨[], (List.append_nil _).symm, .settled _⟩

/-! ## What is settled -/

/-- The transcript of a negotiation in which every request is granted, and the hardware picks the
given values. -/
def granted (requested : StreamConfig) (rate bufferSize periodSize : Nat) : List Exchange :=
  [⟨.setAccess .interleaved, .ok ()⟩, ⟨.setFormat requested.format, .ok ()⟩,
    ⟨.setChannels requested.channels, .ok ()⟩, ⟨.setResample true, .ok ()⟩,
    ⟨.setRateNear requested.rate, .ok rate⟩,
    ⟨.setBufferSizeNear requested.bufferSize, .ok bufferSize⟩,
    ⟨.setPeriodSizeNear requested.periodSize, .ok periodSize⟩, ⟨.install, .ok ()⟩]

/-- A configuration that is settled has the values that the hardware picked. -/
theorem exchanges_of_run_ok {requested config : StreamConfig} {t t' : Transcribed σ}
    (h : run requested t = (.ok config, t')) :
    config = { requested with
        rate := config.rate, bufferSize := config.bufferSize, periodSize := config.periodSize } ∧
      t'.exchanges = t.exchanges ++
        granted requested config.rate config.bufferSize config.periodSize := by
  obtain ⟨_, t₁, h₁, h⟩ := of_attempt_ok h
  obtain ⟨_, t₂, h₂, h⟩ := of_attempt_ok h
  obtain ⟨_, t₃, h₃, h⟩ := of_attempt_ok h
  obtain ⟨_, t₄, h₄, h⟩ := of_attempt_ok h
  obtain ⟨rate, t₅, h₅, h⟩ := of_attempt_ok h
  obtain ⟨bufferSize, t₆, h₆, h⟩ := of_attempt_ok h
  obtain ⟨periodSize, t₇, h₇, h⟩ := of_attempt_ok h
  obtain ⟨_, t₈, h₈, h⟩ := of_attempt_ok h
  cases h
  refine ⟨rfl, ?_⟩
  rw [exchanges_request h₈, exchanges_request h₇, exchanges_request h₆, exchanges_request h₅,
    exchanges_request h₄, exchanges_request h₃, exchanges_request h₂, exchanges_request h₁]
  simp only [List.append_assoc, List.singleton_append]
  rfl

/-! ## The first error -/

/-- How the transcript of a negotiation and its result belong together. -/
structure UpToFirstError (requested : StreamConfig) (exchanges : List Exchange)
    (result : Except NegotiationError StreamConfig) : Prop where
  /-- The requests made are those at the front of the plan, in its order. -/
  isPrefix : exchanges.map Exchange.request <+: plan requested
  /-- None is made twice. -/
  nodup : (exchanges.map Exchange.request).Nodup
  /-- A rejected request is the last one made; the result is the step in its place and its
  status. -/
  rejected (k : Nat) (q : Request) (status : Status)
    (hk : exchanges[k]? = some ⟨q, .error status⟩) :
    exchanges.length = k + 1 ∧
      ∃ step, Step.all[k]? = some step ∧ result = .error ⟨step, status⟩
  /-- If every request is granted then all of them are made, and the result has the format and the
  channels asked for and the values that the hardware picked. -/
  settled (hall : ∀ e ∈ exchanges, ∃ answer, e.outcome = .ok answer) :
    ∃ rate bufferSize periodSize, exchanges = granted requested rate bufferSize periodSize ∧
      result = .ok
        { rate, channels := requested.channels, format := requested.format, bufferSize, periodSize }

/-- The requests of a plan differ, since their steps do. -/
theorem plan_nodup (requested : StreamConfig) : (plan requested).Nodup := by
  have hsteps : ((plan requested).map Request.step).Nodup := by
    rw [plan_steps]
    decide
  exact List.Pairwise.of_map Request.step (fun _ _ hne heq => hne (congrArg Request.step heq)) hsteps

/-- On any hardware, a negotiation carries out its plan up to the first request that is rejected,
and ends with that rejection or with what the hardware picked. -/
theorem upToFirstError_run (requested : StreamConfig) (hw : σ) :
    ∃ exchanges result hw',
      run requested ({ hardware := hw } : Transcribed σ) = (result, ⟨hw', exchanges⟩) ∧
        run requested hw = (result, hw') ∧ UpToFirstError requested exchanges result := by
  rcases hrun : run requested ({ hardware := hw } : Transcribed σ) with ⟨result, hw', exchanges⟩
  have hbare := run_transcribed requested ({ hardware := hw } : Transcribed σ)
  obtain ⟨said, hexchanges, hsaid⟩ := said_run requested ({ hardware := hw } : Transcribed σ)
  rw [hrun] at hbare hexchanges hsaid
  have heq : exchanges = said := hexchanges
  subst heq
  have hfront : exchanges.map Exchange.request <+: plan requested := hsaid.isPrefix
  refine ⟨exchanges, result, hw', rfl, hbare, ?_⟩
  refine ⟨hfront, (plan_nodup requested).sublist hfront.sublist, ?_, ?_⟩
  · intro k q status hk
    obtain ⟨hlength, hresult⟩ := hsaid.of_rejected hk
    refine ⟨hlength, q.step, ?_, hresult⟩
    -- The request stands in the plan where it stands in the transcript.
    have hq : (plan requested)[k]? = some q := by
      obtain ⟨rest, hrest⟩ := hfront
      have hlt : k < (exchanges.map Exchange.request).length := by
        rw [List.length_map]
        omega
      rw [← hrest, List.getElem?_append_left hlt, List.getElem?_map, hk]
      rfl
    rw [← plan_steps requested, List.getElem?_map, hq]
    rfl
  · intro hall
    obtain ⟨config, hconfig⟩ := hsaid.of_granted hall
    have hresult : result = .ok config := hconfig
    rw [hresult] at hrun
    obtain ⟨hfields, hsettled⟩ := exchanges_of_run_ok hrun
    refine ⟨config.rate, config.bufferSize, config.periodSize, hsettled, ?_⟩
    rw [hresult, hfields]

end Negotiation

end PcmStream
