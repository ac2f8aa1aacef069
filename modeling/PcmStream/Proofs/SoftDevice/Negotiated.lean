/-
  Negotiations with a software device, compared to what it supports.

  `Unsatisfiable` says, without a device, when nothing that is supported satisfies the request of a
  step.  The later steps depend on the earlier ones: a period has to fit into the buffer that is
  nearest to the one asked for, and an installation needs values that are not zero.  A step is
  `Obstructed` if a fault is injected into it, or if it is unsatisfiable; the fault comes first.

  `negotiated_of_acquired` says that a negotiation with a device that was just acquired is decided by
  that alone (`Negotiated`).  If no step is obstructed, the nearest supported values are settled and
  installed; otherwise the first obstructed step is the last one taken, and nothing is installed.

  The proof follows the requests.  `Capabilities.Grants` says what may be answered to a request, given
  the parameters settled before it, and is the whole of what the device decides by (`settle_eq`).
  `Reached` is what holds after some steps, and `Reached.attempt` is one more of them.
-/
import PcmStream.Proofs.SoftDevice.Nearest
import PcmStream.Proofs.SoftDevice.Settling

namespace PcmStream

open Supported (Nearest)

/-! ## What a device can be asked for -/

namespace Capabilities

/-- Whether nothing that is supported satisfies the request of a step. -/
def Unsatisfiable (k : Capabilities) (requested : StreamConfig) : Step → Prop
  | .access => k.interleaved = false
  | .format => requested.format ∉ k.formats
  | .channels => requested.channels = 0 ∨ k.channels.contains requested.channels = false
  | .resample => False
  | .rate =>
    ∀ rate, Nearest (fun x => k.rates.contains x = true) requested.rate rate →
      SoftDevice.maxRate < rate
  | .bufferSize => ∀ frames, k.bufferSizes.contains frames = false
  | .periodSize =>
    ∀ bufferSize,
      Nearest (fun x => k.bufferSizes.contains x = true) requested.bufferSize bufferSize →
        ∀ frames, k.periodSizes.contains frames = true → bufferSize < frames
  | .install =>
    ∀ rate bufferSize periodSize,
      Nearest (fun x => k.rates.contains x = true) requested.rate rate →
        Nearest (fun x => k.bufferSizes.contains x = true) requested.bufferSize bufferSize →
          Nearest (fun x => k.periodSizes.contains x = true ∧ x ≤ bufferSize)
            requested.periodSize periodSize →
            rate = 0 ∨ bufferSize = 0 ∨ periodSize = 0

/-- What stands in the way of a step, and the status it is rejected with. -/
inductive Obstructed (k : Capabilities) (faults : Faults) (requested : StreamConfig) :
    Step → Status → Prop
  /-- A fault is injected into the step. -/
  | fault {step : Step} {status : Status} (h : faults.atStep step = some status) :
      k.Obstructed faults requested step status
  /-- Nothing that is supported will do. -/
  | unsatisfiable {step : Step} (hfault : faults.atStep step = none)
      (h : k.Unsatisfiable requested step) : k.Obstructed faults requested step .invalid

/-- How a negotiation ends with a device of given capabilities and faults, and how it leaves it. -/
inductive Negotiated (k : Capabilities) (faults : Faults) (requested : StreamConfig) :
    Except NegotiationError StreamConfig × SoftDevice → Prop
  /-- No step is obstructed. -/
  | settled {config : StreamConfig} {d : SoftDevice}
      (clear : ∀ step status, ¬ k.Obstructed faults requested step status)
      (hformat : config.format = requested.format ∧ config.format ∈ k.formats)
      (hchannels : config.channels = requested.channels ∧
        k.channels.contains config.channels = true)
      (hrate : Nearest (fun x => k.rates.contains x = true) requested.rate config.rate)
      (hbufferSize : Nearest (fun x => k.bufferSizes.contains x = true) requested.bufferSize
        config.bufferSize)
      (hperiodSize : Nearest (fun x => k.periodSizes.contains x = true ∧ x ≤ config.bufferSize)
        requested.periodSize config.periodSize)
      (hpositive : 0 < config.rate ∧ 0 < config.channels ∧ 0 < config.bufferSize ∧
        0 < config.periodSize)
      (hinstalled : d.installed = some config) (hcalls : d.calls = Step.all) :
      k.Negotiated faults requested (.ok config, d)
  /-- A step is obstructed, and those before it are not. -/
  | rejected {e : NegotiationError} {d : SoftDevice} (before after : List Step)
      (hall : Step.all = before ++ e.step :: after)
      (clear : ∀ step ∈ before, ∀ status, ¬ k.Obstructed faults requested step status)
      (obstructed : k.Obstructed faults requested e.step e.status)
      (hinstalled : d.installed = none) (hcalls : d.calls = before ++ [e.step]) :
      k.Negotiated faults requested (.error e, d)

end Capabilities

/-! ## One request -/

/-- Whether a device of these capabilities may answer a request so, after the given parameters were
settled. -/
def Capabilities.Grants (k : Capabilities) (p : Pending) : (q : Request) → q.Answer → Prop
  | .setAccess access, _ => access = .interleaved → k.interleaved = true
  | .setFormat format, _ => format ∈ k.formats
  | .setChannels channels, _ => channels ≠ 0 ∧ k.channels.contains channels = true
  | .setResample _, _ => True
  | .setRateNear rate, picked =>
    Nearest (fun x => k.rates.contains x = true) rate picked ∧ picked ≤ SoftDevice.maxRate
  | .setBufferSizeNear frames, picked =>
    Nearest (fun x => k.bufferSizes.contains x = true) frames picked
  | .setPeriodSizeNear frames, picked =>
    Nearest (fun x => k.periodSizes.contains x = true ∧ ∀ n ∈ p.bufferSize, x ≤ n) frames picked
  | .install, _ => ∃ config, p.config? = some config

namespace SoftDevice

variable {d : SoftDevice}

/-- A period size is picked among those that fit into a buffer size that is settled. -/
theorem pickPeriod_eq_some {frames picked : Nat} :
    d.pickPeriod frames = some picked ↔
      Nearest (fun x => d.capabilities.periodSizes.contains x = true ∧
        ∀ n ∈ d.pending.bufferSize, x ≤ n) frames picked := by
  rw [pickPeriod]
  cases d.pending.bufferSize with
  | none => simp [Supported.nearest_eq_some]
  | some n => simp [Supported.nearestAtMost_eq_some]

/-- The device after it granted a request: the answer is among the settled parameters, and an
installation installs them. -/
def granted (d : SoftDevice) (q : Request) (answer : q.Answer) : SoftDevice :=
  { d with
    pending := d.pending.answered q answer
    installed := match q with
      | .install => d.pending.config?
      | _ => d.installed }

/-- A request is granted with an answer that may be given to it, and rejected as invalid, without a
trace, if there is none. -/
theorem settle_cases (d : SoftDevice) (q : Request) :
    (∃ answer, d.capabilities.Grants d.pending q answer ∧
      d.settle q = (.ok answer, d.granted q answer)) ∨
    (∀ answer, ¬ d.capabilities.Grants d.pending q answer) ∧ d.settle q = (.error .invalid, d) := by
  cases q with
  | setAccess access =>
    rw [settle]
    by_cases h : access = .interleaved ∧ ¬ d.capabilities.interleaved
    · rw [if_pos h]
      exact .inr ⟨fun _ hgrants => h.2 (hgrants h.1), rfl⟩
    · rw [if_neg h]
      refine .inl ⟨_, fun haccess => ?_, rfl⟩
      exact Decidable.byContradiction fun hno => h ⟨haccess, hno⟩
  | setFormat format =>
    rw [settle]
    by_cases h : d.capabilities.formats.contains format = true
    · rw [if_pos h]
      exact .inl ⟨_, List.contains_iff_mem.mp h, rfl⟩
    · rw [if_neg h]
      exact .inr ⟨fun _ hgrants => h (List.contains_iff_mem.mpr hgrants), rfl⟩
  | setChannels channels =>
    rw [settle]
    by_cases h : channels ≠ 0 ∧ d.capabilities.channels.contains channels
    · rw [if_pos h]
      exact .inl ⟨_, h, rfl⟩
    · rw [if_neg h]
      exact .inr ⟨fun _ hgrants => h hgrants, rfl⟩
  | setResample resample => exact .inl ⟨(), trivial, rfl⟩
  | setRateNear rate =>
    rw [settle]
    cases hn : d.capabilities.rates.nearest rate with
    | none =>
      refine .inr ⟨fun picked hgrants => ?_, rfl⟩
      rw [Supported.nearest_eq_some.mpr hgrants.1] at hn
      cases hn
    | some picked =>
      have hnearest := Supported.nearest_eq_some.mp hn
      dsimp only
      by_cases h : picked ≤ maxRate
      · rw [if_pos h]
        exact .inl ⟨_, ⟨hnearest, h⟩, rfl⟩
      · rw [if_neg h]
        refine .inr ⟨fun other hgrants => h ?_, rfl⟩
        rw [hnearest.unique hgrants.1]
        exact hgrants.2
  | setBufferSizeNear frames =>
    rw [settle]
    cases hn : d.capabilities.bufferSizes.nearest frames with
    | none =>
      refine .inr ⟨fun picked hgrants => ?_, rfl⟩
      rw [Supported.nearest_eq_some.mpr hgrants] at hn
      cases hn
    | some picked => exact .inl ⟨_, Supported.nearest_eq_some.mp hn, rfl⟩
  | setPeriodSizeNear frames =>
    rw [settle]
    cases hn : d.pickPeriod frames with
    | none =>
      refine .inr ⟨fun picked hgrants => ?_, rfl⟩
      rw [pickPeriod_eq_some.mpr hgrants] at hn
      cases hn
    | some picked => exact .inl ⟨_, pickPeriod_eq_some.mp hn, rfl⟩
  | install =>
    rw [settle]
    cases hc : d.pending.config? with
    | none =>
      refine .inr ⟨fun _ hgrants => ?_, rfl⟩
      obtain ⟨config, hconfig⟩ := hgrants
      rw [hc] at hconfig
      cases hconfig
    | some config =>
      refine .inl ⟨(), ⟨config, hc⟩, ?_⟩
      rw [granted, hc]
      rfl

/-- The device with a call noted. -/
def noting (d : SoftDevice) (step : Step) : SoftDevice := { d with calls := d.calls ++ [step] }

/-- The same for a request: its step is noted, and a fault in it comes before anything else. -/
theorem request_cases (d : SoftDevice) (q : Request) :
    (∃ status, d.faults.atStep q.step = some status ∧
      Hardware.request q d = (.error status, d.noting q.step)) ∨
    d.faults.atStep q.step = none ∧
      ((∃ answer, d.capabilities.Grants d.pending q answer ∧
          Hardware.request q d = (.ok answer, (d.noting q.step).granted q answer)) ∨
        (∀ answer, ¬ d.capabilities.Grants d.pending q answer) ∧
          Hardware.request q d = (.error .invalid, d.noting q.step)) := by
  have hrequest : Hardware.request q d = d.request q := rfl
  rw [hrequest, request]
  cases hfault : d.faults.atStep q.step with
  | some status => exact .inl ⟨status, rfl, rfl⟩
  | none => exact .inr ⟨rfl, (d.noting q.step).settle_cases q⟩

/-! ## One step of a negotiation -/

/-- A device after some steps of a negotiation, none of which was obstructed. -/
structure Reached (k : Capabilities) (faults : Faults) (requested : StreamConfig)
    (steps : List Step) (pending : Pending) (installed : Option StreamConfig) (d : SoftDevice) :
    Prop where
  /-- What it supports. -/
  capabilities_eq : d.capabilities = k
  /-- The injected faults. -/
  faults_eq : d.faults = faults
  /-- The parameters settled so far. -/
  pending_eq : d.pending = pending
  /-- What is installed. -/
  installed_eq : d.installed = installed
  /-- The steps taken. -/
  calls_eq : d.calls = steps
  /-- None of them is obstructed. -/
  clear (step : Step) (hstep : step ∈ steps) (status : Status) :
    ¬ k.Obstructed faults requested step status

variable {k : Capabilities} {faults : Faults} {requested : StreamConfig} {steps rest : List Step}
  {pending : Pending} {q : Request}
  {next : q.Answer → SoftDevice → Except NegotiationError StreamConfig × SoftDevice}

/-- One more step: it is obstructed and rejected, or it is granted and the negotiation goes on. -/
theorem Reached.attempt (h : Reached k faults requested steps pending none d)
    (hall : Step.all = steps ++ q.step :: rest)
    (hunsat : k.Unsatisfiable requested q.step ↔ ∀ answer, ¬ k.Grants pending q answer)
    (hnext : ∀ answer d', k.Grants pending q answer →
      Reached k faults requested (steps ++ [q.step]) (pending.answered q answer)
        (match q with
          | .install => pending.config?
          | _ => none) d' → k.Negotiated faults requested (next answer d')) :
    k.Negotiated faults requested (Negotiation.attempt q d next) := by
  obtain ⟨rfl, rfl, rfl, hinstalled, rfl, hclear⟩ := h
  rw [Negotiation.attempt]
  rcases d.request_cases q with
    ⟨status, hfault, hrequest⟩ | ⟨hfault, ⟨answer, hgrants, hrequest⟩ | ⟨hno, hrequest⟩⟩
  · rw [hrequest]
    exact .rejected d.calls rest hall hclear (.fault hfault) hinstalled rfl
  · rw [hrequest]
    refine hnext answer _ hgrants ⟨rfl, rfl, rfl, ?_, rfl, ?_⟩
    · cases q <;> first | rfl | exact hinstalled
    · intro step hstep status hobstructed
      rcases List.mem_append.mp hstep with hstep | hstep
      · exact hclear step hstep status hobstructed
      · obtain rfl := List.mem_singleton.mp hstep
        cases hobstructed with
        | fault hf =>
          rw [hfault] at hf
          cases hf
        | unsatisfiable _ hu => exact hunsat.mp hu answer hgrants
  · rw [hrequest]
    exact .rejected d.calls rest hall hclear (.unsatisfiable hfault (hunsat.mpr hno)) hinstalled
      rfl

/-! ## The whole negotiation -/

/-- The parameters settled when all but the installation is done. -/
def settledAs (config : StreamConfig) : Pending where
  access := some .interleaved
  format := some config.format
  channels := some config.channels
  rate := some config.rate
  bufferSize := some config.bufferSize
  periodSize := some config.periodSize

theorem config?_settledAs (config : StreamConfig) :
    (settledAs config).config? =
      if 0 < config.rate ∧ 0 < config.bufferSize ∧ 0 < config.periodSize then some config
      else none := rfl

/-- The installation is the only step that is left. -/
theorem Reached.install (config : StreamConfig)
    (h : Reached k faults requested
      [.access, .format, .channels, .resample, .rate, .bufferSize, .periodSize] (settledAs config)
      none d)
    (hformat : config.format = requested.format ∧ config.format ∈ k.formats)
    (hchannels : config.channels = requested.channels ∧ config.channels ≠ 0 ∧
      k.channels.contains config.channels = true)
    (hrate : Nearest (fun x => k.rates.contains x = true) requested.rate config.rate)
    (hbufferSize : Nearest (fun x => k.bufferSizes.contains x = true) requested.bufferSize
      config.bufferSize)
    (hperiodSize : Nearest (fun x => k.periodSizes.contains x = true ∧ x ≤ config.bufferSize)
      requested.periodSize config.periodSize) :
    k.Negotiated faults requested
      (Negotiation.attempt .install d fun _ d => (.ok config, d)) := by
  have hunsat : k.Unsatisfiable requested .install ↔
      ∀ answer, ¬ k.Grants (settledAs config) .install answer := by
    constructor
    · rintro hzero - ⟨installed, hinstalled⟩
      rw [config?_settledAs] at hinstalled
      split at hinstalled
      · have := hzero _ _ _ hrate hbufferSize hperiodSize
        omega
      · cases hinstalled
    · intro hno rate bufferSize periodSize hr hb hp
      obtain rfl := hr.unique hrate
      obtain rfl := hb.unique hbufferSize
      obtain rfl := hp.unique hperiodSize
      refine Decidable.byContradiction fun hpos => hno () ⟨config, ?_⟩
      rw [config?_settledAs, if_pos (by omega)]
  refine h.attempt rfl hunsat fun _ d' hgrants h' => ?_
  obtain ⟨installed, hinstalled⟩ := hgrants
  have hconfig := hinstalled
  rw [config?_settledAs] at hconfig
  split at hconfig
  · next hpos =>
    cases hconfig
    refine .settled (fun step status => ?_) hformat ⟨hchannels.1, hchannels.2.2⟩ hrate hbufferSize
      hperiodSize ⟨hpos.1, Nat.pos_of_ne_zero hchannels.2.1, hpos.2⟩
      (h'.installed_eq.trans hinstalled) h'.calls_eq
    exact h'.clear step (by cases step <;> decide) status
  · cases hconfig

/-- A negotiation from the beginning. -/
theorem Reached.run (h : Reached k faults requested [] {} none d) :
    k.Negotiated faults requested (Negotiation.run requested d) := by
  refine h.attempt rfl ?_ fun _ d₁ _ h₁ => ?_
  · simp [Request.step, Capabilities.Unsatisfiable, Capabilities.Grants]
  refine h₁.attempt rfl ?_ fun _ d₂ hformat h₂ => ?_
  · simp [Request.step, Capabilities.Unsatisfiable, Capabilities.Grants]
  refine h₂.attempt rfl ?_ fun _ d₃ hchannels h₃ => ?_
  · simp [Request.step, Capabilities.Unsatisfiable, Capabilities.Grants,
      Decidable.or_iff_not_imp_left]
  refine h₃.attempt rfl ?_ fun _ d₄ _ h₄ => ?_
  · simp [Request.step, Capabilities.Unsatisfiable, Capabilities.Grants]
  refine h₄.attempt rfl ?_ fun rate d₅ hrate h₅ => ?_
  · simp [Request.step, Capabilities.Unsatisfiable, Capabilities.Grants]
  refine h₅.attempt rfl Supported.forall_not_nearest_iff.symm fun bufferSize d₆ hbufferSize h₆ => ?_
  have hfits (periodSize : Nat) :
      k.Grants { bufferSize := some bufferSize } (.setPeriodSizeNear requested.periodSize)
        periodSize ↔
      Nearest (fun x => k.periodSizes.contains x = true ∧ x ≤ bufferSize) requested.periodSize
        periodSize := by
    simp [Capabilities.Grants]
  refine h₆.attempt rfl ?_ fun periodSize d₇ hperiodSize h₇ => ?_
  · constructor
    · intro hno answer hanswer
      have hnearest := (hfits answer).mp hanswer
      exact Supported.forall_not_nearestAtMost_iff.mpr (hno bufferSize hbufferSize) answer hnearest
    · intro hno n hn
      obtain rfl := hn.unique hbufferSize
      refine Supported.forall_not_nearestAtMost_iff.mp fun c hc => hno c ((hfits c).mpr hc)
  exact Reached.install { requested with rate, bufferSize, periodSize } h₇ ⟨rfl, hformat⟩
    ⟨rfl, hchannels⟩ hrate.1 hbufferSize ((hfits periodSize).mp hperiodSize)

/-- A negotiation with a device that was acquired and not asked anything since, whatever faults are
injected by then: it settles and installs the nearest supported values, or ends at the first step
that is obstructed. -/
theorem negotiated_of_acquired {before acquired : SoftDevice} (direction : Direction)
    (options : Options)
    (h : Device.perform (.acquire direction options) before = (.ok (), acquired))
    (faults : Faults) (requested : StreamConfig) :
    before.capabilities.Negotiated faults requested
      (Negotiation.run requested (acquired.setFaults faults)) := by
  have hperform : before.perform (.acquire direction options) = (.ok (), acquired) := h
  rw [perform] at hperform
  split at hperform
  · cases hperform
  · cases hperform
    exact Reached.run ⟨rfl, rfl, rfl, rfl, rfl, nofun⟩

/-- A device that supports few sizes, with a configuration that an earlier owner has left. -/
def fewSizes : SoftDevice where
  capabilities := { bufferSizes := .only [96, 2048], periodSizes := .only [64, 4096] }
  pending := settledAs {}
  installed := some {}
  calls := Step.all

/-- Of its buffers the one of 96 frames is nearer to 1024, by 928 to 1024.  A period of 4096 frames
does not fit into it, so that the one of 64 frames is settled, though it is farther from 2100. -/
theorem negotiated_of_acquired_fewSizes :
    let acquired := (fewSizes.perform (.acquire .output {})).2
    Device.perform (.acquire .output {}) fewSizes = (.ok (), acquired) ∧
      fewSizes.capabilities.Negotiated {} { periodSize := 2100 }
        (Negotiation.run { periodSize := 2100 } (acquired.setFaults {})) ∧
      (Negotiation.run { periodSize := 2100 } (acquired.setFaults {})).2.installed =
        some { bufferSize := 96, periodSize := 64 } :=
  ⟨rfl, negotiated_of_acquired .output {} rfl {} { periodSize := 2100 }, by rfl⟩

end SoftDevice

end PcmStream
