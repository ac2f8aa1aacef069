/-
  Settling a configuration on a software device.

  Requests work on the parameters that are settled so far, and on nothing else that anybody relies
  on: who owns the device, whether it runs and which callback it has are left alone (`SameOwner`).
  `Pending.answered` is what a granted request makes of the settled parameters, and `settle_ok` says
  that nothing else happens to them.

  From there a whole negotiation is followed by its eight answers.  If all are granted, the
  parameters that the last of them installs are the requested format and channels and the answers to
  the three `near` requests, which is the configuration that the negotiation reports
  (`installed_of_run`).
-/
import PcmStream.SoftDevice.Basic
import PcmStream.Device.Negotiation

namespace PcmStream

/-! ## Negotiations that succeed -/

/-- A request in a negotiation that succeeds was granted, and what follows succeeds. -/
theorem Negotiation.of_attempt_ok {σ α : Type} [Hardware σ] {q : Request} {hw hw' : σ} {a : α}
    {next : q.Answer → σ → Except NegotiationError α × σ}
    (h : attempt q hw next = (.ok a, hw')) :
    ∃ answer middle, Hardware.request q hw = (.ok answer, middle) ∧
      next answer middle = (.ok a, hw') := by
  rw [attempt] at h
  rcases hq : Hardware.request q hw with ⟨status | answer, middle⟩
  · rw [hq] at h
    cases h
  · rw [hq] at h
    exact ⟨answer, middle, rfl, h⟩

/-! ## The settled parameters -/

/-- The settled parameters after a request was granted with an answer. -/
def Pending.answered (p : Pending) : (q : Request) → q.Answer → Pending
  | .setAccess access, _ => { p with access := some access }
  | .setFormat format, _ => { p with format := some format }
  | .setChannels channels, _ => { p with channels := some channels }
  | .setResample _, _ => p
  | .setRateNear _, picked => { p with rate := some picked }
  | .setBufferSizeNear _, picked => { p with bufferSize := some picked }
  | .setPeriodSizeNear _, picked => { p with periodSize := some picked }
  | .install, _ => p

/-- A configuration made of settled parameters has them all. -/
theorem Pending.eq_of_config? {p : Pending} {config : StreamConfig} (h : p.config? = some config) :
    p.format = some config.format ∧ p.channels = some config.channels ∧
      p.rate = some config.rate ∧ p.bufferSize = some config.bufferSize ∧
      p.periodSize = some config.periodSize := by
  obtain ⟨access, format, channels, rate, bufferSize, periodSize⟩ := p
  cases format with
  | none => cases h
  | some format =>
    cases channels with
    | none => cases h
    | some channels =>
      cases rate with
      | none => cases h
      | some rate =>
        cases bufferSize with
        | none => cases h
        | some bufferSize =>
          cases periodSize with
          | none => cases h
          | some periodSize =>
            simp only [config?] at h
            split at h
            · cases h
              exact ⟨rfl, rfl, rfl, rfl, rfl⟩
            · cases h

namespace SoftDevice

/-- A device with the same owner, doing the same for him. -/
structure SameOwner (d d' : SoftDevice) : Prop where
  /-- It is held or not. -/
  acquired_eq : d'.acquired = d.acquired
  /-- It runs or not. -/
  running_eq : d'.running = d.running
  /-- It has the same callback. -/
  callback_eq : d'.callback = d.callback

namespace SameOwner

variable {d d' d'' : SoftDevice}

theorem refl (d : SoftDevice) : d.SameOwner d := ⟨rfl, rfl, rfl⟩

theorem trans (h : d.SameOwner d') (h' : d'.SameOwner d'') : d.SameOwner d'' where
  acquired_eq := h'.acquired_eq.trans h.acquired_eq
  running_eq := h'.running_eq.trans h.running_eq
  callback_eq := h'.callback_eq.trans h.callback_eq

end SameOwner

variable {d d' : SoftDevice} {q : Request}

/-- A parameter that can be settled is noted among the settled ones; an installation makes them the
installed configuration. -/
theorem settle_ok {answer : q.Answer} (h : d.settle q = (.ok answer, d')) :
    d.SameOwner d' ∧ d'.pending = d.pending.answered q answer ∧
      (q = .install → ∃ config, d.pending.config? = some config ∧ d'.installed = some config) := by
  cases q with
  | setAccess access =>
    rw [settle] at h
    split at h
    · cases h
    · cases h
      exact ⟨⟨rfl, rfl, rfl⟩, rfl, nofun⟩
  | setFormat format =>
    rw [settle] at h
    split at h
    · cases h
      exact ⟨⟨rfl, rfl, rfl⟩, rfl, nofun⟩
    · cases h
  | setChannels channels =>
    rw [settle] at h
    split at h
    · cases h
      exact ⟨⟨rfl, rfl, rfl⟩, rfl, nofun⟩
    · cases h
  | setResample resample =>
    cases h
    exact ⟨.refl d, rfl, nofun⟩
  | setRateNear rate =>
    rw [settle] at h
    split at h
    · split at h
      · cases h
        exact ⟨⟨rfl, rfl, rfl⟩, rfl, nofun⟩
      · cases h
    · cases h
  | setBufferSizeNear frames =>
    rw [settle] at h
    split at h
    · cases h
      exact ⟨⟨rfl, rfl, rfl⟩, rfl, nofun⟩
    · cases h
  | setPeriodSizeNear frames =>
    rw [settle] at h
    split at h
    · cases h
      exact ⟨⟨rfl, rfl, rfl⟩, rfl, nofun⟩
    · cases h
  | install =>
    rw [settle] at h
    split at h
    · next config hconfig =>
      cases h
      exact ⟨⟨rfl, rfl, rfl⟩, rfl, fun _ => ⟨config, hconfig, rfl⟩⟩
    · cases h

/-- The same for a request. -/
theorem request_ok {answer : q.Answer} (h : Hardware.request q d = (.ok answer, d')) :
    d.SameOwner d' ∧ d'.pending = d.pending.answered q answer ∧
      (q = .install → ∃ config, d.pending.config? = some config ∧ d'.installed = some config) := by
  have hrequest : d.request q = (.ok answer, d') := h
  rw [request] at hrequest
  split at hrequest
  · cases hrequest
  · obtain ⟨howner, hpending, hinstalled⟩ := settle_ok hrequest
    exact ⟨⟨howner.acquired_eq, howner.running_eq, howner.callback_eq⟩, hpending, hinstalled⟩

/-- A negotiation that succeeds installs the configuration that it reports, and leaves the owner of
the device alone. -/
theorem installed_of_run {requested config : StreamConfig}
    (h : Negotiation.run requested d = (.ok config, d')) :
    d.SameOwner d' ∧ d'.installed = some config := by
  obtain ⟨_, d₁, h₁, h⟩ := Negotiation.of_attempt_ok h
  obtain ⟨_, d₂, h₂, h⟩ := Negotiation.of_attempt_ok h
  obtain ⟨_, d₃, h₃, h⟩ := Negotiation.of_attempt_ok h
  obtain ⟨_, d₄, h₄, h⟩ := Negotiation.of_attempt_ok h
  obtain ⟨rate, d₅, h₅, h⟩ := Negotiation.of_attempt_ok h
  obtain ⟨bufferSize, d₆, h₆, h⟩ := Negotiation.of_attempt_ok h
  obtain ⟨periodSize, d₇, h₇, h⟩ := Negotiation.of_attempt_ok h
  obtain ⟨_, d₈, h₈, h⟩ := Negotiation.of_attempt_ok h
  cases h
  obtain ⟨o₁, p₁, -⟩ := request_ok h₁
  obtain ⟨o₂, p₂, -⟩ := request_ok h₂
  obtain ⟨o₃, p₃, -⟩ := request_ok h₃
  obtain ⟨o₄, p₄, -⟩ := request_ok h₄
  obtain ⟨o₅, p₅, -⟩ := request_ok h₅
  obtain ⟨o₆, p₆, -⟩ := request_ok h₆
  obtain ⟨o₇, p₇, -⟩ := request_ok h₇
  obtain ⟨o₈, -, hinstall⟩ := request_ok h₈
  refine ⟨o₁.trans (o₂.trans (o₃.trans (o₄.trans (o₅.trans (o₆.trans (o₇.trans o₈)))))), ?_⟩
  obtain ⟨installed, hconfig, hinstalled⟩ := hinstall rfl
  obtain ⟨hformat, hchannels, hrate, hbufferSize, hperiodSize⟩ := Pending.eq_of_config? hconfig
  -- Reading back the parameters of the installed configuration, through the seven answers.
  simp only [p₇, p₆, p₅, p₄, p₃, p₂, Pending.answered, Option.some.injEq] at hformat hchannels
  simp only [p₇, p₆, p₅, Pending.answered, Option.some.injEq] at hrate hbufferSize hperiodSize
  rw [hinstalled, hformat, hchannels, hrate, hbufferSize, hperiodSize]

end SoftDevice

end PcmStream
