/-
  Requesting a negotiated configuration again.

  A negotiation settles on supported values, and a supported value is the nearest one to itself
  (`Nearest.self`).  So nothing stands in the way of requesting what was negotiated
  (`Negotiated.clear_again`), and what is settled then is the same (`Negotiated.again`).  The period
  is no exception, although it is looked for among those that fit into the buffer: the buffer stays,
  and the period did fit into it.

  A negotiation that succeeds leaves nothing behind but its configuration (`eq_of_run_ok`), so not
  only the answer but the whole device is the same, and with it the stream.
-/
import PcmStream.Proofs.SoftDevice.Negotiated
import PcmStream.Proofs.SoftDevice.LockStep
import PcmStream.Proofs.Stream.Standing

namespace PcmStream

open Supported (Nearest)

/-! ## What a device can be asked for again -/

namespace Capabilities.Negotiated

variable {k : Capabilities} {faults : Faults} {requested config : StreamConfig} {d : SoftDevice}

/-- No step is obstructed if a negotiated configuration is requested again. -/
theorem clear_again (h : k.Negotiated faults requested (.ok config, d)) (step : Step)
    (status : Status) : ¬ k.Obstructed faults config step status := by
  cases h with
  | settled clear hformat hchannels hrate hbufferSize hperiodSize hpositive hinstalled hcalls =>
    have hrate' := Nearest.self (p := fun x => k.rates.contains x = true) hrate.holds
    have hbufferSize' := Nearest.self (p := fun x => k.bufferSizes.contains x = true)
      hbufferSize.holds
    have hperiodSize' := Nearest.self
      (p := fun x => k.periodSizes.contains x = true ∧ x ≤ config.bufferSize) hperiodSize.holds
    intro hobstructed
    cases hobstructed with
    | fault hfault => exact clear step status (.fault hfault)
    | unsatisfiable hfault hno =>
      cases step with
      | access => exact clear .access _ (.unsatisfiable hfault hno)
      | format => exact hno hformat.2
      | channels =>
        rcases hno with hzero | hno
        · omega
        · rw [hchannels.2] at hno
          cases hno
      | resample => exact hno
      | rate =>
        -- The rate was not too large when it was settled first.
        refine clear .rate _ (.unsatisfiable hfault fun rate hnearest => ?_)
        rw [hnearest.unique hrate]
        exact hno config.rate hrate'
      | bufferSize =>
        have hsupported := hbufferSize.holds
        rw [hno] at hsupported
        cases hsupported
      | periodSize =>
        have hlarge := hno _ hbufferSize' _ hperiodSize.holds.1
        have hfits := hperiodSize.holds.2
        omega
      | install =>
        have hzero := hno _ _ _ hrate' hbufferSize' hperiodSize'
        omega

/-- A configuration that was negotiated is settled if it is requested again. -/
theorem again {o : Except NegotiationError StreamConfig × SoftDevice}
    (h : k.Negotiated faults requested (.ok config, d)) (h' : k.Negotiated faults config o) :
    o.1 = .ok config := by
  have hclear := h.clear_again
  cases h' with
  | rejected before after hall _ hobstructed => exact absurd hobstructed (hclear _ _)
  | @settled config' _ _ hformat' hchannels' hrate' hbufferSize' hperiodSize' =>
    cases h with
    | settled clear hformat hchannels hrate hbufferSize hperiodSize hpositive hinstalled hcalls =>
      have hrate_eq := hrate'.unique (.self hrate.holds)
      have hbufferSize_eq := hbufferSize'.unique (.self hbufferSize.holds)
      rw [hbufferSize_eq] at hperiodSize'
      have hperiodSize_eq := hperiodSize'.unique (.self hperiodSize.holds)
      refine congrArg Except.ok ?_
      cases config'
      cases config
      rw [StreamConfig.mk.injEq]
      exact ⟨hrate_eq, hchannels'.1, hformat'.1, hbufferSize_eq, hperiodSize_eq⟩

end Capabilities.Negotiated

/-! ## The device afterwards -/

namespace SoftDevice

variable {d d' : SoftDevice}

/-- The device with parameters settled and steps taken. -/
def taking (d : SoftDevice) (pending : Pending) (calls : List Step) : SoftDevice :=
  { d with pending, calls }

/-- The device after a negotiation that settled a configuration and installed it. -/
def settledOn (d : SoftDevice) (config : StreamConfig) : SoftDevice :=
  { d.taking (settledAs config) (d.calls ++ Step.all) with installed := some config }

/-- A request that is granted settles its answer and takes its step; an installation installs what
is settled besides. -/
theorem request_taking {pending : Pending} {calls : List Step} {q : Request} {answer : q.Answer}
    (h : Hardware.request q (d.taking pending calls) = (.ok answer, d')) :
    d' = { d.taking (pending.answered q answer) (calls ++ [q.step]) with
      installed := match q with
        | .install => pending.config?
        | _ => d.installed } := by
  rcases (d.taking pending calls).request_cases q with
    ⟨_, -, hq⟩ | ⟨-, ⟨_, -, hq⟩ | ⟨-, hq⟩⟩
  · rw [hq] at h
    cases h
  · rw [hq] at h
    cases h
    cases q <;> rfl
  · rw [hq] at h
    cases h

/-- A negotiation that begins with nothing settled leaves nothing but its configuration behind. -/
theorem eq_of_run_ok {requested config : StreamConfig} (hd : d.pending = {})
    (h : Negotiation.run requested d = (.ok config, d')) : d' = d.settledOn config := by
  have hinstalled := (installed_of_run h).2
  obtain ⟨_, d₁, h₁, h⟩ := Negotiation.of_attempt_ok h
  obtain ⟨_, d₂, h₂, h⟩ := Negotiation.of_attempt_ok h
  obtain ⟨_, d₃, h₃, h⟩ := Negotiation.of_attempt_ok h
  obtain ⟨_, d₄, h₄, h⟩ := Negotiation.of_attempt_ok h
  obtain ⟨rate, d₅, h₅, h⟩ := Negotiation.of_attempt_ok h
  obtain ⟨bufferSize, d₆, h₆, h⟩ := Negotiation.of_attempt_ok h
  obtain ⟨periodSize, d₇, h₇, h⟩ := Negotiation.of_attempt_ok h
  obtain ⟨_, d₈, h₈, h⟩ := Negotiation.of_attempt_ok h
  cases h
  have hfresh : d = d.taking {} d.calls := by rw [taking, ← hd]
  rw [hfresh] at h₁
  -- Each of the first seven requests leaves a device of the same form.
  obtain rfl : d₁ = d.taking _ _ := request_taking h₁
  obtain rfl : d₂ = d.taking _ _ := request_taking h₂
  obtain rfl : d₃ = d.taking _ _ := request_taking h₃
  obtain rfl : d₄ = d.taking _ _ := request_taking h₄
  obtain rfl : d₅ = d.taking _ _ := request_taking h₅
  obtain rfl : d₆ = d.taking _ _ := request_taking h₆
  obtain rfl : d₇ = d.taking _ _ := request_taking h₇
  have hlast := request_taking h₈
  rw [hlast] at hinstalled
  dsimp only at hinstalled
  rw [hlast, settledOn]
  dsimp only
  rw [hinstalled]
  simp only [taking, List.append_assoc]
  rfl

/-- A device that was not asked anything since it was acquired. -/
structure Unasked (d : SoftDevice) : Prop where
  /-- Nothing is settled. -/
  pending : d.pending = {}
  /-- Nothing is installed. -/
  installed : d.installed = none
  /-- No step was taken. -/
  calls : d.calls = []

theorem Unasked.setFaults (h : d.Unasked) (faults : Faults) : (d.setFaults faults).Unasked :=
  ⟨h.pending, h.installed, h.calls⟩

theorem unasked_of_acquire_ok {direction : Direction} {options : Options}
    (h : Device.perform (.acquire direction options) d = (.ok (), d')) : d'.Unasked := by
  rw [eq_of_acquire_ok h]
  exact ⟨rfl, rfl, rfl⟩

theorem Unasked.negotiated (h : d.Unasked) (requested : StreamConfig) :
    d.capabilities.Negotiated d.faults requested (Negotiation.run requested d) :=
  Reached.run ⟨rfl, rfl, h.pending, h.installed, h.calls, nofun⟩

/-- What one device settled on is settled on by any other that supports the same and has the same
faults. -/
theorem run_again {first settled : SoftDevice} {requested config : StreamConfig}
    (hfirst : first.Unasked) (hd : d.Unasked) (hcapabilities : d.capabilities = first.capabilities)
    (hfaults : d.faults = first.faults)
    (h : Negotiation.run requested first = (.ok config, settled)) :
    Negotiation.run config d = (.ok config, d.settledOn config) := by
  have hnegotiated := hfirst.negotiated requested
  have hagain := hd.negotiated config
  rw [h] at hnegotiated
  rw [hcapabilities, hfaults] at hagain
  have hresult := hnegotiated.again hagain
  have hdevice : (Negotiation.run config d).2 = d.settledOn config :=
    eq_of_run_ok hd.pending (Prod.ext hresult rfl)
  exact Prod.ext hresult hdevice

end SoftDevice

/-! ## Streams -/

/-- A stream that was configured could have been configured by requesting what it got. -/
theorem Stream.configure_again {s : Stream SoftDevice} {requested : StreamConfig}
    {handler : Handler} {options : Options} (hs : s.state = .created)
    (hconfigured : (s.configure requested handler options).stream.state = .configured) :
    s.configure (s.configure requested handler options).stream.config handler options =
      s.configure requested handler options := by
  have hconfig := (Turn.of_configure s requested handler options).config_eq
  rw [if_pos ⟨hs, hconfigured⟩] at hconfig
  obtain ⟨registered, hnegotiates⟩ := hconfig
  obtain ⟨config, hconfig⟩ : ∃ config, (s.configure requested handler options).stream.config =
    config := ⟨_, rfl⟩
  rw [hconfig] at hnegotiates ⊢
  cases hnegotiates with
  | @intro _ _ _ _ _ acquired settled device _ hh hacquire hsettle hregister =>
    obtain ⟨middle, hparameters, hrun⟩ := of_negotiate_ok hsettle
    obtain rfl := SoftDevice.eq_of_parameters hparameters
    have hunasked := SoftDevice.unasked_of_acquire_ok hacquire
    have hagain := SoftDevice.run_again hunasked hunasked rfl rfl hrun
    have hsettle' : negotiate config middle = (.ok config, settled) := by
      rw [negotiate, hparameters]
      simp only [hagain, SoftDevice.eq_of_run_ok hunasked.pending hrun]
    rw [configure_of_negotiate_ok hs hh hacquire hsettle hregister,
      configure_of_negotiate_ok hs hh hacquire hsettle' hregister]

/-- A negotiated configuration is a fixed point.  If it is requested from a device that was just
acquired, supports the same and has the same faults, it is negotiated again and installed; a device
in the same state gets to the same state.  A stream that was configured would be the same if it had
been configured with what it got. -/
theorem SoftDevice.negotiated_again {before before' acquired acquired' settled : SoftDevice}
    {direction direction' : Direction} {options options' : Options}
    {requested config : StreamConfig} (faults : Faults)
    (hacquire : Device.perform (.acquire direction options) before = (.ok (), acquired))
    (hacquire' : Device.perform (.acquire direction' options') before' = (.ok (), acquired'))
    (hcapabilities : before'.capabilities = before.capabilities)
    (hrun : Negotiation.run requested (acquired.setFaults faults) = (.ok config, settled)) :
    let again := Negotiation.run config (acquired'.setFaults faults)
    (again.1 = .ok config ∧ again.2.installed = some config ∧
      (acquired' = acquired → again.2 = settled)) ∧
    ∀ (s : Stream SoftDevice) requested handler options, s.state = .created →
      (s.configure requested handler options).stream.state = .configured →
        s.configure (s.configure requested handler options).stream.config handler options =
          s.configure requested handler options := by
  intro again
  have hunasked := (unasked_of_acquire_ok hacquire).setFaults faults
  have hunasked' := (unasked_of_acquire_ok hacquire').setFaults faults
  have hsame : (acquired'.setFaults faults).capabilities =
      (acquired.setFaults faults).capabilities := by
    rw [eq_of_acquire_ok hacquire, eq_of_acquire_ok hacquire']
    exact hcapabilities
  have hagain : again = (.ok config, (acquired'.setFaults faults).settledOn config) :=
    run_again hunasked hunasked' hsame rfl hrun
  rw [hagain]
  refine ⟨⟨rfl, rfl, ?_⟩, fun s requested handler options => Stream.configure_again⟩
  rintro rfl
  exact (eq_of_run_ok hunasked.pending hrun).symm

namespace SoftDevice

/-- A device with two rates and few sizes. -/
def twoRates : SoftDevice where
  capabilities :=
    { rates := .only [64000, 32000]
      bufferSizes := .only [96, 2048]
      periodSizes := .only [64, 4096] }

/-- A rate of 48000 is as far from one as from the other, so the smaller one is settled, and the
period has to fit into a buffer of 96 frames.  Requesting what was settled gives the same, also if
an earlier owner has left a larger buffer behind. -/
theorem negotiated_again_twoRates :
    let config : StreamConfig := { rate := 32000, bufferSize := 96, periodSize := 64 }
    let acquired := (twoRates.perform (.acquire .output {})).2
    let used := { twoRates with pending := settledAs {}, installed := some {}, calls := Step.all }
    let acquired' := (used.perform (.acquire .input {})).2
    (Negotiation.run { rate := 48000, periodSize := 2100 } (acquired.setFaults {})).1 =
      .ok config ∧
    (Negotiation.run config (acquired'.setFaults {})).1 = .ok config ∧
      (Negotiation.run config (acquired'.setFaults {})).2.installed = some config := by
  intro config acquired used acquired'
  have hacquire : Device.perform (.acquire .output {}) twoRates = (.ok (), acquired) := rfl
  have hacquire' : Device.perform (.acquire .input {}) used = (.ok (), acquired') := rfl
  have hrun : Negotiation.run { rate := 48000, periodSize := 2100 } (acquired.setFaults {}) =
      (.ok config, acquired.settledOn config) := rfl
  obtain ⟨⟨hresult, hinstalled, -⟩, -⟩ := negotiated_again {} hacquire hacquire' rfl hrun
  exact ⟨rfl, hresult, hinstalled⟩

end SoftDevice

end PcmStream
