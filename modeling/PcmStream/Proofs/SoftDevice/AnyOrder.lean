/-
  Requests to a software device in any order.

  A negotiation asks for each parameter once and in a fixed order, but nothing keeps others from asking
  in another order, several times, or for one parameter only.  `askAll` makes any requests one after
  the other, and `Valid` is what holds of the device and the transcript then:

  * every settled parameter is supported (`Capabilities.Admits`), since a request is granted with a
    supported value or refused without a trace (`ask_cases`);
  * what is installed is supported and nowhere zero (`Capabilities.Offers`), since it is made of
    settled parameters;
  * the period fits into the buffer if it was settled after the buffer was (`sizedLast`).

  More cannot be said of the period.  It is picked among those that fit into the buffer that is settled
  by then, and nobody looks at it again when another buffer is settled.  So the period that is installed
  may be larger than the buffer (`installed_period_beyond_buffer`).
-/
import PcmStream.Proofs.Device.Transcript
import PcmStream.Proofs.SoftDevice.Negotiated

namespace PcmStream

/-! ## What is supported -/

/-- Neither the rate nor a size of a configuration made of settled parameters is zero. -/
theorem Pending.pos_of_config? {p : Pending} {config : StreamConfig} (h : p.config? = some config) :
    0 < config.rate ∧ 0 < config.bufferSize ∧ 0 < config.periodSize := by
  obtain ⟨hformat, hchannels, hrate, hbufferSize, hperiodSize⟩ := eq_of_config? h
  rw [config?, hformat, hchannels, hrate, hbufferSize, hperiodSize] at h
  dsimp only at h
  split at h
  · next hpos => exact hpos
  · cases h

namespace Capabilities

/-- Whether every settled parameter is supported. -/
structure Admits (k : Capabilities) (p : Pending) : Prop where
  /-- The format. -/
  format (format : SampleFormat) (h : p.format = some format) : format ∈ k.formats
  /-- The channels, of which there are some. -/
  channels (n : Nat) (h : p.channels = some n) : n ≠ 0 ∧ k.channels.contains n = true
  /-- The rate. -/
  rate (n : Nat) (h : p.rate = some n) : k.rates.contains n = true
  /-- The buffer size. -/
  bufferSize (n : Nat) (h : p.bufferSize = some n) : k.bufferSizes.contains n = true
  /-- The period size. -/
  periodSize (n : Nat) (h : p.periodSize = some n) : k.periodSizes.contains n = true

/-- Whether a configuration is supported and has no zero in it. -/
structure Offers (k : Capabilities) (config : StreamConfig) : Prop where
  /-- The format is supported. -/
  format : config.format ∈ k.formats
  /-- So are the channels. -/
  channels : k.channels.contains config.channels = true
  /-- So is the rate. -/
  rate : k.rates.contains config.rate = true
  /-- So is the buffer size. -/
  bufferSize : k.bufferSizes.contains config.bufferSize = true
  /-- So is the period size. -/
  periodSize : k.periodSizes.contains config.periodSize = true
  /-- None of the numbers is zero. -/
  positive : 0 < config.channels ∧ 0 < config.rate ∧ 0 < config.bufferSize ∧ 0 < config.periodSize

variable {k : Capabilities} {p : Pending}

/-- Where nothing is settled, nothing is unsupported. -/
theorem Admits.of_unsettled (k : Capabilities) : k.Admits {} where
  format _ h := by cases h
  channels _ h := by cases h
  rate _ h := by cases h
  bufferSize _ h := by cases h
  periodSize _ h := by cases h

/-- What is granted is supported. -/
theorem Admits.answered {q : Request} {answer : q.Answer} (h : k.Admits p)
    (hgrants : k.Grants p q answer) : k.Admits (p.answered q answer) := by
  cases q with
  | setAccess access => exact ⟨h.format, h.channels, h.rate, h.bufferSize, h.periodSize⟩
  | setFormat format =>
    refine ⟨?_, h.channels, h.rate, h.bufferSize, h.periodSize⟩
    intro f hf
    cases hf
    exact hgrants
  | setChannels channels =>
    refine ⟨h.format, ?_, h.rate, h.bufferSize, h.periodSize⟩
    intro n hn
    cases hn
    exact hgrants
  | setResample resample => exact h
  | setRateNear rate =>
    refine ⟨h.format, h.channels, ?_, h.bufferSize, h.periodSize⟩
    intro n hn
    cases hn
    exact hgrants.1.holds
  | setBufferSizeNear frames =>
    refine ⟨h.format, h.channels, h.rate, ?_, h.periodSize⟩
    intro n hn
    cases hn
    exact hgrants.holds
  | setPeriodSizeNear frames =>
    refine ⟨h.format, h.channels, h.rate, h.bufferSize, ?_⟩
    intro n hn
    cases hn
    exact hgrants.holds.1
  | install => exact h

/-- A configuration made of supported parameters is offered. -/
theorem Admits.offers {config : StreamConfig} (h : k.Admits p) (hconfig : p.config? = some config) :
    k.Offers config := by
  obtain ⟨hformat, hchannels, hrate, hbufferSize, hperiodSize⟩ := Pending.eq_of_config? hconfig
  obtain ⟨hsome, hsupported⟩ := h.channels _ hchannels
  exact
    { format := h.format _ hformat
      channels := hsupported
      rate := h.rate _ hrate
      bufferSize := h.bufferSize _ hbufferSize
      periodSize := h.periodSize _ hperiodSize
      positive := ⟨Nat.pos_of_ne_zero hsome, Pending.pos_of_config? hconfig⟩ }

end Capabilities

/-! ## Which size was settled last -/

/-- The step of the size that an exchange settles, if it settles one. -/
def Exchange.sized? (e : Exchange) : Option Step :=
  match e.request, e.outcome with
  | .setBufferSizeNear _, .ok _ => some .bufferSize
  | .setPeriodSizeNear _, .ok _ => some .periodSize
  | _, _ => none

/-- The step of the size that was settled last, if any was. -/
def sizedLast (exchanges : List Exchange) : Option Step :=
  (exchanges.filterMap Exchange.sized?).getLast?

/-- An exchange that settles no size leaves the last one as it is. -/
theorem sizedLast_append (exchanges : List Exchange) (e : Exchange) :
    sizedLast (exchanges ++ [e]) = e.sized?.or (sizedLast exchanges) := by
  rw [sizedLast, List.filterMap_append]
  cases h : e.sized? with
  | none => simp [h, sizedLast]
  | some step => simp [h]

/-- A refused request settles no size. -/
theorem Exchange.sized?_refused (q : Request) (status : Status) :
    (Exchange.mk q (.error status)).sized? = none := by
  cases q <;> rfl

/-! ## Any requests -/

namespace Transcribed

variable {t : Transcribed SoftDevice} {k : Capabilities}

/-- The device and the transcript after a request, whatever it is answered with. -/
def ask (t : Transcribed SoftDevice) (q : Request) : Transcribed SoftDevice :=
  (Hardware.request q t).2

/-- The device and the transcript after requests in the given order. -/
def askAll (t : Transcribed SoftDevice) (requests : List Request) : Transcribed SoftDevice :=
  requests.foldl ask t

/-- A request is refused and nothing is changed but the calls that are noted, or it is granted with
what may be answered to it. -/
theorem ask_cases (t : Transcribed SoftDevice) (q : Request) :
    (∃ status, Hardware.request q t =
      (.error status, ⟨t.hardware.noting q.step, t.exchanges ++ [⟨q, .error status⟩]⟩)) ∨
    ∃ answer, t.hardware.capabilities.Grants t.hardware.pending q answer ∧
      Hardware.request q t = (.ok answer,
        ⟨(t.hardware.noting q.step).granted q answer, t.exchanges ++ [⟨q, .ok answer⟩]⟩) := by
  have hrequest : Hardware.request q t =
      ((Hardware.request q t.hardware).1,
        ⟨(Hardware.request q t.hardware).2, t.exchanges ++ [⟨q, (Hardware.request q t.hardware).1⟩]⟩) :=
    rfl
  rw [hrequest]
  rcases t.hardware.request_cases q with
    ⟨status, -, h⟩ | ⟨-, ⟨answer, hgrants, h⟩ | ⟨-, h⟩⟩
  · rw [h]
    exact .inl ⟨status, rfl⟩
  · rw [h]
    exact .inr ⟨answer, hgrants, rfl⟩
  · rw [h]
    exact .inl ⟨.invalid, rfl⟩

/-- What holds of a device of given capabilities, and of the transcript of what was asked since it was
acquired. -/
structure Valid (k : Capabilities) (t : Transcribed SoftDevice) : Prop where
  /-- The device supports what it did. -/
  capabilities_eq : t.hardware.capabilities = k
  /-- What is settled is supported. -/
  admits : k.Admits t.hardware.pending
  /-- What is installed is supported, and nowhere zero. -/
  offers (config : StreamConfig) (h : t.hardware.installed = some config) : k.Offers config
  /-- A period that was settled after the buffer fits into it. -/
  fits (hlast : sizedLast t.exchanges = some .periodSize) (n m : Nat)
    (hn : t.hardware.pending.bufferSize = some n) (hm : t.hardware.pending.periodSize = some m) :
    m ≤ n

/-- A device that was just acquired. -/
theorem Valid.of_acquire {before acquired : SoftDevice} {direction : Direction} {options : Options}
    (h : Device.perform (.acquire direction options) before = (.ok (), acquired)) :
    Valid before.capabilities { hardware := acquired } := by
  have hperform : before.perform (.acquire direction options) = (.ok (), acquired) := h
  rw [SoftDevice.perform] at hperform
  split at hperform
  · cases hperform
  · cases hperform
    refine ⟨rfl, .of_unsettled _, ?_, ?_⟩
    · intro config hinstalled
      cases hinstalled
    · intro hlast
      cases hlast

/-- A granted request keeps the size that was settled last within its bounds. -/
theorem Valid.fits_granted (h : t.Valid k) {q : Request} {answer : q.Answer}
    (hgrants : k.Grants t.hardware.pending q answer)
    (hlast : sizedLast (t.exchanges ++ [⟨q, .ok answer⟩]) = some .periodSize) (n m : Nat)
    (hn : (t.hardware.pending.answered q answer).bufferSize = some n)
    (hm : (t.hardware.pending.answered q answer).periodSize = some m) : m ≤ n := by
  rw [sizedLast_append] at hlast
  cases q with
  | setBufferSizeNear frames => cases hlast
  | setPeriodSizeNear frames =>
    -- The period is picked among those that fit into the buffer.
    cases hm
    exact hgrants.holds.2 n hn
  | _ => exact h.fits hlast n m hn hm

/-- Every request keeps the device valid. -/
theorem Valid.ask (h : t.Valid k) (q : Request) : (t.ask q).Valid k := by
  obtain rfl := h.capabilities_eq
  rw [Transcribed.ask]
  rcases t.ask_cases q with ⟨status, hq⟩ | ⟨answer, hgrants, hq⟩
  · rw [hq]
    refine ⟨rfl, h.admits, h.offers, ?_⟩
    intro hlast n m hn hm
    rw [sizedLast_append, Exchange.sized?_refused] at hlast
    exact h.fits hlast n m hn hm
  · rw [hq]
    refine ⟨rfl, h.admits.answered hgrants, ?_, h.fits_granted hgrants⟩
    intro config hconfig
    cases q with
    | install => exact h.admits.offers hconfig
    | _ => exact h.offers config hconfig

/-- So do requests in any order. -/
theorem Valid.askAll (h : t.Valid k) (requests : List Request) : (t.askAll requests).Valid k := by
  induction requests generalizing t with
  | nil => exact h
  | cons q requests ih => exact ih (h.ask q)

/-- An installation makes a configuration of what is settled. -/
theorem exists_of_install {t' : Transcribed SoftDevice}
    (h : Hardware.request .install t = (.ok (), t')) :
    ∃ config, t.hardware.pending.config? = some config ∧ t'.hardware.installed = some config := by
  rcases t.ask_cases .install with ⟨status, hq⟩ | ⟨answer, ⟨config, hconfig⟩, hq⟩
  · rw [h] at hq
    cases hq
  · rw [h] at hq
    cases hq
    exact ⟨config, hconfig, hconfig⟩

/-- A device that was acquired is asked for anything in any order, whatever faults are injected into
the steps.  Whatever is installed is supported and has no zero in it, at any time and by every
installation; its period fits into its buffer if the period was settled after the buffer.  A request
that fails changes neither what is settled nor what is installed. -/
theorem offers_installed {before acquired : SoftDevice} {direction : Direction} {options : Options}
    (h : Device.perform (.acquire direction options) before = (.ok (), acquired))
    (requests : List Request) :
    let t := askAll { hardware := acquired } requests
    (∀ config, t.hardware.installed = some config → before.capabilities.Offers config) ∧
    (∀ t', Hardware.request .install t = (.ok (), t') →
      ∃ config, t'.hardware.installed = some config ∧ before.capabilities.Offers config ∧
        (sizedLast t.exchanges = some .periodSize → config.periodSize ≤ config.bufferSize)) ∧
    ∀ q status t', Hardware.request q t = (.error status, t') →
      t'.hardware.pending = t.hardware.pending ∧ t'.hardware.installed = t.hardware.installed := by
  intro t
  have hvalid : t.Valid before.capabilities := (Valid.of_acquire h).askAll requests
  refine ⟨hvalid.offers, ?_, ?_⟩
  · intro t' hinstall
    obtain ⟨config, hconfig, hinstalled⟩ := exists_of_install hinstall
    obtain ⟨-, -, -, hbufferSize, hperiodSize⟩ := Pending.eq_of_config? hconfig
    refine ⟨config, hinstalled, hvalid.admits.offers hconfig, ?_⟩
    intro hlast
    exact hvalid.fits hlast _ _ hbufferSize hperiodSize
  · intro q status t' hfailed
    rcases t.ask_cases q with ⟨status', hq⟩ | ⟨answer, -, hq⟩
    · rw [hfailed] at hq
      cases hq
      exact ⟨rfl, rfl⟩
    · rw [hfailed] at hq
      cases hq

/-- A device with a short and a long period. -/
def twoPeriods : SoftDevice where
  capabilities := { periodSizes := .only [32, 512] }

/-- Without a buffer the long period is settled.  It would be too large for the buffer that follows,
but then a period is asked for again. -/
theorem offers_installed_twoPeriods :
    let acquired := (twoPeriods.perform (.acquire .output {})).2
    let requests : List Request :=
      [.setPeriodSizeNear 600, .setFormat .i16, .setChannels 2, .setRateNear 44100,
        .setBufferSizeNear 128, .setPeriodSizeNear 256]
    Device.perform (.acquire .output {}) twoPeriods = (.ok (), acquired) ∧
      sizedLast (askAll { hardware := acquired } requests).exchanges = some .periodSize ∧
        ∃ t' config, Hardware.request .install (askAll { hardware := acquired } requests) =
            (.ok (), t') ∧ t'.hardware.installed = some config ∧
              twoPeriods.capabilities.Offers config ∧ config.periodSize ≤ config.bufferSize := by
  intro acquired requests
  have hacquire : Device.perform (.acquire .output {}) twoPeriods = (.ok (), acquired) := rfl
  have hlast : sizedLast (askAll { hardware := acquired } requests).exchanges =
      some .periodSize := rfl
  have hinstall : Hardware.request .install (askAll { hardware := acquired } requests) =
      (.ok (), (Hardware.request .install (askAll { hardware := acquired } requests)).2) :=
    Prod.ext rfl rfl
  obtain ⟨-, hinstalled, -⟩ := offers_installed hacquire requests
  obtain ⟨config, hconfig, hoffers, hfits⟩ := hinstalled _ hinstall
  exact ⟨hacquire, hlast, _, config, hinstall, hconfig, hoffers, hfits hlast⟩

/-- If a smaller buffer is settled after the period, the installed period is larger than the buffer. -/
theorem installed_period_beyond_buffer :
    let acquired := (twoPeriods.perform (.acquire .output {})).2
    let t := askAll { hardware := acquired }
      [.setFormat .i16, .setChannels 2, .setRateNear 44100, .setBufferSizeNear 128,
        .setPeriodSizeNear 256, .setBufferSizeNear 16]
    Device.perform (.acquire .output {}) twoPeriods = (.ok (), acquired) ∧
      ∃ config, (Hardware.request .install t).1 = .ok () ∧
        (Hardware.request .install t).2.hardware.installed = some config ∧
          config.bufferSize < config.periodSize :=
  ⟨rfl, { bufferSize := 16, periodSize := 32 }, rfl, rfl, by decide⟩

end Transcribed

end PcmStream
