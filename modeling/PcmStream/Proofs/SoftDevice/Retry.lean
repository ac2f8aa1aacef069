/-
  Configuring a stream again after it could not be configured.

  Attempts to configure a stream may fail for many reasons: the device is busy, the handler does not
  serve the direction, or a step of the negotiation is rejected, when the device is released again
  and even that may fail.  As long as the stream stays created it can be tried again.

  1. `Stream.AsNew` — what every failed attempt leaves: a stream that is as it was made, and an idle
     device with nothing but its capabilities.  What was settled, installed or noted on the way may
     still be there; it is not part of this.
  2. `Stream.AsNew.run` — the step, one failed attempt, and `Stream.AsNew.after`, any number.
  3. `Attempt.retry_eq_first` — the next attempt comes out as it would have on a fresh stream,
     because the acquisition forgets the rest (`perform_acquire`).
-/
import PcmStream.Proofs.SoftDevice.LockStep

namespace PcmStream

/-- An attempt to configure a stream, with the faults that its device has by then. -/
structure Attempt where
  /-- The faults. -/
  faults : Faults
  /-- The requested configuration. -/
  requested : StreamConfig
  /-- The handler. -/
  handler : Handler
  /-- The options. -/
  options : Options

/-! ## Acquiring a device that nobody owns -/

/-- An idle device that is not busy is acquired as if it were new, except for its input. -/
theorem SoftDevice.perform_acquire {d : SoftDevice} (h : d.Idle) (direction : Direction)
    (options : Options) :
    Device.perform (.acquire direction options) d =
      if d.faults.busy then (.error .busy, d)
      else
        (.ok (), { capabilities := d.capabilities, faults := d.faults, acquired := true,
                   input := d.input }) := by
  have hperform : Device.perform (.acquire direction options) d =
      d.perform (.acquire direction options) := rfl
  rw [hperform, perform, h.acquired]
  cases d.faults.busy with
  | true => rfl
  | false =>
    obtain ⟨hrunning, hacquired, hinstalled, hcallback⟩ := h
    simp [hrunning, hcallback]

/-! ## Attempts -/

namespace Attempt

/-- Make the attempt on a stream. -/
def run (a : Attempt) (s : Stream SoftDevice) : Outcome SoftDevice :=
  { s with device := s.device.setFaults a.faults }.configure a.requested a.handler a.options

/-- Whether the attempt gets as far as acquiring the device. -/
def Acquires (a : Attempt) (s : Stream SoftDevice) : Prop :=
  s.state = .created ∧ a.handler.accepts s.direction = true ∧
    (Device.perform (.acquire s.direction a.options) (s.device.setFaults a.faults)).1 = .ok ()

/-- The stream after attempts, whatever their results. -/
def after (s : Stream SoftDevice) (attempts : List Attempt) : Stream SoftDevice :=
  attempts.foldl (fun s a => (a.run s).stream) s

/-- Whether every one of the attempts fails and leaves the stream created. -/
def AllFail (s : Stream SoftDevice) : List Attempt → Prop
  | [] => True
  | a :: attempts =>
    ((∃ error, (a.run s).result = .error error) ∧ (a.run s).stream.state = .created) ∧
      AllFail (a.run s).stream attempts

end Attempt

/-- A stream that is as it was made, over an idle device of given capabilities. -/
structure Stream.AsNew (k : Capabilities) (direction : Direction) (s : Stream SoftDevice) :
    Prop where
  /-- The stream is as it was made. -/
  stream : s = { device := s.device, direction }
  /-- Nobody owns the device. -/
  idle : s.device.Idle
  /-- It supports what it did. -/
  capabilities : s.device.capabilities = k
  /-- Nothing is waiting to be captured. -/
  input : s.device.input = []

namespace Stream.AsNew

variable {k : Capabilities} {direction : Direction} {s : Stream SoftDevice}

theorem fresh (k : Capabilities) (direction : Direction) (faults : Faults) :
    AsNew k direction { device := { capabilities := k, faults }, direction } :=
  ⟨rfl, ⟨rfl, rfl, rfl, rfl⟩, rfl, rfl⟩

/-- Faults do not matter. -/
theorem setFaults (h : s.AsNew k direction) (faults : Faults) :
    AsNew k direction { s with device := s.device.setFaults faults } where
  stream := by
    have hs := h.stream
    rw [hs]
  idle := ⟨h.idle.running, h.idle.acquired, h.idle.installed, h.idle.callback⟩
  capabilities := h.capabilities
  input := h.input

/-- The device is acquired, unless it is busy, and is then the same for all such streams. -/
theorem perform_acquire (h : s.AsNew k direction) (options : Options) :
    Device.perform (.acquire direction options) s.device =
      if s.device.faults.busy then (.error .busy, s.device)
      else (.ok (), { capabilities := k, faults := s.device.faults, acquired := true }) := by
  rw [SoftDevice.perform_acquire h.idle, h.capabilities, h.input]

theorem state (h : s.AsNew k direction) : s.state = .created := by rw [h.stream]

theorem direction_eq (h : s.AsNew k direction) : s.direction = direction := by rw [h.stream]

/-- A configuration that leaves the stream created leaves it as new. -/
theorem turn {requested : StreamConfig} {handler : Handler} {options : Options}
    {o : Outcome SoftDevice} (h : s.AsNew k direction)
    (hturn : Turn s (.configure requested handler options) o)
    (hcreated : o.stream.state = .created) : o.stream.AsNew k direction := by
  obtain ⟨hcapabilities, hinput⟩ := hturn.sameMake
  have hidle : o.stream.device.Idle := by
    have hstep : s.InStep := .of_idle h.idle (by rw [h.state]; rfl)
    exact (hstep.turn hturn).idle (by rw [hcreated]; rfl)
  refine ⟨?_, hidle, hcapabilities.trans h.capabilities, hinput.trans h.input⟩
  cases hturn with
  | wrongState hm => exact h.stream
  | mismatch hs hh => exact h.stream
  | nothingToDo hm => exact h.stream
  | refused hs hh hacquire => rw [h.stream]
  | unsettled hs hh hacquire hsettle hdispose => rw [h.stream]
  | configured hs hh hacquire hsettle hregister => cases hcreated

/-- So does an attempt, whatever faults the device has by then. -/
theorem run (h : s.AsNew k direction) (a : Attempt) (hcreated : (a.run s).stream.state = .created) :
    (a.run s).stream.AsNew k direction :=
  (h.setFaults a.faults).turn (.of_configure _ _ _ _) hcreated

/-- And so do any number of them. -/
theorem after {attempts : List Attempt} (h : s.AsNew k direction)
    (hfailed : Attempt.AllFail s attempts) : (Attempt.after s attempts).AsNew k direction := by
  induction attempts generalizing s with
  | nil => exact h
  | cons a attempts ih =>
    obtain ⟨⟨-, hcreated⟩, hrest⟩ := hfailed
    exact ih (h.run a hcreated) hrest

end Stream.AsNew

/-! ## The next attempt -/

/-- A configuration depends on the device by its acquisition only. -/
theorem Stream.configure_eq_of_acquire {σ : Type} [Device σ] {s : Stream σ} {device acquired : σ}
    {requested : StreamConfig} {handler : Handler} {options : Options}
    (h : Device.perform (.acquire s.direction options) s.device = (.ok (), acquired))
    (h' : Device.perform (.acquire s.direction options) device = (.ok (), acquired))
    (hs : s.state = .created) (hh : handler.accepts s.direction = true) :
    s.configure requested handler options =
      { s with device }.configure requested handler options := by
  simp only [configure, hs, hh, ne_eq, not_true_eq_false, if_false, h, h']
  rfl

/-- Streams that are as new, over devices with the same faults, are configured with the same
result, and if their devices can be acquired then they are the same afterwards. -/
theorem Stream.AsNew.agree {k : Capabilities} {direction : Direction} {s s' : Stream SoftDevice}
    (h : s.AsNew k direction) (h' : s'.AsNew k direction)
    (hfaults : s'.device.faults = s.device.faults) (requested : StreamConfig) (handler : Handler)
    (options : Options) :
    (s.configure requested handler options).result =
        (s'.configure requested handler options).result ∧
      (s.configure requested handler options).log = (s'.configure requested handler options).log ∧
      (handler.accepts direction = true → s.device.faults.busy = false →
        s.configure requested handler options = s'.configure requested handler options) := by
  have hs := h.state
  have hs' := h'.state
  have hdirection := h.direction_eq
  have hdirection' := h'.direction_eq
  have hacquire := h.perform_acquire options
  have hacquire' := h'.perform_acquire options
  rw [hfaults] at hacquire'
  rw [← hdirection] at hacquire
  rw [← hdirection'] at hacquire'
  cases hh : handler.accepts direction with
  | false =>
    rw [configure_of_mismatch hs (hdirection ▸ hh), configure_of_mismatch hs' (hdirection' ▸ hh),
      hdirection, hdirection']
    exact ⟨rfl, rfl, nofun⟩
  | true =>
    cases hbusy : s.device.faults.busy with
    | true =>
      rw [hbusy] at hacquire hacquire'
      rw [configure_of_refused hs (hdirection ▸ hh) hacquire,
        configure_of_refused hs' (hdirection' ▸ hh) hacquire']
      exact ⟨rfl, rfl, nofun⟩
    | false =>
      rw [hbusy] at hacquire hacquire'
      rw [hdirection', ← hdirection] at hacquire'
      have hsame : s' = { s with device := s'.device } := by
        rw [h.stream]
        exact h'.stream
      have hequal :
          s.configure requested handler options = s'.configure requested handler options := by
        rw [hsame]
        exact configure_eq_of_acquire hacquire hacquire' hs (hdirection ▸ hh)
      exact ⟨congrArg Outcome.result hequal, congrArg Outcome.log hequal, fun _ _ => hequal⟩

namespace Attempt

variable {k : Capabilities} {direction : Direction} {s : Stream SoftDevice}

/-- An attempt on a stream that is as new gets as far as acquiring the device unless the handler
does not serve the direction or the device is busy. -/
theorem acquires_iff (a : Attempt) (h : s.AsNew k direction) :
    a.Acquires s ↔ a.handler.accepts direction = true ∧ a.faults.busy = false := by
  have hacquire := (h.setFaults a.faults).perform_acquire a.options
  rw [Acquires, h.direction_eq, hacquire]
  show _ ∧ _ ∧ (if a.faults.busy then _ else _ : Except Status Unit × SoftDevice).1 = _ ↔ _
  cases a.faults.busy with
  | true =>
    constructor
    · rintro ⟨-, -, hbusy⟩
      cases hbusy
    · rintro ⟨-, hbusy⟩
      cases hbusy
  | false => exact ⟨fun ⟨_, hh, _⟩ => ⟨hh, rfl⟩, fun ⟨hh, _⟩ => ⟨h.state, hh, rfl⟩⟩

/-- Retrying is as good as a first attempt.  After any number of attempts to configure a stream that
failed and left it created, the next one has the result that it has on a fresh stream, over a fresh
device with the faults that there are by then.  If it gets as far as acquiring the device, then the
stream and the device are left as they are there. -/
theorem retry_eq_first (capabilities : Capabilities) (direction : Direction) (attempts : List Attempt)
    (hfailed : AllFail { device := { capabilities }, direction } attempts) (a : Attempt) :
    let s := after { device := { capabilities }, direction } attempts
    let fresh : Stream SoftDevice := { device := { capabilities, faults := a.faults }, direction }
    let first := fresh.configure a.requested a.handler a.options
    (a.run s).result = first.result ∧ (a.run s).log = first.log ∧
      (a.Acquires s ↔ a.handler.accepts direction = true ∧ a.faults.busy = false) ∧
      (a.Acquires s → a.run s = first) := by
  intro s fresh first
  have hs : s.AsNew capabilities direction :=
    (Stream.AsNew.fresh capabilities direction {}).after hfailed
  have hfresh : fresh.AsNew capabilities direction := .fresh capabilities direction a.faults
  have hacquires := a.acquires_iff hs
  obtain ⟨hresult, hlog, hequal⟩ :=
    (hs.setFaults a.faults).agree hfresh rfl a.requested a.handler a.options
  refine ⟨hresult, hlog, hacquires, fun h => ?_⟩
  obtain ⟨hh, hbusy⟩ := hacquires.mp h
  exact hequal hh hbusy

/-- Attempts on an output stream that fail in three ways: the device is busy, the handler is for
input, and an installation is rejected after a small buffer was settled.  Then the release fails
too. -/
def failing : List Attempt :=
  [⟨{ busy := true }, {}, .none, {}⟩, ⟨{}, {}, .capture (.queue 0), {}⟩,
    ⟨{ step := some (.install, .invalid), dispose := some .badState },
      { bufferSize := 64, periodSize := 64 }, .none, {}⟩]

/-- The next attempt is not limited by the small buffer. -/
theorem retry_eq_first_failing :
    let s := after { device := { capabilities := {} }, direction := .output } failing
    let next : Attempt := ⟨{}, {}, .render (.queue 0), {}⟩
    AllFail { device := { capabilities := {} }, direction := .output } failing ∧
      s.device.pending.bufferSize = some 64 ∧ (next.run s).result = .ok () ∧
      next.run s =
        ({ device := { capabilities := {}, faults := {} }, direction := .output } :
          Stream SoftDevice).configure {} (.render (.queue 0)) {} := by
  intro s next
  have hfailed : AllFail { device := { capabilities := {} }, direction := .output } failing :=
    ⟨⟨⟨_, rfl⟩, rfl⟩, ⟨⟨_, rfl⟩, rfl⟩, ⟨⟨_, rfl⟩, rfl⟩, trivial⟩
  obtain ⟨-, -, hacquires, hequal⟩ := retry_eq_first {} .output failing hfailed next
  exact ⟨hfailed, rfl, rfl, hequal (hacquires.mpr ⟨rfl, rfl⟩)⟩

end Attempt

end PcmStream
