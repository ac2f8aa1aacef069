/-
  A stream and the software device under it move in lock step.

  `Stream.InStep` couples the two state machines: the device runs exactly while the stream is
  started, is held exactly while the stream has it, has the configuration of the stream installed
  and, once registered, a callback made for it.  A device without a stream is `Idle`.

  1. Every call to the device, and a tick, is specified by what it does to the coupled fields.  What
     the device supports, and its waiting input, are left alone by every move (`Turn.sameMake`).
  2. `InStep.turn` is the step for a move of the stream: one case for each line of `Turn`.
  3. `InStep.drop` and `InStep.of_eq` are those for the rest that can happen to the two.

  The coupling says more than its purpose needs, that callbacks come exactly while a stream is
  started.  A running device alone issues none without a callback, so the callback has to be part of
  it; the callback is there because the device refuses to start without one.
-/
import PcmStream.Proofs.SoftDevice.Negotiated
import PcmStream.Proofs.Stream.Consequences
import PcmStream.SoftDevice.Period

namespace PcmStream

/-! ## What a call does to a software device -/

namespace SoftDevice

/-- A device that nobody owns. -/
structure Idle (d : SoftDevice) : Prop where
  /-- It does not run. -/
  running : d.running = false
  /-- It is not held. -/
  acquired : d.acquired = false
  /-- Nothing is installed. -/
  installed : d.installed = none
  /-- There is no callback. -/
  callback : d.callback = none

variable {d d' : SoftDevice}

/-- A call that fails changes nothing, unless it disposes of the device. -/
theorem eq_of_perform_error {c : DeviceCall} {status : Status}
    (h : Device.perform c d = (.error status, d')) (hc : c ≠ .dispose) : d' = d := by
  have hperform : d.perform c = (.error status, d') := h
  cases c with
  | dispose => exact absurd rfl hc
  | parameters =>
    simp only [perform] at hperform
    exact (Prod.mk.inj hperform).2.symm
  | acquire direction options =>
    simp only [perform] at hperform
    split at hperform <;> cases hperform
    rfl
  | register callback =>
    simp only [perform] at hperform
    split at hperform
    · cases hperform
      rfl
    · split at hperform <;> cases hperform
      rfl
  | start =>
    simp only [perform] at hperform
    split at hperform
    · cases hperform
      rfl
    · split at hperform <;> cases hperform
      rfl
  | stop =>
    simp only [perform] at hperform
    split at hperform <;> cases hperform
    rfl
  | tearDown =>
    simp only [perform] at hperform
    split at hperform <;> cases hperform
    rfl

/-- Disposing of a device makes it idle, also if it fails. -/
theorem idle_of_dispose {released : Except Status Unit}
    (h : Device.perform .dispose d = (released, d')) : d'.Idle := by
  cases h
  exact ⟨rfl, rfl, rfl, rfl⟩

/-- Acquiring a device forgets what an earlier owner left. -/
theorem eq_of_acquire_ok {direction : Direction} {options : Options}
    (h : Device.perform (.acquire direction options) d = (.ok (), d')) :
    d' = { d with acquired := true, disposed := false, pending := {}, installed := none,
                  calls := [] } := by
  have hperform : d.perform (.acquire direction options) = (.ok (), d') := h
  rw [perform] at hperform
  split at hperform <;> cases hperform
  rfl

/-- An acquired device is held, with nothing installed. -/
theorem of_acquire_ok {direction : Direction} {options : Options}
    (h : Device.perform (.acquire direction options) d = (.ok (), d')) :
    d'.acquired = true ∧ d'.installed = none ∧ d'.running = d.running ∧
      d'.callback = d.callback := by
  rw [eq_of_acquire_ok h]
  exact ⟨rfl, rfl, rfl, rfl⟩

/-- Access to the parameters changes nothing. -/
theorem eq_of_parameters {result : Except Status Unit}
    (h : Device.perform .parameters d = (result, d')) : d' = d := by
  cases h
  rfl

/-- A registration that succeeds puts the callback in place. -/
theorem of_register_ok {callback : Callback}
    (h : Device.perform (.register callback) d = (.ok (), d')) :
    d' = { d with callback := some callback } := by
  have hperform : d.perform (.register callback) = (.ok (), d') := h
  simp only [perform] at hperform
  split at hperform
  · cases hperform
  · split at hperform <;> cases hperform
    rfl

/-- A device that starts has a callback, and runs. -/
theorem of_start_ok (h : Device.perform .start d = (.ok (), d')) :
    d.callback.isSome = true ∧ d' = { d with running := true } := by
  have hperform : d.perform .start = (.ok (), d') := h
  simp only [perform] at hperform
  split at hperform
  · cases hperform
  · split at hperform
    · cases hperform
    · next hcallback =>
      cases hperform
      exact ⟨Option.isSome_iff_ne_none.mpr (by simpa using hcallback), rfl⟩

/-- A device that stops does not run. -/
theorem of_stop_ok (h : Device.perform .stop d = (.ok (), d')) :
    d' = { d with running := false } := by
  have hperform : d.perform .stop = (.ok (), d') := h
  simp only [perform] at hperform
  split at hperform <;> cases hperform
  rfl

/-- Settling a configuration that succeeds installs it and leaves the owner alone. -/
theorem of_negotiate_ok {requested config : StreamConfig}
    (h : Stream.negotiate requested d = (.ok config, d')) :
    d.SameOwner d' ∧ d'.installed = some config := by
  obtain ⟨middle, hp, hrun⟩ := Stream.of_negotiate_ok h
  obtain rfl := eq_of_parameters hp
  exact installed_of_run hrun

end SoftDevice

/-! ## What a device is -/

namespace SoftDevice

/-- A device that supports the same and has the same input waiting. -/
def SameMake (d d' : SoftDevice) : Prop :=
  d'.capabilities = d.capabilities ∧ d'.input = d.input

theorem sameMake_perform (c : DeviceCall) (d : SoftDevice) : d.SameMake (d.perform c).2 := by
  cases c with
  | acquire direction options =>
    rw [perform]
    split <;> exact ⟨rfl, rfl⟩
  | parameters => exact ⟨rfl, rfl⟩
  | register callback =>
    rw [perform]
    split
    · exact ⟨rfl, rfl⟩
    · split <;> exact ⟨rfl, rfl⟩
  | start =>
    rw [perform]
    split
    · exact ⟨rfl, rfl⟩
    · split <;> exact ⟨rfl, rfl⟩
  | stop =>
    rw [perform]
    split <;> exact ⟨rfl, rfl⟩
  | tearDown =>
    rw [perform]
    split <;> exact ⟨rfl, rfl⟩
  | dispose => exact ⟨rfl, rfl⟩

theorem sameMake_request (q : Request) (d : SoftDevice) :
    d.SameMake (Hardware.request q d).2 := by
  rcases d.request_cases q with ⟨_, -, hq⟩ | ⟨-, ⟨_, -, hq⟩ | ⟨-, hq⟩⟩ <;>
    · rw [hq]
      exact ⟨rfl, rfl⟩

end SoftDevice

/-- No move changes what a device is. -/
theorem Turn.sameMake {s : Stream SoftDevice} {m : Move} {o : Outcome SoftDevice}
    (h : Turn s m o) : s.device.SameMake o.stream.device := by
  refine h.preserves (P := fun d => s.device.SameMake d) ?_ ?_ ⟨rfl, rfl⟩
  · intro c d hd
    have hc := d.sameMake_perform c
    exact ⟨hc.1.trans hd.1, hc.2.trans hd.2⟩
  · intro q d hd
    have hq := d.sameMake_request q
    exact ⟨hq.1.trans hd.1, hq.2.trans hd.2⟩

/-! ## Ticks -/

/-- What a callback is for does not change while it is called. -/
theorem Callback.process_keeps (c : Callback) (v : View) (m : Memory) (time : Timestamp)
    (context : Context) :
    (c.process v m time context).callback.config = c.config ∧
      (c.process v m time context).callback.direction = c.direction := by
  -- Counting moves counters, wherever they are kept; serving changes the handler and the events.
  have hcount : ∀ (p : Processed) frames underrun,
      (count p frames underrun).callback.config = p.callback.config ∧
        (count p frames underrun).callback.direction = p.callback.direction := by
    intro p frames underrun
    rw [count]
    split <;> exact ⟨rfl, rfl⟩
  rw [process]
  cases hd : c.direction with
  | output =>
    obtain ⟨hconfig, hdirection⟩ := hcount (c.output v m (c.recordTime time context)).2 v.frames
      (decide ((c.output v m (c.recordTime time context)).1 < v.frames))
    refine ⟨hconfig.trans ?_, hdirection.trans (Eq.trans ?_ hd)⟩ <;>
      · rw [output]
        split <;> rfl
  | input =>
    obtain ⟨hconfig, hdirection⟩ := hcount (c.input v m (c.recordTime time context)) v.frames false
    refine ⟨hconfig.trans ?_, hdirection.trans (Eq.trans ?_ hd)⟩ <;>
      · rw [input]
        split <;> rfl

namespace SoftDevice

variable {d : SoftDevice} {frames : Nat} {time : Timestamp} {context : Context}

/-- A callback is issued by a device that runs and has one. -/
theorem isSome_tick_iff :
    (d.tick frames time context).isSome = true ↔ d.running = true ∧ d.callback.isSome = true := by
  rw [tick]
  cases hr : d.running <;> cases hc : d.callback <;> simp

/-- A tick changes the input that is waiting and what the callback remembers. -/
theorem of_tick {t : Ticked} (h : d.tick frames time context = some t) :
    ∃ c c' input, d.callback = some c ∧ t.device = { d with callback := some c', input } ∧
      c'.config = c.config ∧ c'.direction = c.direction := by
  rw [tick] at h
  split at h
  · next c hr hc =>
    cases h
    obtain ⟨hconfig, hdirection⟩ := c.process_keeps (d.makePeriod c frames).1.view
      (d.makePeriod c frames).1.memory time context
    exact ⟨c, _, _, hc, rfl, hconfig, hdirection⟩
  · cases h

end SoftDevice

/-! ## The coupling -/

/-- A stream and its software device agree. -/
structure Stream.InStep (s : Stream SoftDevice) : Prop where
  /-- The device runs while the stream is started. -/
  running : s.device.running = true ↔ s.state = .started
  /-- It is held while the stream has it. -/
  acquired : s.device.acquired = true ↔ s.state.holding = true
  /-- What is installed is the configuration of the stream. -/
  installed : s.device.installed = if s.state.holding then some s.config else none
  /-- A callback was made for that configuration and direction. -/
  callback : ∀ c, s.device.callback = some c →
    s.state.holding = true ∧ c.config = s.config ∧ c.direction = s.direction
  /-- There is one to be called. -/
  registered : s.state = .started → s.device.callback.isSome = true

namespace Stream.InStep

variable {s : Stream SoftDevice}

/-- A stream that does not have its device leaves it idle. -/
theorem idle (h : s.InStep) (hs : s.state.holding = false) : s.device.Idle where
  running := by
    refine Bool.eq_false_iff.mpr fun hrunning => ?_
    rw [h.running.mp hrunning] at hs
    cases hs
  acquired := by
    refine Bool.eq_false_iff.mpr fun hacquired => ?_
    rw [h.acquired.mp hacquired] at hs
    cases hs
  installed := by
    rw [h.installed, hs]
    rfl
  callback := by
    cases hc : s.device.callback with
    | none => rfl
    | some c =>
      have hholding := (h.callback c hc).1
      rw [hs] at hholding
      cases hholding

/-- An idle device agrees with a stream that does not have it. -/
theorem of_idle (hd : s.device.Idle) (hs : s.state.holding = false) : s.InStep where
  running := by
    rw [hd.running]
    refine ⟨nofun, fun hstarted => ?_⟩
    rw [hstarted] at hs
    cases hs
  acquired := by
    rw [hd.acquired, hs]
  installed := by
    rw [hd.installed, hs]
    rfl
  callback c hc := by
    rw [hd.callback] at hc
    cases hc
  registered hstarted := by
    rw [hstarted] at hs
    cases hs

/-- A settled configuration and a callback made for it, or none, agree with a configured stream. -/
theorem of_configured {settled : SoftDevice} {config : StreamConfig} {callback : Option Callback}
    (hrunning : settled.running = false) (hacquired : settled.acquired = true)
    (hinstalled : settled.installed = some config)
    (hcallback : ∀ c, callback = some c → c.config = config ∧ c.direction = s.direction) :
    InStep { s with device := { settled with callback }, config, state := .configured } where
  running := by
    show settled.running = true ↔ State.configured = .started
    rw [hrunning]
    exact ⟨nofun, nofun⟩
  acquired := by
    show settled.acquired = true ↔ State.configured.holding = true
    rw [hacquired]
    rfl
  installed := hinstalled
  callback c hc := ⟨rfl, hcallback c hc⟩
  registered hstarted := by cases hstarted

/-- A device that runs or not agrees with a stream that is started or not. -/
theorem of_running {running : Bool} {state : State} (h : s.InStep) (hs : s.state.holding = true)
    (hstate : state.holding = true) (hrunning : running = true ↔ state = .started)
    (hregistered : s.device.callback.isSome = true) :
    InStep { s with device := { s.device with running }, state } where
  running := hrunning
  acquired := by
    show s.device.acquired = true ↔ state.holding = true
    rw [h.acquired, hs, hstate]
  installed := by
    show s.device.installed = if state.holding then some s.config else none
    rw [h.installed, hs, hstate]
  callback c hc := ⟨hstate, (h.callback c hc).2⟩
  registered _ := hregistered

/-- Every move keeps stream and device in step. -/
theorem turn {m : Move} {o : Outcome SoftDevice} (h : s.InStep) (hturn : Turn s m o) :
    o.stream.InStep := by
  cases hturn with
  | wrongState hm => exact h
  | mismatch hs hh => exact h
  | nothingToDo hm => exact h
  | refused hs hh hacquire =>
    obtain rfl := SoftDevice.eq_of_perform_error hacquire nofun
    exact h
  | unsettled hs hh hacquire hsettle hdispose =>
    exact .of_idle (SoftDevice.idle_of_dispose hdispose) (by rw [hs]; rfl)
  | @configured _ handler options config registered acquired settled device hs hh hacquire hsettle
      hregister =>
    have hidle := h.idle (by rw [hs]; rfl)
    obtain ⟨hacquired, -, hrunning, hcallback⟩ := SoftDevice.of_acquire_ok hacquire
    obtain ⟨howner, hinstalled⟩ := SoftDevice.of_negotiate_ok hsettle
    have hquiet : settled.running = false := by rw [howner.running_eq, hrunning, hidle.running]
    have hheld : settled.acquired = true := by rw [howner.acquired_eq, hacquired]
    cases registered with
    | error status =>
      -- The stream is configured all the same, over a device without a callback.
      obtain rfl := SoftDevice.eq_of_perform_error hregister nofun
      have hnone : device.callback = none := by
        rw [howner.callback_eq, hcallback, hidle.callback]
      exact of_configured hquiet hheld hinstalled fun c hc => by rw [hnone] at hc; cases hc
    | ok =>
      obtain rfl := SoftDevice.of_register_ok hregister
      exact of_configured hquiet hheld hinstalled fun c hc => by cases hc; exact ⟨rfl, rfl⟩
  | startFailed hs hstart =>
    obtain rfl := SoftDevice.eq_of_perform_error hstart nofun
    exact h
  | started hs hstart =>
    obtain ⟨hcallback, rfl⟩ := SoftDevice.of_start_ok hstart
    have hholding : s.state.holding = true := by rcases hs with hs | hs <;> rw [hs] <;> rfl
    exact h.of_running hholding rfl ⟨fun _ => rfl, fun _ => rfl⟩ hcallback
  | stopFailed hs hstop =>
    obtain rfl := SoftDevice.eq_of_perform_error hstop nofun
    exact h
  | stopped hs hstop =>
    obtain rfl := SoftDevice.of_stop_ok hstop
    have hholding : s.state.holding = true := by rw [hs]; rfl
    exact h.of_running hholding rfl ⟨nofun, nofun⟩ (h.registered hs)
  | abandoned hs => exact .of_idle (h.idle (by rw [hs]; rfl)) rfl
  -- Whatever becomes of the stop and the tear down, disposing leaves the device idle.
  | closedIdle hs htear hdispose => exact .of_idle (SoftDevice.idle_of_dispose hdispose) rfl
  | closedBusy hs hstop htear hdispose => exact .of_idle (SoftDevice.idle_of_dispose hdispose) rfl

/-- A fresh stream over an idle device. -/
theorem fresh {device : SoftDevice} (direction : Direction) (h : device.Idle) :
    InStep { device, direction } := of_idle h rfl

/-- A dropped stream leaves its device idle. -/
theorem drop (h : s.InStep) : s.drop.1.Idle := by
  rw [s.drop_device]
  by_cases hs : s.state = .closed
  · rw [if_pos hs]
    exact h.idle (by rw [hs]; rfl)
  · rw [if_neg hs]
    have hturn := Turn.of_close s
    exact (h.turn hturn).idle (by rw [hturn.closed_of_close]; rfl)

/-- What is waiting, what fails and what is counted does not matter. -/
theorem of_eq {device : SoftDevice} {stats : Stats} (h : s.InStep)
    (howner : s.device.SameOwner device) (hinstalled : device.installed = s.device.installed) :
    InStep { s with device, stats } where
  running := by
    show device.running = true ↔ s.state = .started
    rw [howner.running_eq]
    exact h.running
  acquired := by
    show device.acquired = true ↔ s.state.holding = true
    rw [howner.acquired_eq]
    exact h.acquired
  installed := hinstalled.trans h.installed
  callback c hc := h.callback c (howner.callback_eq.symm.trans hc)
  registered hs := by
    show device.callback.isSome = true
    rw [howner.callback_eq]
    exact h.registered hs

/-- A tick only changes what the callback remembers, so its configuration and direction stay. -/
theorem ticked {frames : Nat} {time : Timestamp} {context : Context} {t : Ticked} {stats : Stats}
    (h : s.InStep) (ht : s.device.tick frames time context = some t) :
    InStep { s with device := t.device, stats } := by
  obtain ⟨c, c', input, hc, hdevice, hconfig, hdirection⟩ := SoftDevice.of_tick ht
  obtain ⟨hholding, hsame⟩ := h.callback c hc
  rw [hdevice]
  exact {
    running := h.running
    acquired := h.acquired
    installed := h.installed
    callback := fun d hd => by
      cases hd
      exact ⟨hholding, hconfig.trans hsame.1, hdirection.trans hsame.2⟩
    registered := fun _ => rfl }

end Stream.InStep

end PcmStream
