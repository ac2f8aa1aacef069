/-
  What an operation on a stream can do.

  A `Move` is one of the four operations on a stream that is there: `configure`, `start`, `stop` and
  `close`.  `Turn s m o` lists every way in which the move `m` can come out on the stream `s`, over
  any device.  Each way names the calls that the device was given, with their outcomes, and the
  outcome `o` of the whole move:

    wrongState   the state does not admit the move            no call
    mismatch     the handler does not serve the direction     no call
    nothingToDo  there is nothing to start or to stop         no call
    refused      the device cannot be acquired                acquire
    unsettled    no configuration can be settled              acquire, negotiation, dispose
    configured   a configuration is settled                   acquire, negotiation, register
    startFailed, started                                      start
    stopFailed, stopped                                       stop
    abandoned    a created stream is closed                   no call
    closedIdle   a configured or stopped one is               tear down, dispose
    closedBusy   a started one is                             stop, tear down, dispose

  `turn` says that the list is complete, so that what holds of every stream is shown by one case
  for each line of it.
-/
import PcmStream.Stream.Basic
import PcmStream.Device.Recorded

namespace PcmStream

/-- Whether a stream in this state owes its device a release. -/
def State.holding : State → Bool
  | configured | started | stopped => true
  | created | closed => false

theorem State.holding_iff (state : State) :
    state.holding = true ↔ state = .configured ∨ state = .started ∨ state = .stopped := by
  cases state <;> simp [holding]

theorem State.closed_of_not_holding {state : State} (h : state.holding = false)
    (hcreated : state ≠ .created) : state = .closed := by
  cases state with
  | closed => rfl
  | created => exact absurd rfl hcreated
  | configured => cases h
  | started => cases h
  | stopped => cases h

/-- An operation on a stream that is there. -/
inductive Move
  /-- Configure the stream. -/
  | configure (requested : StreamConfig) (handler : Handler) (options : Options)
  /-- Start it. -/
  | start
  /-- Stop it. -/
  | stop
  /-- Close it. -/
  | close

namespace Move

/-- The operation that a move is reported as. -/
def operation : Move → Operation
  | configure .. => .open
  | start => .start
  | stop => .stop
  | close => .close

/-- Whether a state admits the move. -/
def admitted : Move → State → Bool
  | configure .., state => state == .created
  | start, state => state.holding
  | stop, state => state.holding
  | close, state => state != .closed

/-- Whether the move has nothing to do in a state that admits it. -/
def pointless : Move → State → Bool
  | start, state => state == .started
  | stop, state => state == .configured || state == .stopped
  | _, _ => false

variable {σ : Type} [Device σ]

/-- Carry out a move. -/
def run (s : Stream σ) : Move → Outcome σ
  | configure requested handler options => s.configure requested handler options
  | start => s.start
  | stop => s.stop
  | close => s.close

end Move

variable {σ : Type} [Device σ]

/-- The stream after moves in order, whatever their results. -/
def Stream.after (s : Stream σ) (moves : List Move) : Stream σ :=
  moves.foldl (fun s m => (m.run s).stream) s

/-! ## Settling a configuration -/

namespace Stream

variable {requested : StreamConfig} {device device' : σ}

/-- A configuration is settled by access to the parameters and a negotiation. -/
theorem of_negotiate_ok {config : StreamConfig}
    (h : negotiate requested device = (.ok config, device')) :
    ∃ middle, Device.perform .parameters device = (.ok (), middle) ∧
      Negotiation.run requested middle = (.ok config, device') := by
  rw [negotiate] at h
  rcases hp : Device.perform .parameters device with ⟨_ | _, middle⟩
  · simp only [hp] at h
    cases h
  · rcases hrun : Negotiation.run requested middle with ⟨e | settled, later⟩
    · simp only [hp, hrun] at h
      cases h
    · simp only [hp, hrun] at h
      cases h
      exact ⟨middle, rfl, hrun⟩

/-- If none is settled, then either was impossible, and the error says which. -/
theorem of_negotiate_error {error : StreamError}
    (h : negotiate requested device = (.error error, device')) :
    (∃ status, Device.perform .parameters device = (.error status, device') ∧
      error = .device .open status) ∨
    ∃ middle e, Device.perform .parameters device = (.ok (), middle) ∧
      Negotiation.run requested middle = (.error e, device') ∧ error = .negotiation e := by
  rw [negotiate] at h
  rcases hp : Device.perform .parameters device with ⟨status | _, middle⟩
  · simp only [hp] at h
    cases h
    exact .inl ⟨status, rfl, rfl⟩
  · rcases hrun : Negotiation.run requested middle with ⟨e | settled, later⟩
    · simp only [hp, hrun] at h
      cases h
      exact .inr ⟨middle, e, rfl, hrun, rfl⟩
    · simp only [hp, hrun] at h
      cases h

end Stream

/-! ## Configurations, outcome by outcome -/

namespace Stream

variable {s : Stream σ} {requested : StreamConfig} {handler : Handler} {options : Options}

theorem configure_of_mismatch (hs : s.state = .created)
    (hh : handler.accepts s.direction = false) :
    s.configure requested handler options = ⟨.error (.handlerMismatch s.direction), s, []⟩ := by
  simp [configure, hs, hh]

theorem configure_of_refused {status : Status} {device : σ} (hs : s.state = .created)
    (hh : handler.accepts s.direction = true)
    (hacquire : Device.perform (.acquire s.direction options) s.device = (.error status, device)) :
    s.configure requested handler options =
      ⟨.error (.device .open status), { s with device }, []⟩ := by
  simp only [configure, hs, hh, ne_eq, not_true_eq_false, if_false, hacquire]

/-- If no configuration can be settled the device is released, and a failure to do so is noted. -/
theorem configure_of_negotiate_error {error : StreamError} {released : Except Status Unit}
    {acquired failed device : σ} (hs : s.state = .created)
    (hh : handler.accepts s.direction = true)
    (hacquire : Device.perform (.acquire s.direction options) s.device = (.ok (), acquired))
    (hsettle : negotiate requested acquired = (.error error, failed))
    (hdispose : Device.perform .dispose failed = (released, device)) :
    s.configure requested handler options =
      ⟨.error error, { s with device }, (failure? released).toList.map .releaseFailed⟩ := by
  cases released <;>
    simp only [configure, hs, hh, ne_eq, not_true_eq_false, if_false, hacquire, hsettle,
      hdispose] <;> rfl

/-- A configuration that is settled stands, and the answer to the callback is the result. -/
theorem configure_of_negotiate_ok {config : StreamConfig} {registered : Except Status Unit}
    {acquired settled device : σ} (hs : s.state = .created)
    (hh : handler.accepts s.direction = true)
    (hacquire : Device.perform (.acquire s.direction options) s.device = (.ok (), acquired))
    (hsettle : negotiate requested acquired = (.ok config, settled))
    (hregister : Device.perform (.register (s.callback config handler options)) settled =
      (registered, device)) :
    s.configure requested handler options =
      ⟨registered.mapError (.device .open), { s with device, config, state := .configured },
        [.negotiated s.direction config]⟩ := by
  cases registered <;>
    simp only [configure, hs, hh, ne_eq, not_true_eq_false, if_false, hacquire, hsettle,
      hregister] <;> rfl

end Stream

/-! ## Every way a move can come out -/

/-- How a move comes out on a stream. -/
inductive Turn (s : Stream σ) : Move → Outcome σ → Prop
  /-- The state does not admit the move. -/
  | wrongState {m : Move} (hm : m.admitted s.state = false) :
      Turn s m ⟨.error (.state m.operation s.state), s, []⟩
  /-- The handler does not serve the direction. -/
  | mismatch {requested : StreamConfig} {handler : Handler} {options : Options}
      (hs : s.state = .created) (hh : handler.accepts s.direction = false) :
      Turn s (.configure requested handler options) ⟨.error (.handlerMismatch s.direction), s, []⟩
  /-- There is nothing to start or to stop. -/
  | nothingToDo {m : Move} (hm : m.pointless s.state = true) : Turn s m ⟨.ok (), s, []⟩
  /-- The device cannot be acquired. -/
  | refused {requested : StreamConfig} {handler : Handler} {options : Options} {status : Status}
      {device : σ} (hs : s.state = .created) (hh : handler.accepts s.direction = true)
      (hacquire : Device.perform (.acquire s.direction options) s.device =
        (.error status, device)) :
      Turn s (.configure requested handler options)
        ⟨.error (.device .open status), { s with device }, []⟩
  /-- No configuration can be settled, and the device is released. -/
  | unsettled {requested : StreamConfig} {handler : Handler} {options : Options}
      {error : StreamError} {released : Except Status Unit} {acquired failed device : σ}
      (hs : s.state = .created) (hh : handler.accepts s.direction = true)
      (hacquire : Device.perform (.acquire s.direction options) s.device = (.ok (), acquired))
      (hsettle : Stream.negotiate requested acquired = (.error error, failed))
      (hdispose : Device.perform .dispose failed = (released, device)) :
      Turn s (.configure requested handler options)
        ⟨.error error, { s with device }, (failure? released).toList.map .releaseFailed⟩
  /-- A configuration is settled, and the device is given its callback. -/
  | configured {requested : StreamConfig} {handler : Handler} {options : Options}
      {config : StreamConfig} {registered : Except Status Unit} {acquired settled device : σ}
      (hs : s.state = .created) (hh : handler.accepts s.direction = true)
      (hacquire : Device.perform (.acquire s.direction options) s.device = (.ok (), acquired))
      (hsettle : Stream.negotiate requested acquired = (.ok config, settled))
      (hregister : Device.perform (.register (s.callback config handler options)) settled =
        (registered, device)) :
      Turn s (.configure requested handler options)
        ⟨registered.mapError (.device .open), { s with device, config, state := .configured },
          [.negotiated s.direction config]⟩
  /-- The device does not start. -/
  | startFailed {status : Status} {device : σ} (hs : s.state = .configured ∨ s.state = .stopped)
      (hstart : Device.perform .start s.device = (.error status, device)) :
      Turn s .start ⟨.error (.device .start status), { s with device }, []⟩
  /-- The device starts. -/
  | started {device : σ} (hs : s.state = .configured ∨ s.state = .stopped)
      (hstart : Device.perform .start s.device = (.ok (), device)) :
      Turn s .start ⟨.ok (), { s with device, state := .started }, [.started s.direction]⟩
  /-- The device does not stop. -/
  | stopFailed {status : Status} {device : σ} (hs : s.state = .started)
      (hstop : Device.perform .stop s.device = (.error status, device)) :
      Turn s .stop ⟨.error (.device .stop status), { s with device }, []⟩
  /-- The device stops. -/
  | stopped {device : σ} (hs : s.state = .started)
      (hstop : Device.perform .stop s.device = (.ok (), device)) :
      Turn s .stop ⟨.ok (), { s with device, state := .stopped }, [.stopped s.direction]⟩
  /-- A stream is closed that was never configured. -/
  | abandoned (hs : s.state = .created) : Turn s .close ⟨.ok (), { s with state := .closed }, []⟩
  /-- A stream is closed whose device is not running. -/
  | closedIdle {torn released : Except Status Unit} {tornDown device : σ}
      (hs : s.state = .configured ∨ s.state = .stopped)
      (htear : Device.perform .tearDown s.device = (torn, tornDown))
      (hdispose : Device.perform .dispose tornDown = (released, device)) :
      Turn s .close
        ⟨firstFailure (failures [(.close, torn), (.close, released)]),
          { s with device, state := .closed },
          (failures [(.close, torn), (.close, released)]).tail.map .closeFailedAgain ++
            [.closed s.direction]⟩
  /-- A stream is closed whose device is running. -/
  | closedBusy {halted torn released : Except Status Unit} {quiet tornDown device : σ}
      (hs : s.state = .started)
      (hstop : Device.perform .stop s.device = (halted, quiet))
      (htear : Device.perform .tearDown quiet = (torn, tornDown))
      (hdispose : Device.perform .dispose tornDown = (released, device)) :
      Turn s .close
        ⟨firstFailure (failures [(.stop, halted), (.close, torn), (.close, released)]),
          { s with device, state := .closed },
          (failures [(.stop, halted), (.close, torn), (.close, released)]).tail.map
            .closeFailedAgain ++ [.closed s.direction]⟩

namespace Turn

theorem of_configure (s : Stream σ) (requested : StreamConfig) (handler : Handler)
    (options : Options) :
    Turn s (.configure requested handler options) (s.configure requested handler options) := by
  by_cases hs : s.state = .created
  · cases hh : handler.accepts s.direction with
    | false =>
      rw [Stream.configure_of_mismatch hs hh]
      exact .mismatch hs hh
    | true =>
      rcases ha : Device.perform (.acquire s.direction options) s.device with ⟨_ | _, acquired⟩
      · rw [Stream.configure_of_refused hs hh ha]
        exact .refused hs hh ha
      · rcases hn : Stream.negotiate requested acquired with ⟨e | config, settled⟩
        · rcases hd : Device.perform .dispose settled with ⟨released, device⟩
          rw [Stream.configure_of_negotiate_error hs hh ha hn hd]
          exact .unsettled hs hh ha hn hd
        · rcases hr : Device.perform (.register (s.callback config handler options)) settled with
            ⟨registered, device⟩
          rw [Stream.configure_of_negotiate_ok hs hh ha hn hr]
          exact .configured hs hh ha hn hr
  · rw [Stream.configure, if_pos hs]
    have hm : (Move.configure requested handler options).admitted s.state = false := by
      simpa [Move.admitted] using hs
    exact .wrongState hm

theorem of_start (s : Stream σ) : Turn s .start s.start := by
  -- A configured stream and a stopped one start alike.
  have hidle (hs : s.state = .configured ∨ s.state = .stopped) : Turn s .start s.start := by
    rcases h : Device.perform .start s.device with ⟨_ | _, device⟩
    · have hturn := Turn.startFailed hs h
      rcases hs with hs | hs <;> simpa only [Stream.start, hs, h] using hturn
    · have hturn := Turn.started hs h
      rcases hs with hs | hs <;> simpa only [Stream.start, hs, h] using hturn
  have hwrong (hm : Move.start.admitted s.state = false) : Turn s .start ⟨_, s, []⟩ :=
    .wrongState hm
  cases hs : s.state with
  | created => simpa only [Stream.start, hs, Move.operation] using hwrong (by rw [hs]; rfl)
  | configured => exact hidle (.inl hs)
  | started => simpa only [Stream.start, hs] using Turn.nothingToDo (m := .start) (by rw [hs]; rfl)
  | stopped => exact hidle (.inr hs)
  | closed => simpa only [Stream.start, hs, Move.operation] using hwrong (by rw [hs]; rfl)

theorem of_stop (s : Stream σ) : Turn s .stop s.stop := by
  have hwrong (hm : Move.stop.admitted s.state = false) : Turn s .stop ⟨_, s, []⟩ :=
    .wrongState hm
  have hnothing (hm : Move.stop.pointless s.state = true) : Turn s .stop ⟨_, s, []⟩ :=
    .nothingToDo hm
  cases hs : s.state with
  | created => simpa only [Stream.stop, hs, Move.operation] using hwrong (by rw [hs]; rfl)
  | configured => simpa only [Stream.stop, hs] using hnothing (by rw [hs]; rfl)
  | started =>
    rcases h : Device.perform .stop s.device with ⟨_ | _, device⟩
    · simpa only [Stream.stop, hs, h] using Turn.stopFailed hs h
    · simpa only [Stream.stop, hs, h] using Turn.stopped hs h
  | stopped => simpa only [Stream.stop, hs] using hnothing (by rw [hs]; rfl)
  | closed => simpa only [Stream.stop, hs, Move.operation] using hwrong (by rw [hs]; rfl)

theorem of_close (s : Stream σ) : Turn s .close s.close := by
  have hidle (hs : s.state = .configured ∨ s.state = .stopped) : Turn s .close s.close := by
    have hne : s.state ≠ .started := by
      rcases hs with hs | hs <;> rw [hs] <;> decide
    rcases ht : Device.perform .tearDown s.device with ⟨torn, tornDown⟩
    rcases hd : Device.perform .dispose tornDown with ⟨released, device⟩
    have hclean : s.cleanUp = ([(.close, torn), (.close, released)], device) := by
      simp only [Stream.cleanUp, if_neg hne, ht, hd, List.nil_append]
    have h := Turn.closedIdle hs ht hd
    rcases hs with hs | hs <;> simpa only [Stream.close, hs, hclean] using h
  cases hs : s.state with
  | closed =>
    rw [Stream.close, hs]
    have h := Turn.wrongState (s := s) (m := .close) (by rw [hs]; rfl)
    rwa [hs] at h
  | created =>
    rw [Stream.close, hs]
    exact .abandoned hs
  | configured => exact hidle (.inl hs)
  | stopped => exact hidle (.inr hs)
  | started =>
    rcases hq : Device.perform .stop s.device with ⟨halted, quiet⟩
    rcases ht : Device.perform .tearDown quiet with ⟨torn, tornDown⟩
    rcases hd : Device.perform .dispose tornDown with ⟨released, device⟩
    have hclean : s.cleanUp = ([(.stop, halted), (.close, torn), (.close, released)], device) := by
      simp only [Stream.cleanUp, if_pos hs, hq, ht, hd, List.singleton_append]
    have h := Turn.closedBusy hs hq ht hd
    simpa only [Stream.close, hs, hclean] using h

end Turn

/-- Whatever a move does is a turn. -/
theorem Move.turn (s : Stream σ) (m : Move) : Turn s m (m.run s) := by
  cases m with
  | configure requested handler options => exact .of_configure s requested handler options
  | start => exact .of_start s
  | stop => exact .of_stop s
  | close => exact .of_close s

end PcmStream
