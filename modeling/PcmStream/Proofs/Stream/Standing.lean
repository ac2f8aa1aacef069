/-
  The standing of a stream: its state, its configuration and its direction, under every operation
  and along every run, over any device.

  1. `Standing s m o` — what a move may do to the standing, and what it notes at debug level.  A
     move that fails leaves the standing alone, but for two: a close closes whatever its result, and
     a configuration stands once it is negotiated, even if the device refuses the callback after it.
  2. `Move.standing` — every move on every stream does that.  It is read off the list of turns, one
     field at a time.
  3. `Stream.standing_after` — what follows for runs.  The states that a stream goes through are
     joined by arrows of the lifecycle, nothing happens to it once it is closed, and its
     configuration is the one that was negotiated last, if one ever was.
-/
import PcmStream.Proofs.Stream.Consequences
import Mathlib.Data.List.Chain

namespace PcmStream

variable {σ : Type}

/-! ## Noted moves -/

/-- The events of a log that are noted at debug level. -/
def debugEvents (log : List Event) : List Event := log.filter fun e => e.level = .debug

/-- A failure that is noted is a warning. -/
theorem debugEvents_releaseFailed (list : List Status) :
    debugEvents (list.map .releaseFailed) = [] := by
  simp [debugEvents, Event.level]

theorem debugEvents_closed (errors : List StreamError) (direction : Direction) :
    debugEvents (errors.map .closeFailedAgain ++ [.closed direction]) = [.closed direction] := by
  simp [debugEvents, Event.level]

/-- The events that note a move from one stream to another: none if the state stays or a stream is
closed that was never configured, and one otherwise. -/
def moveEvents (s s' : Stream σ) : List Event :=
  if s'.state = s.state then []
  else
    match s'.state with
    | .created => []
    | .configured => [.negotiated s.direction s'.config]
    | .started => [.started s.direction]
    | .stopped => [.stopped s.direction]
    | .closed => if s.state = .created then [] else [.closed s.direction]

theorem moveEvents_of_eq {s s' : Stream σ} (h : s'.state = s.state) : moveEvents s s' = [] := if_pos h

variable [Device σ]

/-- A move of the lifecycle is noted once at debug level, and nothing else is. -/
theorem Turn.debugEvents_eq {s : Stream σ} {m : Move} {o : Outcome σ} (h : Turn s m o) :
    debugEvents o.log = moveEvents s o.stream := by
  cases h with
  | wrongState hm => exact (moveEvents_of_eq rfl).symm
  | mismatch hs hh => exact (moveEvents_of_eq rfl).symm
  | nothingToDo hm => exact (moveEvents_of_eq rfl).symm
  | refused hs hh hacquire => exact (moveEvents_of_eq rfl).symm
  | startFailed hs hstart => exact (moveEvents_of_eq rfl).symm
  | stopFailed hs hstop => exact (moveEvents_of_eq rfl).symm
  | unsettled hs hh hacquire hsettle hdispose =>
    exact (debugEvents_releaseFailed _).trans (moveEvents_of_eq rfl).symm
  | configured hs hh hacquire hsettle hregister => simp [moveEvents, debugEvents, Event.level, hs]
  | started hs hstart => rcases hs with hs | hs <;> simp [moveEvents, debugEvents, Event.level, hs]
  | stopped hs hstop => simp [moveEvents, debugEvents, Event.level, hs]
  | abandoned hs => simp [moveEvents, debugEvents, hs]
  | closedIdle hs htear hdispose =>
    rw [debugEvents_closed]
    rcases hs with hs | hs <;> simp [moveEvents, hs]
  | closedBusy hs hstop htear hdispose =>
    rw [debugEvents_closed]
    simp [moveEvents, hs]

/-! ## Negotiated configurations -/

/-- The move negotiates a configuration on the stream, and the device answers as given when it is
handed the callback. -/
inductive Stream.Negotiates (s : Stream σ) : Move → StreamConfig → Except Status Unit → Prop
  | intro {requested : StreamConfig} {handler : Handler} {options : Options}
      {config : StreamConfig} {registered : Except Status Unit} {acquired settled device : σ}
      (hs : s.state = .created) (hh : handler.accepts s.direction = true)
      (hacquire : Device.perform (.acquire s.direction options) s.device = (.ok (), acquired))
      (hsettle : Stream.negotiate requested acquired = (.ok config, settled))
      (hregister : Device.perform (.register (s.callback config handler options)) settled =
        (registered, device)) :
      Negotiates s (.configure requested handler options) config registered

/-- A configuration that is negotiated stands, and the answer to the callback is the result. -/
theorem Stream.Negotiates.run {s : Stream σ} {m : Move} {config : StreamConfig}
    {registered : Except Status Unit} (h : s.Negotiates m config registered) :
    (m.run s).result = registered.mapError (.device .open) ∧
      (m.run s).stream =
        { s with device := (m.run s).stream.device, config, state := .configured } := by
  cases h with
  | intro hs hh hacquire hsettle hregister =>
    rw [Move.run, configure_of_negotiate_ok hs hh hacquire hsettle hregister]
    exact ⟨rfl, rfl⟩

/-! ## One move -/

/-- What a move does to the standing of a stream. -/
structure Standing (s : Stream σ) (m : Move) (o : Outcome σ) : Prop where
  /-- The state goes along an arrow of the lifecycle. -/
  arrow : Arrow s.state m o.stream.state
  /-- A close closes a stream that is not closed, whatever its result. -/
  closes : m = .close → s.state ≠ .closed →
    o.stream = { s with device := o.stream.device, state := .closed }
  /-- If the device refuses the callback the configuration stands, but fails. -/
  refused : ∀ config status, s.Negotiates m config (.error status) →
    o.result = .error (.device .open status) ∧
      o.stream = { s with device := o.stream.device, config, state := .configured }
  /-- Any other failure leaves everything but the device alone. -/
  kept : ∀ error, o.result = .error error → (m = .close → s.state = .closed) →
    (∀ config status, ¬ s.Negotiates m config (.error status)) →
    o.stream = { s with device := o.stream.device }
  /-- The configuration changes when a created stream is configured, to what was negotiated, and
  otherwise stays. -/
  config : if s.state = .created ∧ o.stream.state = .configured then
      ∃ registered, s.Negotiates m o.stream.config registered
    else o.stream.config = s.config
  /-- The direction stays. -/
  direction : o.stream.direction = s.direction
  /-- A move of the lifecycle is noted once at debug level, and nothing else is. -/
  noted : debugEvents o.log = moveEvents s o.stream

namespace Turn

variable {s : Stream σ} {m : Move} {o : Outcome σ}

/-- A close closes a stream that is not closed. -/
theorem eq_of_close (h : Turn s m o) (hm : m = .close) (hs : s.state ≠ .closed) :
    o.stream = { s with device := o.stream.device, state := .closed } := by
  subst hm
  cases h with
  | wrongState hm => exact absurd (by simpa [Move.admitted] using hm) hs
  | nothingToDo hm => cases hm
  | abandoned hcreated => rfl
  | closedIdle hidle htear hdispose => rfl
  | closedBusy hstarted hstop htear hdispose => rfl

/-- A failure that is not a close and negotiates nothing leaves everything but the device alone. -/
theorem eq_of_error {error : StreamError} (h : Turn s m o) (hresult : o.result = .error error)
    (hclose : m = .close → s.state = .closed)
    (hnegotiates : ∀ config status, ¬ s.Negotiates m config (.error status)) :
    o.stream = { s with device := o.stream.device } := by
  cases h with
  | wrongState hm => rfl
  | mismatch hs hh => rfl
  | refused hs hh hacquire => rfl
  | unsettled hs hh hacquire hsettle hdispose => rfl
  | startFailed hs hstart => rfl
  | stopFailed hs hstop => rfl
  | nothingToDo hm => cases hresult
  | started hs hstart => cases hresult
  | stopped hs hstop => cases hresult
  | @configured _ _ _ config registered _ _ _ hs hh hacquire hsettle hregister =>
    cases registered with
    | ok => cases hresult
    | error status => exact absurd (.intro hs hh hacquire hsettle hregister) (hnegotiates _ status)
  -- The others close a stream that is not closed.
  | abandoned hs => rw [hclose rfl] at hs; cases hs
  | closedIdle hs htear hdispose => rw [hclose rfl] at hs; rcases hs with hs | hs <;> cases hs
  | closedBusy hs hstop htear hdispose => rw [hclose rfl] at hs; cases hs

/-- The configuration is the negotiated one once a stream is configured, and stays otherwise. -/
theorem config_eq (h : Turn s m o) :
    if s.state = .created ∧ o.stream.state = .configured then
      ∃ registered, s.Negotiates m o.stream.config registered
    else o.stream.config = s.config := by
  split
  · next hmove =>
    obtain ⟨hs, hconfigured⟩ := hmove
    cases h with
    | @configured _ _ _ _ registered _ _ _ hs hh hacquire hsettle hregister =>
      exact ⟨registered, .intro hs hh hacquire hsettle hregister⟩
    | wrongState hm => rw [hs] at hconfigured; cases hconfigured
    | mismatch _ hh => rw [hs] at hconfigured; cases hconfigured
    | nothingToDo hm => rw [hs] at hconfigured; cases hconfigured
    | refused _ hh hacquire => rw [hs] at hconfigured; cases hconfigured
    | unsettled _ hh hacquire hsettle hdispose => rw [hs] at hconfigured; cases hconfigured
    | startFailed _ hstart => rw [hs] at hconfigured; cases hconfigured
    | stopFailed _ hstop => rw [hs] at hconfigured; cases hconfigured
    | started _ hstart => cases hconfigured
    | stopped _ hstop => cases hconfigured
    | abandoned => cases hconfigured
    | closedIdle _ htear hdispose => cases hconfigured
    | closedBusy _ hstop htear hdispose => cases hconfigured
  · next hmove =>
    cases h with
    | configured hs hh hacquire hsettle hregister => exact absurd ⟨hs, rfl⟩ hmove
    | _ => rfl

end Turn

/-- Every move on every stream does to its standing what it may. -/
theorem Move.standing (s : Stream σ) (m : Move) : Standing s m (m.run s) where
  arrow := (m.turn s).arrow
  closes := (m.turn s).eq_of_close
  refused := fun _ _ h => h.run
  kept := fun _ hresult => (m.turn s).eq_of_error hresult
  config := (m.turn s).config_eq
  direction := (m.turn s).direction_eq
  noted := (m.turn s).debugEvents_eq

/-! ## Runs -/

namespace Stream

/-- The states that a stream goes through in a run, from the first to the last. -/
def states (s : Stream σ) : List Move → List State
  | [] => [s.state]
  | m :: moves => s.state :: (m.run s).stream.states moves

/-- They are joined by arrows of the lifecycle. -/
theorem isChain_states (s : Stream σ) (moves : List Move) :
    (s.states moves).IsChain fun state state' => ∃ m, Arrow state m state' := by
  induction moves generalizing s with
  | nil => exact .singleton _
  | cons m moves ih =>
    have hstep : ∃ m', Arrow s.state m' (m.run s).stream.state := ⟨m, (m.turn s).arrow⟩
    have hrest := ih (m.run s).stream
    -- The states of what is left begin with the one that the move leads to.
    cases moves with
    | nil => exact .cons_cons hstep hrest
    | cons m' moves => exact .cons_cons hstep hrest

theorem after_cons (s : Stream σ) (m : Move) (moves : List Move) :
    s.after (m :: moves) = (m.run s).stream.after moves := rfl

/-- Nothing happens to a closed stream. -/
theorem after_of_closed {s : Stream σ} (hs : s.state = .closed) (moves : List Move) :
    s.after moves = s := by
  induction moves with
  | nil => rfl
  | cons m moves ih =>
    have hm : (m.run s).stream = s := by rw [(m.turn s).eq_of_closed hs]
    rw [after_cons, hm]
    exact ih

/-- No run takes a stream back to where it was made. -/
theorem not_created_after {s : Stream σ} (hs : s.state ≠ .created) (moves : List Move) :
    (s.after moves).state ≠ .created := by
  induction moves generalizing s with
  | nil => exact hs
  | cons m moves ih => exact ih ((m.turn s).arrow.not_created hs)

/-- As long as a stream is created its configuration stays. -/
theorem config_of_created (s : Stream σ) (moves : List Move)
    (h : (s.after moves).state = .created) : (s.after moves).config = s.config := by
  induction moves generalizing s with
  | nil => rfl
  | cons m moves ih =>
    rw [after_cons] at h ⊢
    have hconfig := (m.standing s).config
    have hm : (m.run s).stream.state = .created := by
      by_contra hm
      exact not_created_after hm moves h
    rw [hm, if_neg (fun hmove => nomatch hmove.2)] at hconfig
    exact (ih _ h).trans hconfig

/-- The configuration of a stream that is not created any more is final. -/
theorem config_after {s : Stream σ} (hs : s.state ≠ .created) (moves : List Move) :
    (s.after moves).config = s.config := by
  induction moves generalizing s with
  | nil => rfl
  | cons m moves ih =>
    have hconfig := (m.standing s).config
    rw [if_neg fun h => hs h.1] at hconfig
    rw [after_cons, ih ((m.turn s).arrow.not_created hs), hconfig]

/-- The configuration after a run is that of before, or was negotiated in one of its moves. -/
theorem negotiated_after (s : Stream σ) (moves : List Move) :
    (s.after moves).config = s.config ∨
      ∃ before m later registered, moves = before ++ m :: later ∧
        (s.after before).Negotiates m (s.after moves).config registered := by
  induction moves generalizing s with
  | nil => exact .inl rfl
  | cons m moves ih =>
    rw [after_cons]
    have hconfig := (m.standing s).config
    split at hconfig
    · next hmove =>
      -- The first move negotiates, and what it negotiates is final.
      obtain ⟨registered, hnegotiates⟩ := hconfig
      have hfinal := config_after (s := (m.run s).stream) (by rw [hmove.2]; exact nofun) moves
      exact .inr ⟨[], m, moves, registered, rfl, hfinal.symm ▸ hnegotiates⟩
    · rcases ih (m.run s).stream with hkept | ⟨before, m', later, registered, rfl, hnegotiates⟩
      · exact .inl (hkept.trans hconfig)
      · exact .inr ⟨m :: before, m', later, registered, rfl, hnegotiates⟩

/-- The standing of streams over any device.  Every operation on every stream does what `Standing`
allows.  If a stream was made and has gone through any run, then its states so far are joined by
arrows of the lifecycle; it can be closed now, and if it is closed nothing changes it any more.  Its
configuration is the default one while it is created, then the one that was negotiated, and
final. -/
theorem standing_after (device : σ) (direction : Direction) (moves : List Move) :
    let made : Stream σ := { device, direction }
    let s := made.after moves
    (∀ (s : Stream σ) (m : Move), Standing s m (m.run s)) ∧
    (made.states moves).IsChain (fun state state' => ∃ m, Arrow state m state') ∧
    s.close.stream.state = .closed ∧
    (s.state = .closed → ∀ later, s.after later = s) ∧
    (s.state = .created → s.config = {}) ∧
    (s.config = {} ∨ ∃ before m later registered, moves = before ++ m :: later ∧
      (made.after before).Negotiates m s.config registered) ∧
    (s.state ≠ .created → ∀ later, (s.after later).config = s.config) := by
  intro made s
  exact ⟨fun s m => m.standing s, made.isChain_states moves, (Turn.of_close s).closed_of_close,
    after_of_closed, made.config_of_created moves, made.negotiated_after moves, config_after⟩

end Stream

end PcmStream
