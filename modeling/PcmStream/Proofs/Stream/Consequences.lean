/-
  What the list of turns says at once about a move.

  * States: `Arrow` is the lifecycle as a graph, and every move goes along one of its arrows.
  * The device: a move acts on it by calls only, so that whatever every call preserves is preserved
    by the move (`Turn.preserves`).
  * Errors: one that is no failure of the device means that nothing happened
    (`Turn.of_status?_eq_none`).
-/
import PcmStream.Proofs.Stream.Turn

namespace PcmStream

variable {σ : Type} [Device σ]

/-! ## States -/

/-- The ways for the state of a stream to change, or not, in a move. -/
inductive Arrow : State → Move → State → Prop
  /-- It stays. -/
  | stay (state : State) (m : Move) : Arrow state m state
  /-- A created stream is configured. -/
  | configure (requested : StreamConfig) (handler : Handler) (options : Options) :
      Arrow .created (.configure requested handler options) .configured
  /-- A configured or stopped stream is started. -/
  | start {state : State} (h : state = .configured ∨ state = .stopped) :
      Arrow state .start .started
  /-- A started stream is stopped. -/
  | stop : Arrow .started .stop .stopped
  /-- A stream that is not closed is closed. -/
  | close {state : State} (h : state ≠ .closed) : Arrow state .close .closed

/-- Every move takes one of these ways. -/
theorem Turn.arrow {s : Stream σ} {m : Move} {o : Outcome σ} (h : Turn s m o) :
    Arrow s.state m o.stream.state := by
  cases h with
  | wrongState hm => exact .stay _ _
  | mismatch hs hh => exact .stay _ _
  | nothingToDo hm => exact .stay _ _
  | refused hs hh hacquire => exact .stay _ _
  | unsettled hs hh hacquire hsettle hdispose => exact .stay _ _
  | startFailed hs hstart => exact .stay _ _
  | stopFailed hs hstop => exact .stay _ _
  | configured hs hh hacquire hsettle hregister => rw [hs]; exact .configure _ _ _
  | started hs hstart => exact .start hs
  | stopped hs hstop => rw [hs]; exact .stop
  | abandoned hs => exact .close (by rw [hs]; exact nofun)
  | closedIdle hs htear hdispose =>
    refine .close ?_
    rcases hs with hs | hs <;> rw [hs] <;> exact nofun
  | closedBusy hs hstop htear hdispose => exact .close (by rw [hs]; exact nofun)

namespace Arrow

variable {state state' : State} {m : Move}

/-- Only a start starts a stream. -/
theorem not_started (h : Arrow state m state') (hs : state ≠ .started) (hm : m ≠ .start) :
    state' ≠ .started := by
  cases h with
  | stay => exact hs
  | configure requested handler options => exact nofun
  | start hidle => exact absurd rfl hm
  | stop => exact nofun
  | close hopen => exact nofun

/-- Only a close closes a stream, and nothing undoes it. -/
theorem closed_iff (h : Arrow state m state') (hm : m ≠ .close) :
    state' = .closed ↔ state = .closed := by
  cases h with
  | stay => exact Iff.rfl
  | configure requested handler options => exact ⟨nofun, nofun⟩
  | start hidle =>
    refine ⟨nofun, fun hs => ?_⟩
    rw [hs] at hidle
    rcases hidle with hidle | hidle <;> cases hidle
  | stop => exact ⟨nofun, nofun⟩
  | close hopen => exact absurd rfl hm

/-- Nothing takes a stream back to where it was made. -/
theorem not_created (h : Arrow state m state') (hs : state ≠ .created) : state' ≠ .created := by
  cases h with
  | stay => exact hs
  | configure requested handler options => exact nofun
  | start hidle => exact nofun
  | stop => exact nofun
  | close hopen => exact nofun

end Arrow

/-- A close leaves a closed stream. -/
theorem Turn.closed_of_close {s : Stream σ} {o : Outcome σ} (h : Turn s .close o) :
    o.stream.state = .closed := by
  cases h with
  | wrongState hm => simpa [Move.admitted] using hm
  | nothingToDo hm => cases hm
  | abandoned hs => rfl
  | closedIdle hs htear hdispose => rfl
  | closedBusy hs hstop htear hdispose => rfl

/-- A closed stream rejects everything. -/
theorem Turn.eq_of_closed {s : Stream σ} {m : Move} {o : Outcome σ} (h : Turn s m o)
    (hs : s.state = .closed) : o = ⟨.error (.state m.operation .closed), s, []⟩ := by
  cases h with
  | wrongState hm => rw [hs]
  -- Every other line of the list begins in a state that is not closed.
  | nothingToDo hm => rw [hs] at hm; cases m <;> cases hm
  | mismatch hcreated => rw [hs] at hcreated; cases hcreated
  | refused hcreated => rw [hs] at hcreated; cases hcreated
  | unsettled hcreated => rw [hs] at hcreated; cases hcreated
  | configured hcreated => rw [hs] at hcreated; cases hcreated
  | abandoned hcreated => rw [hs] at hcreated; cases hcreated
  | startFailed hidle => rw [hs] at hidle; rcases hidle with hidle | hidle <;> cases hidle
  | started hidle => rw [hs] at hidle; rcases hidle with hidle | hidle <;> cases hidle
  | closedIdle hidle => rw [hs] at hidle; rcases hidle with hidle | hidle <;> cases hidle
  | stopFailed hstarted => rw [hs] at hstarted; cases hstarted
  | stopped hstarted => rw [hs] at hstarted; cases hstarted
  | closedBusy hstarted => rw [hs] at hstarted; cases hstarted

/-- A configuration that succeeds leaves a configured stream. -/
theorem Turn.configured_of_ok {s : Stream σ} {requested : StreamConfig} {handler : Handler}
    {options : Options} {o : Outcome σ} (h : Turn s (.configure requested handler options) o)
    (hresult : o.result = .ok ()) : o.stream.state = .configured := by
  cases h with
  | wrongState hm => cases hresult
  | mismatch hcreated hh => cases hresult
  | nothingToDo hm => cases hm
  | refused hcreated hh hacquire => cases hresult
  | unsettled hcreated hh hacquire hsettle hdispose => cases hresult
  | configured hcreated hh hacquire hsettle hregister => rfl

/-- A stop that succeeds leaves a stream that is not started. -/
theorem Turn.not_started_of_stop {s : Stream σ} {o : Outcome σ} (h : Turn s .stop o)
    (hresult : o.result = .ok ()) : o.stream.state ≠ .started := by
  cases h with
  | wrongState hm => cases hresult
  | nothingToDo hm =>
    intro hs
    rw [hs] at hm
    cases hm
  | stopFailed hs hstop => cases hresult
  | stopped hs hstop => exact nofun

/-! ## The direction, and dropping -/

/-- Dropping a stream leaves its device as closing it does. -/
theorem Stream.drop_device (s : Stream σ) :
    s.drop.1 = (if s.state = .closed then s else s.close.stream).device := by
  rw [drop]
  cases hs : s.state with
  | closed => rfl
  | created => cases hresult : s.close.result <;> simp only [hresult] <;> rfl
  | configured => cases hresult : s.close.result <;> simp only [hresult] <;> rfl
  | started => cases hresult : s.close.result <;> simp only [hresult] <;> rfl
  | stopped => cases hresult : s.close.result <;> simp only [hresult] <;> rfl

/-- No move changes the direction of a stream. -/
theorem Turn.direction_eq {s : Stream σ} {m : Move} {o : Outcome σ} (h : Turn s m o) :
    o.stream.direction = s.direction := by
  cases h <;> rfl

theorem Stream.direction_after (s : Stream σ) (moves : List Move) :
    (s.after moves).direction = s.direction := by
  induction moves generalizing s with
  | nil => rfl
  | cons m moves ih => exact (ih _).trans (m.turn s).direction_eq

/-! ## What a move does to its device is done by calls -/

/-- What every request preserves is preserved by one request and what follows it. -/
theorem Negotiation.attempt_preserves {σ α : Type} [Hardware σ] {P : σ → Prop} {q : Request}
    {next : q.Answer → σ → Except NegotiationError α × σ} {hw : σ}
    (hrequest : ∀ (q : Request) hw, P hw → P (Hardware.request q hw).2)
    (hnext : ∀ answer hw, P hw → P (next answer hw).2) (h : P hw) : P (attempt q hw next).2 := by
  have hq := hrequest q hw h
  rw [attempt]
  rcases hr : Hardware.request q hw with ⟨status | answer, middle⟩
  · rw [hr] at hq
    exact hq
  · rw [hr] at hq
    exact hnext answer middle hq

/-- What every request preserves is preserved by a negotiation. -/
theorem Negotiation.run_preserves {σ : Type} [Hardware σ] {P : σ → Prop}
    (hrequest : ∀ (q : Request) hw, P hw → P (Hardware.request q hw).2) (requested : StreamConfig)
    {hw : σ} (h : P hw) : P (run requested hw).2 := by
  -- One request after another, each in the continuation of the one before.
  refine attempt_preserves hrequest (fun _ _ h => ?_) h
  refine attempt_preserves hrequest (fun _ _ h => ?_) h
  refine attempt_preserves hrequest (fun _ _ h => ?_) h
  refine attempt_preserves hrequest (fun _ _ h => ?_) h
  refine attempt_preserves hrequest (fun _ _ h => ?_) h
  refine attempt_preserves hrequest (fun _ _ h => ?_) h
  refine attempt_preserves hrequest (fun _ _ h => ?_) h
  exact attempt_preserves hrequest (fun _ _ h => h) h

section Preserves

variable {P : σ → Prop} (hperform : ∀ (c : DeviceCall) d, P d → P (Device.perform c d).2)
  (hrequest : ∀ (q : Request) d, P d → P (Hardware.request q d).2)

include hperform

theorem preserved_of_perform {c : DeviceCall} {d d' : σ} {result : Except Status Unit}
    (h : Device.perform c d = (result, d')) (hd : P d) : P d' := by
  have hc := hperform c d hd
  rwa [h] at hc

include hrequest

theorem Stream.negotiate_preserves {requested : StreamConfig} {d d' : σ}
    {result : Except StreamError StreamConfig} (h : negotiate requested d = (result, d'))
    (hd : P d) : P d' := by
  cases result with
  | ok config =>
    obtain ⟨middle, hp, hrun⟩ := of_negotiate_ok h
    have hmiddle := preserved_of_perform hperform hp hd
    have hlater := Negotiation.run_preserves hrequest requested hmiddle
    rwa [hrun] at hlater
  | error error =>
    rcases of_negotiate_error h with ⟨status, hp, -⟩ | ⟨middle, e, hp, hrun, -⟩
    · exact preserved_of_perform hperform hp hd
    · have hmiddle := preserved_of_perform hperform hp hd
      have hlater := Negotiation.run_preserves hrequest requested hmiddle
      rwa [hrun] at hlater

/-- What every call preserves is preserved by every move. -/
theorem Turn.preserves {s : Stream σ} {m : Move} {o : Outcome σ} (h : Turn s m o)
    (hs : P s.device) : P o.stream.device := by
  have hcall : ∀ {c : DeviceCall} {d d' : σ} {result : Except Status Unit},
      Device.perform c d = (result, d') → P d → P d' := preserved_of_perform hperform
  cases h with
  | wrongState hm => exact hs
  | mismatch hcreated hh => exact hs
  | nothingToDo hm => exact hs
  | abandoned hcreated => exact hs
  | refused hcreated hh hacquire => exact hcall hacquire hs
  | unsettled hcreated hh hacquire hsettle hdispose =>
    have hsettled := Stream.negotiate_preserves hperform hrequest hsettle (hcall hacquire hs)
    exact hcall hdispose hsettled
  | configured hcreated hh hacquire hsettle hregister =>
    have hsettled := Stream.negotiate_preserves hperform hrequest hsettle (hcall hacquire hs)
    exact hcall hregister hsettled
  | startFailed hidle hstart => exact hcall hstart hs
  | started hidle hstart => exact hcall hstart hs
  | stopFailed hstarted hstop => exact hcall hstop hs
  | stopped hstarted hstop => exact hcall hstop hs
  | closedIdle hidle htear hdispose => exact hcall hdispose (hcall htear hs)
  | closedBusy hstarted hstop htear hdispose =>
    exact hcall hdispose (hcall htear (hcall hstop hs))

end Preserves

/-! ## Errors that are not the device's -/

/-- The status that an error reports, if it reports a failure of a device. -/
def StreamError.status? : StreamError → Option Status
  | negotiation e => some e.status
  | device _ status => some status
  | .state .. | handlerMismatch _ | notAvailable => none

/-- The first of the failures among device calls reports one. -/
theorem status?_of_firstFailure {list : List (Operation × Except Status Unit)}
    {error : StreamError} (h : firstFailure (failures list) = .error error) :
    error.status? ≠ none := by
  induction list with
  | nil => cases h
  | cons entry rest ih =>
    obtain ⟨operation, status | _⟩ := entry
    · cases h
      exact nofun
    · exact ih h

/-- A move whose error is not the device's changes nothing: the state does not admit it, or the
handler does not serve the direction. -/
theorem Turn.of_status?_eq_none {s : Stream σ} {m : Move} {o : Outcome σ} {error : StreamError}
    (h : Turn s m o) (hresult : o.result = .error error) (hstatus : error.status? = none) :
    o.stream = s ∧ (m.admitted s.state = false ∨
      (∃ requested handler options, m = .configure requested handler options) ∧
        error = .handlerMismatch s.direction) := by
  cases h with
  | wrongState hm => exact ⟨rfl, .inl hm⟩
  | @mismatch requested handler options hs hh =>
    cases hresult
    exact ⟨rfl, .inr ⟨⟨requested, handler, options, rfl⟩, rfl⟩⟩
  | nothingToDo hm => cases hresult
  | abandoned hs => cases hresult
  | started hs hstart => cases hresult
  | stopped hs hstop => cases hresult
  | refused hs hh hacquire => cases hresult; cases hstatus
  | startFailed hs hstart => cases hresult; cases hstatus
  | stopFailed hs hstop => cases hresult; cases hstatus
  | unsettled hs hh hacquire hsettle hdispose =>
    cases hresult
    rcases Stream.of_negotiate_error hsettle with ⟨status, -, rfl⟩ | ⟨middle, e, -, -, rfl⟩
    · cases hstatus
    · cases hstatus
  | @configured _ _ _ _ registered _ _ _ hs hh hacquire hsettle hregister =>
    cases registered with
    | ok => cases hresult
    | error status => cases hresult; cases hstatus
  | closedIdle hs htear hdispose => exact absurd hstatus (status?_of_firstFailure hresult)
  | closedBusy hs hstop htear hdispose => exact absurd hstatus (status?_of_firstFailure hresult)

end PcmStream
