/-
  What a stream owes its device, and how it is given back.

  A stream that has its device owes it a release: to stop it if it is started, to tear it down and
  to dispose of it (`State.releases`).  Closing asks for exactly that, whatever comes of it, and
  dropping does what closing does.

    specification   `Undone`, the record of a device whose stream could not be opened;
                    `Stream.Attended`, the record of one whose stream was opened and then started
                    and stopped in any way
    crux            all counting is done on the names of calls, of which an opening has a fixed list
                    (`names_opening`), so that an attended device that is released has been torn
                    down once and disposed of once in its whole life (`Attended.count`)
-/
import PcmStream.Proofs.Stream.Failures
import PcmStream.Device.Scripted

namespace PcmStream

/-! ## The names of calls -/

/-- The name of a call. -/
def AnyCall.name : AnyCall → CallName
  | .request q => .step q.step
  | .device c => c.name

/-- The names of calls, in order. -/
def names (calls : List CallRecord) : List CallName := calls.map fun r => r.call.name

/-- Whether a device was acquired. -/
def acquired (calls : List CallRecord) : Bool :=
  calls.any fun r => r.call.name = .acquire ∧ r.failure = none

/-- Whether a call undoes something. -/
def CallName.isCleanup : CallName → Bool
  | stop | tearDown | dispose => true
  | _ => false

/-- The calls by which a stream is closed, by the state it is in. -/
def State.releases : State → List CallName
  | started => [.stop, .tearDown, .dispose]
  | configured | stopped => [.tearDown, .dispose]
  | created | closed => []

theorem names_append (xs ys : List CallRecord) : names (xs ++ ys) = names xs ++ names ys :=
  List.map_append

theorem acquired_append (xs ys : List CallRecord) :
    acquired (xs ++ ys) = (acquired xs || acquired ys) := List.any_append

theorem names_requests (list : List Request) :
    names (list.map fun q => AnyCall.granted (.request q)) =
      (list.map Request.step).map CallName.step := by
  rw [names, List.map_map, List.map_map]
  rfl

/-- An opening always has the same names. -/
theorem names_opening {direction : Direction} {calls : List CallRecord}
    (h : Opening direction calls) :
    names calls = .acquire :: .parameters :: (Step.all.map CallName.step ++ [.register]) := by
  obtain ⟨options, requested, callback, registered⟩ := h
  show CallName.acquire :: .parameters :: names (_ ++ [_]) = _
  rw [names_append, names_requests, Negotiation.plan_steps]
  rfl

/-- An opening acquires the device. -/
theorem Opening.acquired {direction : Direction} {calls : List CallRecord}
    (h : Opening direction calls) : acquired calls = true := by
  obtain ⟨options, requested, callback, registered⟩ := h
  rfl

/-- A negotiation that fails has asked for parameters only. -/
theorem FailedSettling.names {asked : List CallRecord} {error : StreamError}
    (h : FailedSettling asked error) :
    ∀ name ∈ names asked, name = .parameters ∨ ∃ step, name = .step step := by
  cases h with
  | parameters status =>
    intro name hname
    exact .inl (List.mem_singleton.mp hname)
  | request requested before q rest status hplan =>
    intro name hname
    have hsplit : PcmStream.names (AnyCall.granted (.device .parameters) ::
        ((before.map fun q => AnyCall.granted (.request q)) ++
          [AnyCall.rejected (.request q) status])) =
        .parameters :: ((before.map Request.step).map CallName.step ++ [.step q.step]) := by
      show CallName.parameters :: PcmStream.names (_ ++ [_]) = _
      rw [names_append, names_requests]
      rfl
    rw [hsplit] at hname
    rcases List.mem_cons.mp hname with rfl | hname
    · exact .inl rfl
    · rcases List.mem_append.mp hname with hname | hname
      · obtain ⟨step, -, rfl⟩ := List.mem_map.mp hname
        exact .inr ⟨step, rfl⟩
      · exact .inr ⟨q.step, List.mem_singleton.mp hname⟩

/-- Calls that start or stop are named so. -/
theorem names_body {body : List CallRecord} (h : ∀ r ∈ body, r.StartsOrStops) :
    ∀ name ∈ names body, name = .start ∨ name = .stop := by
  intro name hname
  obtain ⟨r, hr, rfl⟩ := List.mem_map.mp hname
  rcases h r hr with hcall | hcall
  · exact .inl (by rw [hcall]; rfl)
  · exact .inr (by rw [hcall]; rfl)

/-! ## Dropping -/

namespace Stream

variable {σ : Type} [Device σ]

/-- What a drop leaves of a stream: the stream itself if it is closed, and otherwise what closing
it leaves. -/
def dropped (s : Stream σ) : Stream σ :=
  if s.state = .closed then s else s.close.stream

/-- A dropped stream is closed. -/
theorem dropped_state (s : Stream σ) : s.dropped.state = .closed := by
  unfold dropped
  split
  · assumption
  · exact (Turn.of_close s).closed_of_close

/-- Its device is what the drop answers. -/
theorem dropped_device (s : Stream σ) :
    s.dropped.device = s.drop.1 := s.drop_device.symm

end Stream

/-! ## Streams that are opened in vain -/

/-- The calls of a stream that could not be opened and was dropped. -/
inductive Undone (direction : Direction) : List CallRecord → Prop
  /-- The device was not called. -/
  | untouched : Undone direction []
  /-- An attempt failed. -/
  | attempt {calls : List CallRecord} (h : FailedAttempt direction calls) : Undone direction calls
  /-- The stream was configured and released. -/
  | released {opening closing : List CallRecord} (h : Opening direction opening)
      (hclosing : names closing = [.tearDown, .dispose]) : Undone direction (opening ++ closing)

namespace Undone

variable {direction : Direction} {calls : List CallRecord}

/-- A device that was acquired in vain was disposed of once. -/
theorem count_dispose (h : Undone direction calls) :
    (names calls).count .dispose = if acquired calls then 1 else 0 := by
  cases h with
  | untouched => rfl
  | attempt h =>
    cases h with
    | refused options status => rfl
    | @unsettled options asked error released hasked =>
      have hnone : (names asked).count .dispose = 0 := by
        refine List.count_eq_zero.mpr fun hname => ?_
        rcases hasked.names _ hname with h | ⟨step, h⟩ <;> cases h
      have hgranted : acquired (AnyCall.granted (.device (.acquire direction options)) ::
          (asked ++ [⟨.device .dispose, released⟩])) = true := rfl
      rw [hgranted, if_pos rfl]
      have hacquire : CallName.acquire ≠ .dispose := nofun
      show (CallName.acquire :: names (asked ++ [_])).count .dispose = 1
      rw [names_append, List.count_cons_of_ne hacquire, List.count_append, hnone]
      rfl
  | released h hclosing =>
    rw [acquired_append, h.acquired, names_append, names_opening h, hclosing, List.count_append]
    rfl

/-- No device is started in vain. -/
theorem not_mem_start (h : Undone direction calls) : CallName.start ∉ names calls := by
  cases h with
  | untouched => exact List.not_mem_nil
  | attempt h =>
    cases h with
    | refused options status => exact nofun
    | @unsettled options asked error released hasked =>
      show CallName.start ∉ CallName.acquire :: names (asked ++ [_])
      rw [names_append]
      intro hname
      rcases List.mem_cons.mp hname with h | hname
      · cases h
      · rcases List.mem_append.mp hname with hname | hname
        · rcases hasked.names _ hname with h | ⟨step, h⟩ <;> cases h
        · cases List.mem_singleton.mp hname
  | released h hclosing =>
    rw [names_append, names_opening h, hclosing]
    decide

end Undone

namespace Stream

variable {σ : Type} [Device σ] {s : Stream (Recorded σ)}

/-- Closing a stream asks for what its state owes, and the first of these calls that fails is the
result. -/
theorem calls_close (hs : s.state ≠ .closed) :
    ∃ calls, s.close.stream.device.calls = s.device.calls ++ calls ∧
      names calls = s.state.releases ∧ s.close.result = firstFailure (errors calls) := by
  have hturn := Turn.of_close s
  generalize s.close = o at hturn
  cases hturn with
  | wrongState hm => exact absurd (by simpa [Move.admitted] using hm) hs
  | nothingToDo hm => cases hm
  | abandoned hcreated =>
    refine ⟨[], (List.append_nil _).symm, ?_, rfl⟩
    rw [hcreated]
    rfl
  | @closedIdle torn released tornDown device hidle htear hdispose =>
    refine ⟨_, calls_released htear hdispose, ?_, ?_⟩
    · rcases hidle with hidle | hidle <;> rw [hidle] <;> rfl
    · have herrors : errors [⟨.device .tearDown, failure? torn⟩,
          ⟨.device .dispose, failure? released⟩] =
          failures [(.close, torn), (.close, released)] :=
        errors_eq_failures (errors_eq_failures rfl)
      rw [herrors]
  | @closedBusy halted torn released quiet tornDown device hbusy hstop htear hdispose =>
    have hcalls : device.calls = s.device.calls ++ [⟨.device .stop, failure? halted⟩,
        ⟨.device .tearDown, failure? torn⟩, ⟨.device .dispose, failure? released⟩] := by
      rw [calls_released htear hdispose, Recorded.calls_perform hstop, List.append_assoc]
      rfl
    refine ⟨_, hcalls, ?_, ?_⟩
    · rw [hbusy]
      rfl
    · have herrors : errors [⟨.device .stop, failure? halted⟩,
          ⟨.device .tearDown, failure? torn⟩, ⟨.device .dispose, failure? released⟩] =
          failures [(.stop, halted), (.close, torn), (.close, released)] :=
        errors_eq_failures (errors_eq_failures (errors_eq_failures rfl))
      rw [herrors]

end Stream

/-- What configuring a stream does to a device that was not called before: an attempt that leaves
the stream as it was made, if it gets that far, or an opening. -/
theorem Turn.of_fresh {σ : Type} [Device σ] {s : Stream (Recorded σ)} {requested : StreamConfig}
    {handler : Handler} {options : Options} {o : Outcome (Recorded σ)}
    (h : Turn s (.configure requested handler options) o) (hs : s.state = .created)
    (hcalls : s.device.calls = []) :
    o.stream.state = .created ∧ o.result ≠ .ok () ∧
      (o.stream.device.calls = [] ∨ FailedAttempt s.direction o.stream.device.calls) ∨
    o.stream.state = .configured ∧ Opening s.direction o.stream.device.calls := by
  cases h with
  | wrongState hm =>
    rw [hs] at hm
    cases hm
  | nothingToDo hm => cases hm
  | mismatch hcreated hh => exact .inl ⟨hs, nofun, .inl hcalls⟩
  | refused hcreated hh hacquire =>
    refine .inl ⟨hs, nofun, .inr ?_⟩
    show FailedAttempt s.direction _
    rw [Recorded.calls_perform hacquire, hcalls]
    exact .refused options _
  | unsettled hcreated hh hacquire hsettle hdispose =>
    obtain ⟨asked, hasked, hfailed⟩ := Stream.calls_negotiate_error hsettle
    refine .inl ⟨hs, nofun, .inr ?_⟩
    show FailedAttempt s.direction _
    rw [Stream.calls_unsettled hacquire hfailed hdispose, hcalls]
    exact .unsettled options _ hasked
  | configured hcreated hh hacquire hsettle hregister =>
    refine .inr ⟨rfl, ?_⟩
    show Opening s.direction _
    rw [Stream.calls_configured hacquire hsettle hregister, hcalls]
    exact .intro options requested _ _

/-- A stream that was configured once and dropped leaves a device that is not used any more. -/
theorem Turn.undone {σ : Type} [Device σ] {s : Stream (Recorded σ)} {requested : StreamConfig}
    {handler : Handler} {options : Options} {o : Outcome (Recorded σ)}
    (h : Turn s (.configure requested handler options) o) (hs : s.state = .created)
    (hcalls : s.device.calls = []) : Undone s.direction o.stream.dropped.device.calls := by
  rcases h.of_fresh hs hcalls with ⟨hstate, -, hattempt⟩ | ⟨hstate, hopening⟩
  · rw [o.stream.dropped_device, Stream.drop_created hstate]
    rcases hattempt with hnothing | hattempt
    · rw [hnothing]
      exact .untouched
    · exact .attempt hattempt
  · have hopen : o.stream.state ≠ .closed := by
      rw [hstate]
      exact nofun
    obtain ⟨closing, hclosing, hnames, -⟩ := Stream.calls_close hopen
    rw [hstate] at hnames
    rw [Stream.dropped, if_neg hopen, hclosing]
    exact .released hopening hnames

/-! ## Streams in a session -/

/-- A stream has its device, and has asked nothing of it but an opening and to start and stop. -/
structure Stream.Attended {σ : Type} (direction : Direction) (s : Stream (Recorded σ)) : Prop where
  /-- It owes its device a release. -/
  holding : s.state.holding = true
  /-- What it has asked. -/
  calls : ∃ opening body, Opening direction opening ∧ (∀ r ∈ body, r.StartsOrStops) ∧
    s.device.calls = opening ++ body

namespace Stream.Attended

variable {σ : Type} {direction : Direction} {s : Stream (Recorded σ)}

theorem not_closed (h : s.Attended direction) : s.state ≠ .closed := by
  intro hs
  have hholding := h.holding
  rw [hs] at hholding
  cases hholding

/-- A call to start or stop keeps it so. -/
theorem body {r : CallRecord} {state : State} {device : Recorded σ} (h : s.Attended direction)
    (hcalls : device.calls = s.device.calls ++ [r]) (hr : r.StartsOrStops)
    (hstate : state.holding = true) :
    ({ s with device, state } : Stream (Recorded σ)).Attended direction := by
  obtain ⟨opening, body, hopening, hbody, hprior⟩ := h.calls
  refine ⟨hstate, opening, body ++ [r], hopening, ?_, ?_⟩
  · intro c hc
    rcases List.mem_append.mp hc with hc | hc
    · exact hbody c hc
    · rw [List.mem_singleton.mp hc]
      exact hr
  · show device.calls = _
    rw [hcalls, hprior, List.append_assoc]

/-- Whatever such a stream is closed with, its device has been torn down once and disposed of
once. -/
theorem count {closing : List CallRecord} (h : s.Attended direction)
    (hclosing : names closing = s.state.releases) :
    (names (s.device.calls ++ closing)).count .tearDown = 1 ∧
      (names (s.device.calls ++ closing)).count .dispose = 1 := by
  obtain ⟨opening, body, hopening, hbody, hcalls⟩ := h.calls
  have hnone : ∀ name, name ≠ .start → name ≠ .stop → (names body).count name = 0 := by
    intro name hstart hstop
    refine List.count_eq_zero.mpr fun hname => ?_
    rcases names_body hbody name hname with rfl | rfl
    · exact hstart rfl
    · exact hstop rfl
  have hreleases : s.state.releases.count .tearDown = 1 ∧ s.state.releases.count .dispose = 1 := by
    rcases (State.holding_iff _).mp h.holding with hs | hs | hs <;> rw [hs] <;> exact ⟨rfl, rfl⟩
  rw [hcalls, names_append, names_append, names_opening hopening, hclosing]
  constructor
  · rw [List.count_append, List.count_append, hnone .tearDown nofun nofun, hreleases.1]
    rfl
  · rw [List.count_append, List.count_append, hnone .dispose nofun nofun, hreleases.2]
    rfl

variable [Device σ]

/-- Starting and stopping keep it so. -/
theorem turn {m : Move} {o : Outcome (Recorded σ)} (h : s.Attended direction)
    (hm : m = .start ∨ m = .stop) (hturn : Turn s m o) : o.stream.Attended direction := by
  cases hturn with
  | wrongState _ => exact h
  | nothingToDo _ => exact h
  | startFailed _ hstart =>
    exact h.body (Recorded.calls_perform hstart) (.inl rfl) h.holding
  | started _ hstart => exact h.body (Recorded.calls_perform hstart) (.inl rfl) rfl
  | stopFailed _ hstop => exact h.body (Recorded.calls_perform hstop) (.inr rfl) h.holding
  | stopped _ hstop => exact h.body (Recorded.calls_perform hstop) (.inr rfl) rfl
  -- Nothing else is a start or a stop.
  | _ => rcases hm with hm | hm <;> cases hm

theorem start (h : s.Attended direction) : s.start.stream.Attended direction :=
  h.turn (.inl rfl) (Turn.of_start s)

theorem stop (h : s.Attended direction) : s.stop.stream.Attended direction :=
  h.turn (.inr rfl) (Turn.of_stop s)

end Stream.Attended

end PcmStream
