/-
  No failure of a device is lost, and none is reported twice.

  Every call that fails has an error that it is reported as (`CallRecord.error?`), and every event
  that notes a failure has the status of it (`Event.status?`).  Two relations compare the calls of
  an operation with what the operation made of them:

    Accounted calls result log    the first failure is the result, and the events note the others,
                                  one event each; without a failure there is nothing of the kind
    Noted calls log               the events note all failures, one event each

  `Turn.accounted` is the first one for every move, `Stream.noted_drop` the second one for the drop.
  The rest is composition: when one operation follows another, and the first one went well or failed
  already, their accounts can be put together (`Accounted.append`, `Accounted.append_noted`).
-/
import PcmStream.Proofs.Stream.Protocol

namespace PcmStream

/-! ## Failures and where they turn up -/

/-- The status of the failure that an event notes, if it notes one. -/
def Event.status? : Event → Option Status
  | releaseFailed status => some status
  | closeFailedAgain error | dropFailed error | rollbackFailed error | sessionFailedAgain error =>
    error.status?
  | negotiated .. | started _ | stopped _ | closed _ => none

/-- The operation that a failed call is reported under. -/
def DeviceCall.operation : DeviceCall → Operation
  | acquire .. | parameters | register _ => .open
  | start => .start
  | stop => .stop
  | tearDown | dispose => .close

/-- The error that a call is reported as, if it failed. -/
def CallRecord.error? (r : CallRecord) : Option StreamError :=
  r.failure.map fun status =>
    match r.call with
    | .request q => .negotiation ⟨q.step, status⟩
    | .device c => .device c.operation status

/-- The errors of the calls that failed, in order. -/
def errors (calls : List CallRecord) : List StreamError := calls.filterMap CallRecord.error?

/-- The statuses that errors report. -/
def statuses (errors : List StreamError) : List Status := errors.filterMap StreamError.status?

/-- The statuses of the failures that events note. -/
def warned (log : List Event) : List Status := log.filterMap Event.status?

/-- An event that notes a failure is a warning, and its text ends with the status. -/
theorem Event.warning_of_status? {e : Event} {status : Status} (h : e.status? = some status) :
    e.level = .warn ∧ ∃ name text, e.fields = [(name, .text (text ++ status.message))] := by
  have htext : ∀ {error : StreamError}, error.status? = some status →
      ∃ text, error.message = text ++ status.message := by
    intro error herror
    cases error with
    | negotiation error =>
      cases herror
      exact ⟨_, (String.append_assoc ..).symm⟩
    | device operation status =>
      cases herror
      exact ⟨_, rfl⟩
    | state operation state => cases herror
    | handlerMismatch direction => cases herror
    | notAvailable => cases herror
  cases e with
  | negotiated direction config => cases h
  | started direction => cases h
  | stopped direction => cases h
  | closed direction => cases h
  | releaseFailed status =>
    cases h
    exact ⟨rfl, "status", "", by rw [String.empty_append]; rfl⟩
  | closeFailedAgain error =>
    obtain ⟨text, hmessage⟩ := htext h
    exact ⟨rfl, "error", text, by rw [← hmessage]; rfl⟩
  | dropFailed error =>
    obtain ⟨text, hmessage⟩ := htext h
    exact ⟨rfl, "error", text, by rw [← hmessage]; rfl⟩
  | rollbackFailed error =>
    obtain ⟨text, hmessage⟩ := htext h
    exact ⟨rfl, "error", text, by rw [← hmessage]; rfl⟩
  | sessionFailedAgain error =>
    obtain ⟨text, hmessage⟩ := htext h
    exact ⟨rfl, "error", text, by rw [← hmessage]; rfl⟩

/-- An error reports the status of the call. -/
theorem CallRecord.status?_error? (r : CallRecord) :
    r.error?.bind StreamError.status? = r.failure := by
  obtain ⟨call, _ | status⟩ := r
  · rfl
  · cases call <;> rfl

/-- The errors of failed calls report exactly their statuses. -/
theorem statuses_errors (calls : List CallRecord) :
    statuses (errors calls) = calls.filterMap CallRecord.failure := by
  rw [statuses, errors, List.filterMap_filterMap]
  exact congrArg (calls.filterMap ·) (funext CallRecord.status?_error?)

/-- So each of them reports one. -/
theorem status?_of_mem_errors {calls : List CallRecord} {error : StreamError}
    (h : error ∈ errors calls) : ∃ status, error.status? = some status := by
  obtain ⟨⟨call, failure⟩, -, herror⟩ := List.mem_filterMap.mp h
  cases failure with
  | none => cases herror
  | some status =>
    refine ⟨status, ?_⟩
    have hstatus := CallRecord.status?_error? ⟨call, some status⟩
    rwa [herror] at hstatus

theorem errors_append (xs ys : List CallRecord) : errors (xs ++ ys) = errors xs ++ errors ys :=
  List.filterMap_append

theorem statuses_append (xs ys : List StreamError) :
    statuses (xs ++ ys) = statuses xs ++ statuses ys := List.filterMap_append

theorem warned_append (xs ys : List Event) : warned (xs ++ ys) = warned xs ++ warned ys :=
  List.filterMap_append

/-- The status that a result reports, if it is an error that reports one. -/
def reported : Except StreamError Unit → List Status
  | .ok () => []
  | .error error => error.status?.toList

/-! ## Accounts -/

/-- The events note every failure among the calls, one event each. -/
def Noted (calls : List CallRecord) (log : List Event) : Prop :=
  (warned log).Perm (calls.filterMap CallRecord.failure)

theorem noted_iff {calls : List CallRecord} {log : List Event} :
    Noted calls log ↔ (warned log).Perm (statuses (errors calls)) := by
  rw [Noted, statuses_errors]

/-- The result is the first failure among the calls, and the events note every other, one event
each.  Without a failure, neither the result nor an event reports one. -/
inductive Accounted (calls : List CallRecord) (result : Except StreamError Unit)
    (log : List Event) : Prop
  /-- No call failed. -/
  | clean (hcalls : errors calls = []) (hresult : ∀ e, result = .error e → e.status? = none)
      (hlog : warned log = [])
  /-- A call failed. -/
  | failed (first : StreamError) (later : List StreamError) (hcalls : errors calls = first :: later)
      (hresult : result = .error first) (hlog : (warned log).Perm (statuses later))

namespace Accounted

variable {calls calls' : List CallRecord} {result result' : Except StreamError Unit}
  {log log' : List Event}

/-- Nothing is asked and nothing noted. -/
theorem nothing (hresult : ∀ e, result = .error e → e.status? = none) : Accounted [] result [] :=
  .clean rfl hresult rfl

/-- If all went well then no call failed, and no event says so. -/
theorem of_ok (h : Accounted calls (.ok ()) log) : errors calls = [] ∧ warned log = [] := by
  cases h with
  | clean hcalls hresult hlog => exact ⟨hcalls, hlog⟩
  | failed first later hcalls hresult => cases hresult

/-- What follows an operation that went well is accounted for by itself. -/
theorem append (h : Accounted calls (.ok ()) log) (h' : Accounted calls' result' log') :
    Accounted (calls ++ calls') result' (log ++ log') := by
  obtain ⟨hcalls, hlog⟩ := h.of_ok
  cases h' with
  | clean hcalls' hresult' hlog' =>
    refine .clean ?_ hresult' ?_
    · rw [errors_append, hcalls, hcalls', List.append_nil]
    · rw [warned_append, hlog, hlog', List.append_nil]
  | failed first later hcalls' hresult' hlog' =>
    refine .failed first later ?_ hresult' ?_
    · rw [errors_append, hcalls, hcalls', List.nil_append]
    · rw [warned_append, hlog, List.nil_append]
      exact hlog'

/-- What follows an operation that failed has to be noted; if no call of the operation failed, then
there must be nothing to note. -/
theorem append_noted (h : Accounted calls result log) (h' : Noted calls' log')
    (hclean : errors calls = [] → errors calls' = []) :
    Accounted (calls ++ calls') result (log ++ log') := by
  rw [noted_iff] at h'
  cases h with
  | clean hcalls hresult hlog =>
    rw [hclean hcalls] at h'
    refine .clean ?_ hresult ?_
    · rw [errors_append, hcalls, hclean hcalls, List.append_nil]
    · rw [warned_append, hlog, List.nil_append]
      exact List.Perm.eq_nil h'
  | failed first later hcalls hresult hlog =>
    refine .failed first (later ++ errors calls') ?_ hresult ?_
    · rw [errors_append, hcalls]
      rfl
    · rw [warned_append, statuses_append]
      exact hlog.append h'

/-- An operation is noted as a whole if its error is noted besides. -/
theorem noted {extra : List Event} (h : Accounted calls result log)
    (hextra : warned extra = reported result) : Noted calls (log ++ extra) := by
  rw [noted_iff, warned_append, hextra]
  cases h with
  | clean hcalls hresult hlog =>
    rw [hcalls, hlog]
    cases result with
    | ok => exact .refl _
    | error e =>
      rw [reported, hresult e rfl]
      exact .refl _
  | failed first later hcalls hresult hlog =>
    have hfirst : first ∈ errors calls := by
      rw [hcalls]
      exact List.mem_cons_self
    obtain ⟨status, hstatus⟩ := status?_of_mem_errors hfirst
    have hreported : reported result = [status] := by
      rw [hresult, reported, hstatus]
      rfl
    have hstatuses : statuses (errors calls) = [status] ++ statuses later := by
      rw [hcalls, statuses, List.filterMap_cons, hstatus]
      rfl
    rw [hreported, hstatuses]
    exact (hlog.append_right [status]).trans List.perm_append_comm

end Accounted

/-! ## Moves -/

theorem errors_granted (call : AnyCall) (calls : List CallRecord) :
    errors (call.granted :: calls) = errors calls := rfl

theorem errors_requests (list : List Request) :
    errors (list.map fun q => AnyCall.granted (.request q)) = [] := by
  induction list with
  | nil => rfl
  | cons q list ih => exact ih

/-- A negotiation that fails has one failing call. -/
theorem FailedSettling.errors_eq {asked : List CallRecord} {error : StreamError}
    (h : FailedSettling asked error) : errors asked = [error] := by
  cases h with
  | parameters status => rfl
  | request requested before q rest status hplan =>
    rw [errors_granted, errors_append, errors_requests]
    rfl

/-- The errors of the calls of a cleanup are its failures. -/
theorem errors_eq_failures {c : DeviceCall} {result : Except Status Unit}
    {calls : List CallRecord} {outcomes : List (Operation × Except Status Unit)}
    (h : errors calls = failures outcomes) :
    errors (⟨.device c, failure? result⟩ :: calls) =
      failures ((c.operation, result) :: outcomes) := by
  cases result with
  | error status =>
    show StreamError.device c.operation status :: errors calls = _
    rw [h]
    rfl
  | ok => exact h

/-- A cleanup returns its first failure and notes the others. -/
theorem Accounted.of_failures {calls : List CallRecord}
    {outcomes : List (Operation × Except Status Unit)} (h : errors calls = failures outcomes)
    (direction : Direction) :
    Accounted calls (firstFailure (failures outcomes))
      ((failures outcomes).tail.map .closeFailedAgain ++ [.closed direction]) := by
  have hnoted : ∀ list : List StreamError, warned (list.map .closeFailedAgain) = statuses list := by
    intro list
    rw [warned, statuses, List.filterMap_map]
    rfl
  cases hfailures : failures outcomes with
  | nil => exact .clean (h.trans hfailures) nofun rfl
  | cons first later =>
    refine .failed first later (h.trans hfailures) rfl ?_
    rw [warned_append, List.tail_cons, hnoted]
    exact .of_eq (List.append_nil _)

variable {σ : Type} [Device σ]

/-- Every move accounts for the failures of its calls. -/
theorem Turn.accounted {s : Stream (Recorded σ)} {m : Move} {o : Outcome (Recorded σ)}
    (h : Turn s m o) : Accounted (o.stream.device.since s.device) o.result o.log := by
  cases h with
  | wrongState hm =>
    rw [Recorded.since_self]
    exact .nothing fun e he => by cases he; rfl
  | mismatch hs hh =>
    rw [Recorded.since_self]
    exact .nothing fun e he => by cases he; rfl
  | nothingToDo hm =>
    rw [Recorded.since_self]
    exact .nothing nofun
  | abandoned hs =>
    rw [Recorded.since_self]
    exact .nothing nofun
  | refused hs hh hacquire =>
    rw [Recorded.since_eq (Recorded.calls_perform hacquire)]
    exact .failed _ [] rfl rfl .rfl
  | @unsettled _ _ options error released acquired failed device hs hh hacquire hsettle hdispose =>
    obtain ⟨asked, hasked, hfailed⟩ := Stream.calls_negotiate_error hsettle
    rw [Recorded.since_eq (Stream.calls_unsettled hacquire hfailed hdispose)]
    -- The negotiation comes first; if disposing fails as well, the event has the status of that.
    refine .failed error (failures [(.close, released)]) ?_ rfl ?_
    · rw [errors_granted, errors_append, hasked.errors_eq]
      cases released <;> rfl
    · cases released <;> exact .rfl
  | @configured requested handler options config registered acquired settled device hs hh hacquire
      hsettle hregister =>
    rw [Recorded.since_eq (Stream.calls_configured hacquire hsettle hregister)]
    cases registered with
    | ok => exact .clean rfl nofun rfl
    | error status => exact .failed (.device .open status) [] rfl rfl .rfl
  | startFailed hs hstart =>
    rw [Recorded.since_eq (Recorded.calls_perform hstart)]
    exact .failed _ [] rfl rfl .rfl
  | started hs hstart =>
    rw [Recorded.since_eq (Recorded.calls_perform hstart)]
    exact .clean rfl nofun rfl
  | stopFailed hs hstop =>
    rw [Recorded.since_eq (Recorded.calls_perform hstop)]
    exact .failed _ [] rfl rfl .rfl
  | stopped hs hstop =>
    rw [Recorded.since_eq (Recorded.calls_perform hstop)]
    exact .clean rfl nofun rfl
  | @closedIdle torn released tornDown device hs htear hdispose =>
    rw [Recorded.since_eq (Stream.calls_released htear hdispose)]
    exact .of_failures (errors_eq_failures (errors_eq_failures rfl)) s.direction
  | @closedBusy halted torn released quiet tornDown device hs hstop htear hdispose =>
    have hcalls : device.calls = s.device.calls ++ [⟨.device .stop, failure? halted⟩,
        ⟨.device .tearDown, failure? torn⟩, ⟨.device .dispose, failure? released⟩] := by
      rw [Stream.calls_released htear hdispose, Recorded.calls_perform hstop, List.append_assoc]
      rfl
    rw [Recorded.since_eq hcalls]
    exact .of_failures (errors_eq_failures (errors_eq_failures (errors_eq_failures rfl)))
      s.direction

/-! ## Dropping and opening -/

/-- The event that notes the error of a result, if it is one. -/
def noteError (event : StreamError → Event) : Except StreamError Unit → List Event
  | .ok () => []
  | .error e => [event e]

theorem warned_noteError {event : StreamError → Event} (hevent : ∀ e, (event e).status? = e.status?)
    (result : Except StreamError Unit) : warned (noteError event result) = reported result := by
  cases result with
  | ok => rfl
  | error e =>
    show [event e].filterMap Event.status? = e.status?.toList
    rw [List.filterMap_cons, hevent]
    cases e.status? <;> rfl

namespace Stream

/-- Dropping a stream that is not closed closes it and notes the error. -/
theorem drop_eq {s : Stream σ} (hs : s.state ≠ .closed) :
    s.drop = (s.close.stream.device, s.close.log ++ noteError .dropFailed s.close.result) := by
  rw [drop]
  split
  · next hclosed => exact absurd hclosed hs
  · cases hresult : s.close.result with
    | ok => simp only [hresult, noteError, List.append_nil]
    | error e => simp only [hresult, noteError]

/-- A drop notes all failures of its calls. -/
theorem noted_drop (s : Stream (Recorded σ)) : Noted (s.drop.1.since s.device) s.drop.2 := by
  by_cases hs : s.state = .closed
  · have hdrop : s.drop = (s.device, []) := by
      rw [drop]
      simp only [hs]
    rw [hdrop, Recorded.since_self]
    exact .refl _
  · rw [drop_eq hs]
    exact (Turn.of_close s).accounted.noted (warned_noteError (fun _ => rfl) _)

/-- The calls to a device only ever grow in number. -/
theorem calls_of_turn {s : Stream (Recorded σ)} {m : Move} {o : Outcome (Recorded σ)}
    (h : Turn s m o) : s.device.calls <+: o.stream.device.calls := by
  refine h.preserves (P := fun d => s.device.calls <+: d.calls) ?_ ?_ (List.prefix_refl _)
  · intro c d hd
    exact hd.trans (List.prefix_append _ _)
  · intro q d hd
    exact hd.trans (List.prefix_append _ _)

theorem calls_of_drop (s : Stream (Recorded σ)) : s.device.calls <+: s.drop.1.calls := by
  rw [drop_device]
  split
  · exact List.prefix_refl _
  · exact calls_of_turn (Turn.of_close s)

end Stream

namespace Opened

/-- The result of opening a stream. -/
def result : Opened σ → Except StreamError Unit
  | ok .. => .ok ()
  | failed error .. => .error error

/-- The device afterwards. -/
def device : Opened σ → σ
  | ok stream _ => stream.device
  | failed _ device _ => device

/-- The events noted. -/
def log : Opened σ → List Event
  | ok _ log => log
  | failed _ _ log => log

end Opened

/-- Dropping a created stream makes no call and notes nothing. -/
theorem Stream.drop_created {s : Stream σ} (hs : s.state = .created) : s.drop = (s.device, []) := by
  have hne : s.state ≠ .closed := by
    rw [hs]
    exact nofun
  rw [drop_eq hne]
  have hturn := Turn.of_close s
  generalize s.close = o at hturn
  cases hturn with
  | abandoned hcreated => rfl
  | wrongState hm => rw [hs] at hm; cases hm
  | nothingToDo hm => cases hm
  | closedIdle hidle => rw [hs] at hidle; rcases hidle with hidle | hidle <;> cases hidle
  | closedBusy hstarted => rw [hs] at hstarted; cases hstarted

/-- A move that fails without a call of it failing changes nothing: the state does not admit it, or
the handler does not serve the direction. -/
theorem Turn.of_clean {s : Stream (Recorded σ)} {m : Move} {o : Outcome (Recorded σ)}
    {error : StreamError} (h : Turn s m o) (hresult : o.result = .error error)
    (hclean : errors (o.stream.device.since s.device) = []) :
    o.stream = s ∧ (m.admitted s.state = false ∨
      (∃ requested handler options, m = .configure requested handler options) ∧
        error = .handlerMismatch s.direction) := by
  have haccounted := h.accounted
  cases haccounted with
  | clean hcalls hstatus hlog => exact h.of_status?_eq_none hresult (hstatus error hresult)
  | failed first later hcalls =>
    rw [hclean] at hcalls
    cases hcalls

/-- A configuration that fails, and the drop of its stream, account for the failures of both. -/
theorem Turn.accounted_dropped {s : Stream (Recorded σ)} {m : Move} {o : Outcome (Recorded σ)}
    {error : StreamError} (h : Turn s m o) (hs : s.state = .created)
    (hresult : o.result = .error error) :
    Accounted (o.stream.drop.1.since s.device) (.error error) (o.log ++ o.stream.drop.2) := by
  rw [Recorded.since_append (Stream.calls_of_turn h) o.stream.calls_of_drop, ← hresult]
  -- If no call of the move failed, the stream is as it was made, and its drop makes no call.
  refine h.accounted.append_noted o.stream.noted_drop fun hclean => ?_
  obtain ⟨hstream, -⟩ := h.of_clean hresult hclean
  rw [hstream, Stream.drop_created hs, Recorded.since_self]
  rfl

/-- Opening a stream accounts for the failures of its calls. -/
theorem Stream.accounted_open (device : Recorded σ) (direction : Direction)
    (requested : StreamConfig) (handler : Handler) (options : Options) :
    let opened := Stream.open device direction requested handler options
    Accounted (opened.device.since device) opened.result opened.log := by
  have hturn := Turn.of_configure ({ device, direction } : Stream (Recorded σ)) requested handler
    options
  cases hresult : (({ device, direction } : Stream (Recorded σ)).configure requested handler
      options).result with
  | ok =>
    simp only [Stream.open, hresult]
    have haccounted := hturn.accounted
    rw [hresult] at haccounted
    exact haccounted
  | error e =>
    simp only [Stream.open, hresult]
    exact hturn.accounted_dropped rfl hresult

end PcmStream
