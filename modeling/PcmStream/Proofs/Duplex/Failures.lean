/-
  No failure of the two devices of a session is lost, and none is reported twice.

  An operation on a session calls both devices in turn.  On the way up it begins with the input,
  goes on to the output, and comes back to the input if it has to undo what it did there; on the way
  down it begins with the output.  `callsAround`, `SessionMove.calls` and `Duplex.openCalls` put the
  records of the two devices together in this order.

  `failures_accounted` is the account of every operation on streams and sessions.  It has one
  exception.  A session whose render handler cannot serve an output is refused for that without the
  output device being called, but by then the input has been opened and has to be dropped again: the
  refusal is the result, and the failures of the drop are noted (`not_accounted_of_mismatch`).
-/
import PcmStream.Proofs.Duplex.Sessions
import PcmStream.Device.Scripted

namespace PcmStream

/-! ## More about accounts -/

theorem Noted.append {calls calls' : List CallRecord} {log log' : List Event} (h : Noted calls log)
    (h' : Noted calls' log') : Noted (calls ++ calls') (log ++ log') := by
  rw [Noted, List.filterMap_append, warned_append]
  exact List.Perm.append h h'

/-- An account without a failure is a note of all failures. -/
theorem Accounted.noted_of_clean {calls : List CallRecord} {result : Except StreamError Unit}
    {log : List Event} (h : Accounted calls result log) (hclean : errors calls = []) :
    Noted calls log := by
  cases h with
  | clean hcalls hresult hlog =>
    rw [noted_iff, hcalls, hlog]
    exact .refl _
  | failed first later hcalls =>
    rw [hclean] at hcalls
    cases hcalls

/-- An error that is not a device's is the result only if no call failed. -/
theorem Accounted.clean_of_status? {calls : List CallRecord} {error : StreamError}
    {log : List Event} (h : Accounted calls (.error error) log) (hstatus : error.status? = none) :
    errors calls = [] := by
  cases h with
  | clean hcalls hresult hlog => exact hcalls
  | failed first later hcalls hresult hlog =>
    cases hresult
    obtain ⟨status, hfirst⟩ := status?_of_mem_errors (hcalls ▸ List.mem_cons_self)
    rw [hstatus] at hfirst
    cases hfirst

variable {ι ο : Type}

/-- And if no call failed, the result is no error of a device. -/
theorem Accounted.status?_of_clean {calls : List CallRecord} {error : StreamError}
    {log : List Event} (h : Accounted calls (.error error) log) (hclean : errors calls = []) :
    error.status? = none := by
  cases h with
  | clean hcalls hresult hlog => exact hresult error rfl
  | failed first later hcalls =>
    rw [hclean] at hcalls
    cases hcalls

/-- An operation attempted on both streams accounts for the failures of its calls, if a failure of
the output that is not a call's leaves the calls of the input without failures. -/
theorem Duplex.accounted_both {d : Duplex (Recorded ι) (Recorded ο)}
    {output : Outcome (Recorded ο)} {input : Outcome (Recorded ι)} {calls calls' : List CallRecord}
    (ho : Accounted calls output.result output.log)
    (hi : Accounted calls' input.result input.log)
    (hclean : ∀ e, output.result = .error e → errors calls = [] → errors calls' = []) :
    Accounted (calls ++ calls') (d.both output input).result (d.both output input).log := by
  rw [both_eq]
  cases hresult : output.result with
  | ok =>
    rw [hresult] at ho
    simpa only [List.append_nil] using ho.append hi
  | error e =>
    rw [hresult] at ho
    have hnoted : Noted calls' (input.log ++ noteError .sessionFailedAgain input.result) :=
      hi.noted (warned_noteError (fun _ => rfl) _)
    exact ho.append_noted hnoted (hclean e hresult)

/-! ## The calls to two devices -/

/-- What was asked of two devices: of the input until it was as in the middle, of the output, and of
the input after that. -/
def callsAround (input middle input' : Recorded ι) (output output' : Recorded ο) :
    List CallRecord :=
  middle.since input ++ (output'.since output ++ input'.since middle)

variable [Device ι] [Device ο]

/-- The calls of an operation on a session, in order. -/
def SessionMove.calls (d : Duplex (Recorded ι) (Recorded ο)) (m : SessionMove) : List CallRecord :=
  let later := (m.run d).session
  match m with
  | start => callsAround d.input.device d.input.start.stream.device later.input.device
      d.output.device later.output.device
  | stop | close =>
    later.output.device.since d.output.device ++ later.input.device.since d.input.device

/-- The calls of the drop of a session, in order. -/
def Duplex.dropCalls (d : Duplex (Recorded ι) (Recorded ο)) : List CallRecord :=
  d.drop.1.1.since d.input.device ++ d.drop.1.2.since d.output.device

namespace DuplexOpened

/-- The result of opening a session. -/
def result : DuplexOpened ι ο → Except StreamError Unit
  | ok .. => .ok ()
  | failed error .. => .error error

/-- The input device afterwards. -/
def input : DuplexOpened ι ο → ι
  | ok d _ => d.input.device
  | failed _ input .. => input

/-- The output device afterwards. -/
def output : DuplexOpened ι ο → ο
  | ok d _ => d.output.device
  | failed _ _ output _ => output

/-- The events noted. -/
def log : DuplexOpened ι ο → List Event
  | ok _ log => log
  | failed _ _ _ log => log

end DuplexOpened

/-- The calls of the opening of a session, in order. -/
def Duplex.openCalls (input : Recorded ι) (output : Recorded ο) (request : DuplexRequest) :
    List CallRecord :=
  let opened := Duplex.open input output request
  callsAround input (openInput input request).stream.device opened.input output opened.output

namespace Duplex

variable {d : Duplex (Recorded ι) (Recorded ο)}

/-- Starting a session accounts for the failures of its calls. -/
theorem accounted_start (h : d.Paired) :
    Accounted (SessionMove.start.calls d) d.start.result d.start.log := by
  have hi := Turn.of_start d.input
  have ho := Turn.of_start d.output
  rw [SessionMove.calls]
  simp only [SessionMove.run, callsAround]
  rcases d.start_cases with ⟨e, hinput, heq⟩ | ⟨hinput, houtput, heq⟩ | ⟨e, hinput, houtput, heq⟩
  · rw [heq]
    have haccounted := hi.accounted
    rw [hinput] at haccounted
    simpa only [Recorded.since_self, List.append_nil] using haccounted
  · rw [heq]
    have haccounted := hi.accounted
    have haccounted' := ho.accounted
    rw [hinput] at haccounted
    rw [houtput] at haccounted'
    simpa only [Recorded.since_self, List.append_nil] using haccounted.append haccounted'
  · rw [heq]
    have haccounted := hi.accounted
    have haccounted' := ho.accounted
    rw [hinput] at haccounted
    rw [houtput] at haccounted'
    have hundone := Turn.of_stop d.input.start.stream
    refine haccounted.append (haccounted'.append_noted ?_ fun hclean => ?_)
    · exact hundone.accounted.noted (warned_noteError (fun _ => rfl) _)
    · -- An output that does not admit a start is closed, and then so is the input.
      obtain ⟨-, hm | ⟨⟨_, _, _, hm⟩, -⟩⟩ := ho.of_clean houtput hclean
      · have hclosed := State.closed_of_not_holding hm h.output
        rw [hi.eq_of_closed (h.closed_iff.mpr hclosed)] at hinput
        cases hinput
      · cases hm

theorem accounted_stop (h : d.Paired) :
    Accounted (SessionMove.stop.calls d) d.stop.result d.stop.log := by
  have hi := Turn.of_stop d.input
  have ho := Turn.of_stop d.output
  have hcalls : SessionMove.stop.calls d = d.output.stop.stream.device.since d.output.device ++
      d.input.stop.stream.device.since d.input.device := by
    simp only [SessionMove.calls, SessionMove.run, stop, both_eq]
  rw [hcalls]
  -- An output that refuses to stop without a call is closed, and the input with it.
  refine accounted_both ho.accounted hi.accounted fun e hresult hclean => ?_
  have hclosed : d.output.state = .closed := by
    obtain ⟨-, hm | ⟨⟨_, _, _, hm⟩, -⟩⟩ := ho.of_clean hresult hclean
    · exact State.closed_of_not_holding hm h.output
    · cases hm
  rw [hi.eq_of_closed (h.closed_iff.mpr hclosed), Recorded.since_self]
  rfl

theorem accounted_close (h : d.Paired) :
    Accounted (SessionMove.close.calls d) d.close.result d.close.log := by
  have hi := Turn.of_close d.input
  have ho := Turn.of_close d.output
  have hcalls : SessionMove.close.calls d = d.output.close.stream.device.since d.output.device ++
      d.input.close.stream.device.since d.input.device := by
    simp only [SessionMove.calls, SessionMove.run, close, both_eq]
  rw [hcalls]
  refine accounted_both ho.accounted hi.accounted fun e hresult hclean => ?_
  have hclosed : d.output.state = .closed := by
    obtain ⟨-, hm | ⟨⟨_, _, _, hm⟩, -⟩⟩ := ho.of_clean hresult hclean
    · simpa [Move.admitted] using hm
    · cases hm
  rw [hi.eq_of_closed (h.closed_iff.mpr hclosed), Recorded.since_self]
  rfl

/-- A drop notes all failures of its calls. -/
theorem noted_drop (d : Duplex (Recorded ι) (Recorded ο)) : Noted d.dropCalls d.drop.2 :=
  d.input.noted_drop.append d.output.noted_drop

/-- Opening a session accounts for the failures of its calls, unless the handler of the output does
not serve it; then they are noted. -/
theorem accounted_open (input : Recorded ι) (output : Recorded ο) (request : DuplexRequest) :
    let opened := Duplex.open input output request
    (opened.result ≠ .error (.handlerMismatch .output) →
      Accounted (openCalls input output request) opened.result opened.log) ∧
    (opened.result = .error (.handlerMismatch .output) →
      Noted (openCalls input output request) opened.log) := by
  have hi : Turn _ _ (openInput input request) := .of_configure _ _ _ _
  have ho : Turn _ _ (openOutput output request) := .of_configure _ _ _ _
  have hmiddle : (openInput input request).stream.device.calls <+:
      (openInput input request).stream.drop.1.calls := Stream.calls_of_drop _
  have hdrop := (openInput input request).stream.noted_drop
  rw [openCalls]
  rcases open_cases input output request with
    ⟨e, hinput, heq⟩ | ⟨hinput, houtput, heq⟩ | ⟨e, hinput, houtput, heq⟩
  · rw [heq]
    have haccounted : Accounted (callsAround input (openInput input request).stream.device
        (openInput input request).stream.drop.1 output output) (.error e)
        ((openInput input request).log ++ (openInput input request).stream.drop.2) := by
      rw [callsAround, Recorded.since_self, List.nil_append,
        ← Recorded.since_append (Stream.calls_of_turn hi) hmiddle]
      exact hi.accounted_dropped rfl hinput
    refine ⟨fun _ => haccounted, fun hmismatch => haccounted.noted_of_clean ?_⟩
    cases hmismatch
    exact haccounted.clean_of_status? rfl
  · rw [heq]
    have haccounted := hi.accounted
    have haccounted' := ho.accounted
    rw [hinput] at haccounted
    rw [houtput] at haccounted'
    refine ⟨fun _ => ?_, nofun⟩
    simpa only [callsAround, DuplexOpened.input, DuplexOpened.output, DuplexOpened.result,
      DuplexOpened.log, Recorded.since_self, List.append_nil] using haccounted.append haccounted'
  · rw [heq]
    have haccounted := hi.accounted
    rw [hinput] at haccounted
    have haccounted' := ho.accounted_dropped rfl houtput
    constructor
    · intro hmismatch
      refine haccounted.append (haccounted'.append_noted hdrop fun hclean => ?_)
      -- Without a failing call the output was refused for its handler, which is excluded here.
      obtain ⟨-, hm | ⟨-, rfl⟩⟩ :=
        ho.of_status?_eq_none houtput (haccounted'.status?_of_clean hclean)
      · cases hm
      · exact absurd rfl hmismatch
    · intro hmismatch
      cases hmismatch
      have hclean := haccounted'.clean_of_status? rfl
      refine (haccounted.noted_of_clean haccounted.of_ok.1).append ?_
      exact (haccounted'.noted_of_clean hclean).append hdrop

/-- An operation on an open session accounts for the failures of its calls. -/
theorem accounted_run (h : d.Paired) (m : SessionMove) :
    Accounted (m.calls d) (m.run d).result (m.run d).log := by
  cases m with
  | start => exact accounted_start h
  | stop => exact accounted_stop h
  | close => exact accounted_close h

end Duplex

/-! ## The account of every operation -/

/-- No failure is lost or reported twice.  For a stream over any device, in any state, and for a
session over any two devices, after any operations: if a call of the operation fails, then the error
of the first such call is the result, and the statuses of the others are noted by warnings, one
each; if none fails, no error of a device is returned or noted.  A drop, which returns nothing,
notes all failures.  The one exception is an opening that is refused for the handler of the output:
it notes all failures too.  What notes a failure is a warning whose text ends with the status. -/
theorem failures_accounted {σ : Type} [Device σ] :
    (∀ (s : Stream (Recorded σ)) (m : Move),
      Accounted ((m.run s).stream.device.since s.device) (m.run s).result (m.run s).log) ∧
    (∀ s : Stream (Recorded σ), Noted (s.drop.1.since s.device) s.drop.2) ∧
    (∀ (device : Recorded σ) direction requested handler options,
      let opened := Stream.open device direction requested handler options
      Accounted (opened.device.since device) opened.result opened.log) ∧
    (∀ (input : Recorded ι) (output : Recorded ο) (request : DuplexRequest),
      let opened := Duplex.open input output request
      (opened.result ≠ .error (.handlerMismatch .output) →
        Accounted (Duplex.openCalls input output request) opened.result opened.log) ∧
      (opened.result = .error (.handlerMismatch .output) →
        Noted (Duplex.openCalls input output request) opened.log) ∧
      ∀ d log, opened = .ok d log → ∀ moves : List SessionMove,
        (∀ m : SessionMove, Accounted (m.calls (d.after moves)) (m.run (d.after moves)).result
          (m.run (d.after moves)).log) ∧
        Noted (d.after moves).dropCalls (d.after moves).drop.2) ∧
    (∀ (e : Event) (status : Status), e.status? = some status →
      e.level = .warn ∧ ∃ name text, e.fields = [(name, .text (text ++ status.message))]) := by
  refine ⟨fun s m => (m.turn s).accounted, fun s => s.noted_drop, Stream.accounted_open, ?_,
    fun e status h => e.warning_of_status? h⟩
  intro input output request opened
  obtain ⟨haccounted, hnoted⟩ := Duplex.accounted_open input output request
  refine ⟨haccounted, hnoted, fun d log hopened moves => ?_⟩
  have hpaired := (Duplex.paired_of_open hopened).after moves
  exact ⟨Duplex.accounted_run hpaired, Duplex.noted_drop _⟩

/-- A device that cannot be torn down. -/
def stuck : Recorded ScriptedDevice := ⟨{ script := { fail := [(.tearDown, ⟨-5⟩)] } }, []⟩

/-- A session whose render handler captures: the input is opened and dropped again, its failure is
the first one of all calls, and the result is another. -/
theorem not_accounted_of_mismatch :
    let request : DuplexRequest := { render := .capture (.queue 0) }
    let opened := Duplex.open stuck stuck request
    opened.result = .error (.handlerMismatch .output) ∧
      errors (Duplex.openCalls stuck stuck request) = [.device .close ⟨-5⟩] ∧
      ¬ Accounted (Duplex.openCalls stuck stuck request) opened.result opened.log := by
  intro request opened
  have hresult : opened.result = .error (.handlerMismatch .output) := rfl
  have herrors : errors (Duplex.openCalls stuck stuck request) = [.device .close ⟨-5⟩] := by
    decide
  refine ⟨hresult, herrors, fun h => ?_⟩
  rw [hresult] at h
  have hclean := h.clean_of_status? rfl
  rw [herrors] at hclean
  cases hclean

end PcmStream
