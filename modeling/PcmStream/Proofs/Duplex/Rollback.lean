/-
  Starting a session rolls back, and stopping it reaches both halves.

    program         `Duplex.start` and `Duplex.stop`, in any state that a session gets into without
                    being closed; a stop that failed may have left one half started and one not
    specification   `RolledBack`, a start whose output failed: the output is as it was, and the
                    input is stopped, or else it goes on and a warning says so; `Stream.Halts`, a
                    stop of one half: the device is called if the half is started, and it alone
                    decides
    crux            a half that has its device comes out of a start either started or as it was
                    (`Turn.of_start_holding`), and out of a stop as its own device says
                    (`Turn.halts`), whatever the other half is like
-/
import PcmStream.Proofs.Duplex.Failures

namespace PcmStream

/-- The events that are warnings. -/
def warnings (log : List Event) : List Event := log.filter fun e => e.level = .warn

theorem warnings_append (xs ys : List Event) :
    warnings (xs ++ ys) = warnings xs ++ warnings ys := List.filter_append ..

theorem State.holding_of_ne {state : State} (hcreated : state ≠ .created)
    (hclosed : state ≠ .closed) : state.holding = true := by
  cases state with
  | created => exact absurd rfl hcreated
  | closed => exact absurd rfl hclosed
  | configured => rfl
  | started => rfl
  | stopped => rfl

/-! ## One half -/

section Half

variable {σ : Type} [Device σ] {s : Stream σ} {o : Outcome σ}

/-- Starting a half that has its device starts it or leaves its state as it is, as the result says,
and warns of nothing. -/
theorem Turn.of_start_holding (h : Turn s .start o) (hs : s.state.holding = true) :
    (o.result = .ok () → o.stream.state = .started) ∧
      (∀ e, o.result = .error e → o.stream.state = s.state) ∧ warnings o.log = [] := by
  cases h with
  | wrongState hm =>
    have hadmitted : Move.start.admitted s.state = true := hs
    rw [hadmitted] at hm
    cases hm
  | nothingToDo hm =>
    have hstarted : s.state = .started := by simpa [Move.pointless] using hm
    exact ⟨fun _ => hstarted, fun _ _ => rfl, rfl⟩
  | startFailed _ hstart => exact ⟨nofun, fun _ _ => rfl, rfl⟩
  | started _ hstart => exact ⟨fun _ => rfl, nofun, rfl⟩

/-- What stopping does to one half of a session.  Its own device decides, and nothing else. -/
structure Stream.Halts (s s' : Stream σ) : Prop where
  /-- A half that is not started is left alone, and so is its device. -/
  idle : s.state ≠ .started → s' = s
  /-- The device of one that is started is asked to stop, and for nothing besides. -/
  device : s.state = .started → s'.device = (Device.perform .stop s.device).2
  /-- The half is stopped if its device stops, and then only. -/
  stopped_iff : s.state = .started →
    (s'.state = .stopped ↔ (Device.perform .stop s.device).1 = .ok ())
  /-- Otherwise it stays started. -/
  started : s.state = .started → (Device.perform .stop s.device).1 ≠ .ok () → s'.state = .started

/-- Stopping a half that has its device halts it, succeeds if and only if the half is not started
afterwards, and warns of nothing. -/
theorem Turn.halts (h : Turn s .stop o) (hs : s.state.holding = true) :
    s.Halts o.stream ∧ (o.result = .ok () ↔ o.stream.state ≠ .started) ∧ warnings o.log = [] := by
  cases h with
  | wrongState hm =>
    have hadmitted : Move.stop.admitted s.state = true := hs
    rw [hadmitted] at hm
    cases hm
  | nothingToDo hm =>
    have hidle : s.state ≠ .started := by
      intro hstarted
      rw [hstarted] at hm
      cases hm
    exact ⟨⟨fun _ => rfl, fun h => absurd h hidle, fun h => absurd h hidle,
      fun h => absurd h hidle⟩, ⟨fun _ => hidle, fun _ => rfl⟩, rfl⟩
  | stopFailed hstarted hstop =>
    refine ⟨⟨?_, ?_, ?_, fun _ _ => hstarted⟩, ⟨nofun, fun hidle => absurd hstarted hidle⟩, rfl⟩
    · exact fun hidle => absurd hstarted hidle
    · intro _
      rw [hstop]
    · intro _
      rw [hstop]
      refine ⟨fun hstopped => ?_, nofun⟩
      have hboth : s.state = .stopped := hstopped
      rw [hstarted] at hboth
      cases hboth
  | stopped hstarted hstop =>
    refine ⟨⟨?_, ?_, ?_, ?_⟩, ⟨fun _ => nofun, fun _ => rfl⟩, rfl⟩
    · exact fun hidle => absurd hstarted hidle
    · intro _
      rw [hstop]
    · intro _
      rw [hstop]
      exact ⟨fun _ => rfl, fun _ => rfl⟩
    · intro _ hfailed
      rw [hstop] at hfailed
      exact absurd rfl hfailed

/-- If the device of a started half does not stop, its status is the result. -/
theorem Turn.error_of_stop {status : Status} (h : Turn s .stop o) (hs : s.state = .started)
    (hstop : (Device.perform .stop s.device).1 = .error status) :
    o.result = .error (.device .stop status) := by
  cases h with
  | wrongState hm => rw [hs] at hm; cases hm
  | nothingToDo hm => rw [hs] at hm; cases hm
  | stopFailed _ hfailed =>
    rw [hfailed] at hstop
    cases hstop
    rfl
  | stopped _ hstopped =>
    rw [hstopped] at hstop
    cases hstop

end Half

/-! ## Both halves -/

variable {ι ο : Type}

/-- The streams of a session that is not closed have their devices. -/
theorem Duplex.Paired.holding {d : Duplex ι ο} (h : d.Paired) (hopen : d.input.state ≠ .closed) :
    d.input.state.holding = true ∧ d.output.state.holding = true := by
  refine ⟨State.holding_of_ne h.input hopen, State.holding_of_ne h.output ?_⟩
  exact fun hclosed => hopen (h.closed_iff.mpr hclosed)

variable [Device ι] [Device ο]

/-- What a start leaves behind whose output failed with an error. -/
structure RolledBack (d : Duplex ι ο) (o : DuplexOutcome ι ο) (error : StreamError) : Prop where
  /-- The error is the result. -/
  result : o.result = .error error
  /-- The output is in the state that it was in. -/
  output : o.session.output.state = d.output.state
  /-- The device of the input has been asked to stop. -/
  device : o.session.input.device = (Device.perform .stop d.input.start.stream.device).2
  /-- If it stops then so does the input, and there is nothing to warn of. -/
  stopped : (Device.perform .stop d.input.start.stream.device).1 = .ok () →
    o.session.input.state = .stopped ∧ warnings o.log = []
  /-- If it does not, the input stays started and a warning says so. -/
  stuck : ∀ status, (Device.perform .stop d.input.start.stream.device).1 = .error status →
    o.session.input.state = .started ∧
      warnings o.log = [.rollbackFailed (.device .stop status)]

namespace Duplex

variable {d : Duplex ι ο}

/-- A start succeeds if both halves start. -/
theorem start_of_ok (hinput : d.input.start.result = .ok ())
    (houtput : d.output.start.result = .ok ()) : d.start.result = .ok () := by
  rcases d.start_cases with ⟨e, hfailed, -⟩ | ⟨-, -, heq⟩ | ⟨e, -, hfailed, -⟩
  · rw [hinput] at hfailed
    cases hfailed
  · rw [heq]
  · rw [houtput] at hfailed
    cases hfailed

/-- A start that succeeds starts both halves. -/
theorem started_of_start (hi : d.input.state.holding = true) (ho : d.output.state.holding = true)
    (hok : d.start.result = .ok ()) :
    d.start.session.input.state = .started ∧ d.start.session.output.state = .started := by
  rcases d.start_cases with ⟨e, -, heq⟩ | ⟨hinput, houtput, heq⟩ | ⟨e, -, -, heq⟩
  · rw [heq] at hok
    cases hok
  · rw [heq]
    exact ⟨((Turn.of_start d.input).of_start_holding hi).1 hinput,
      ((Turn.of_start d.output).of_start_holding ho).1 houtput⟩
  · rw [heq] at hok
    cases hok

/-- If the input fails to start, it keeps its state, and nothing is done to the output. -/
theorem start_of_input_error {e : StreamError} (hi : d.input.state.holding = true)
    (hinput : d.input.start.result = .error e) :
    d.start.result = .error e ∧ d.start.session.input.state = d.input.state ∧
      d.start.session.output = d.output := by
  rcases d.start_cases with ⟨e, hfailed, heq⟩ | ⟨hok, -, -⟩ | ⟨e, hok, -, -⟩
  · rw [heq]
    rw [hfailed] at hinput
    exact ⟨hinput, ((Turn.of_start d.input).of_start_holding hi).2.1 e hfailed, rfl⟩
  · rw [hinput] at hok
    cases hok
  · rw [hinput] at hok
    cases hok

/-- If the output fails to start, the input is rolled back. -/
theorem rolledBack_of_start {e : StreamError} (hi : d.input.state.holding = true)
    (ho : d.output.state.holding = true) (hinput : d.input.start.result = .ok ())
    (houtput : d.output.start.result = .error e) : RolledBack d d.start e := by
  obtain ⟨hstarted, -, hquiet⟩ := (Turn.of_start d.input).of_start_holding hi
  obtain ⟨-, hkept, hquiet'⟩ := (Turn.of_start d.output).of_start_holding ho
  have hstate : d.input.start.stream.state = .started := hstarted hinput
  -- The input is started now, whether it was before or not, and has to be stopped.
  have hundone := Turn.of_stop d.input.start.stream
  have hholding : d.input.start.stream.state.holding = true := by
    rw [hstate]
    rfl
  obtain ⟨hhalts, hresult, hquiet''⟩ := hundone.halts hholding
  rcases d.start_cases with ⟨e', hbad, -⟩ | ⟨-, hbad, -⟩ | ⟨e', -, hfailed, heq⟩
  · rw [hinput] at hbad
    cases hbad
  · rw [houtput] at hbad
    cases hbad
  · rw [houtput] at hfailed
    cases hfailed
    have hwarnings : warnings d.start.log =
        warnings (noteError .rollbackFailed d.input.start.stream.stop.result) := by
      rw [heq]
      simp only [warnings_append, hquiet, hquiet', hquiet'', List.nil_append]
    refine ⟨?_, ?_, ?_, ?_, ?_⟩
    · rw [heq]
    · rw [heq]
      exact hkept e houtput
    · rw [heq]
      exact hhalts.device hstate
    · intro hstop
      have hstopped := (hhalts.stopped_iff hstate).mpr hstop
      have hok : d.input.start.stream.stop.result = .ok () := by
        rw [hresult, hstopped]
        exact nofun
      rw [hwarnings, hok, heq]
      exact ⟨hstopped, rfl⟩
    · intro status hstop
      have hne : (Device.perform .stop d.input.start.stream.device).1 ≠ .ok () := by
        rw [hstop]
        exact nofun
      rw [hwarnings, hundone.error_of_stop hstate hstop, heq]
      exact ⟨hhalts.started hstate hne, rfl⟩

/-- A stop halts both halves, and succeeds if and only if neither is started afterwards. -/
theorem halts_of_stop (hi : d.input.state.holding = true) (ho : d.output.state.holding = true) :
    d.input.Halts d.stop.session.input ∧ d.output.Halts d.stop.session.output ∧
      (d.stop.result = .ok () ↔
        d.stop.session.input.state ≠ .started ∧ d.stop.session.output.state ≠ .started) := by
  obtain ⟨hhalts, hresult, -⟩ := (Turn.of_stop d.input).halts hi
  obtain ⟨hhalts', hresult', -⟩ := (Turn.of_stop d.output).halts ho
  unfold Duplex.stop
  rw [both_eq]
  refine ⟨hhalts, hhalts', ?_⟩
  show _ ↔ d.input.stop.stream.state ≠ .started ∧ d.output.stop.stream.state ≠ .started
  rw [← hresult, ← hresult']
  cases d.output.stop.result with
  | ok => exact ⟨fun hok => ⟨hok, rfl⟩, fun hok => hok.1⟩
  | error e => exact ⟨nofun, fun hok => nomatch hok.2⟩

end Duplex

/-- Starting a session rolls back, and stopping it reaches both halves.  In every state that an
opened session gets into without being closed, for any two devices:

* A start succeeds if both halves start, and then both are started.  If the input fails to start,
  neither state changes and the output is not called; if the output does, its state does not change
  and the input is stopped again, unless that fails, in which case it stays started and a warning
  says so.
* A stop attempts both halves.  Each is stopped if its own device stops and stays started if it does
  not; one that is not started is left alone.  The stop succeeds if and only if neither half is
  started afterwards. -/
theorem start_rolls_back_stop_reaches_both {input : Recorded ι} {output : Recorded ο}
    {request : DuplexRequest} {d : Duplex (Recorded ι) (Recorded ο)} {log : List Event}
    (h : Duplex.open input output request = .ok d log) (moves : List SessionMove)
    (hopen : (d.after moves).input.state ≠ .closed) :
    let session := d.after moves
    let started := session.start
    let stopped := session.stop
    ((session.input.start.result = .ok () → session.output.start.result = .ok () →
        started.result = .ok ()) ∧
      (started.result = .ok () →
        started.session.input.state = .started ∧ started.session.output.state = .started) ∧
      (∀ e, session.input.start.result = .error e → started.result = .error e ∧
        started.session.input.state = session.input.state ∧
          started.session.output = session.output) ∧
      ∀ e, session.input.start.result = .ok () → session.output.start.result = .error e →
        RolledBack session started e) ∧
    session.input.Halts stopped.session.input ∧ session.output.Halts stopped.session.output ∧
      (stopped.result = .ok () ↔ stopped.session.input.state ≠ .started ∧
        stopped.session.output.state ≠ .started) := by
  intro session started stopped
  have hpaired : session.Paired := (Duplex.paired_of_open h).after moves
  obtain ⟨hi, ho⟩ := hpaired.holding hopen
  refine ⟨⟨Duplex.start_of_ok, ?_, ?_, ?_⟩, Duplex.halts_of_stop hi ho⟩
  · exact Duplex.started_of_start hi ho
  · intro e hinput
    exact Duplex.start_of_input_error hi hinput
  · intro e hinput houtput
    exact Duplex.rolledBack_of_start hi ho hinput houtput

/-- A device that cannot be stopped. -/
def unstoppable : Recorded ScriptedDevice := ⟨{ script := { fail := [(.stop, ⟨-5⟩)] } }, []⟩

/-- A device that cannot be started. -/
def unstartable : Recorded ScriptedDevice := ⟨{ script := { fail := [(.start, ⟨-16⟩)] } }, []⟩

/-- The first start of this session leaves the input started and the output as it was.  So a second
one does nothing on the one side and fails on the other, and tries in vain to stop the input, which
was started before; and a stop tries that once more. -/
theorem rolls_back_from_uneven : ∃ d log,
    Duplex.open unstoppable unstartable {} = .ok d log ∧
    let session := d.after [.start]
    session.input.state = .started ∧ session.output.state = .configured ∧
      RolledBack session session.start (.device .start ⟨-16⟩) ∧
      session.input.Halts session.stop.session.input ∧
      session.stop.session.output = session.output ∧ session.stop.result ≠ .ok () := by
  have hopened : Duplex.open unstoppable unstartable {} =
      .ok { input := (Duplex.openInput unstoppable {}).stream
            output := (Duplex.openOutput unstartable {}).stream }
        ((Duplex.openInput unstoppable {}).log ++ (Duplex.openOutput unstartable {}).log) := rfl
  refine ⟨_, _, hopened, ?_⟩
  intro session
  have hstarted : session.input.state = .started := rfl
  have hconfigured : session.output.state = .configured := rfl
  have hopen : session.input.state ≠ .closed := by decide
  obtain ⟨⟨-, -, -, hback⟩, hinput, houtput, hresult⟩ :=
    start_rolls_back_stop_reaches_both hopened [.start] hopen
  refine ⟨hstarted, hconfigured, hback _ rfl rfl, hinput, houtput.idle (by decide), ?_⟩
  exact fun hok => absurd rfl (hresult.mp hok).1

end PcmStream
