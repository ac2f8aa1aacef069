/-
  The courses that the operations on a session take over its two devices.

  The streams of a session have a device each, and what an operation leaves behind does not show
  which of the two was called first.  A `Course` does: it is a tree of moves on the two halves of a
  session, in which the next move may depend on the result of the last one.

    program         the operations of `Duplex`, as they run on a session
    specification   a course for each of them (`opening`, `starting`, `both`, `dropping`)
    crux            an operation is the run of its course (`Duplex.open_eq`, `SessionMove.run_eq`,
                    `Duplex.drop_eq_run`), and the calls of a course, looked at on one side, are
                    what its run adds to the record of the device of that side (`record_run`)

  The order of the calls across the two devices can then be read off `Course.calls`.
-/
import PcmStream.Proofs.Duplex.Failures
import PcmStream.Proofs.Stream.Release

namespace PcmStream

/-! ## Halves of a session -/

/-- Something done to one half of a session. -/
inductive HalfMove
  /-- A move of the stream. -/
  | move (m : Move)
  /-- The drop of the stream. -/
  | drop

/-- Carry it out. -/
def HalfMove.run {σ : Type} [Device σ] (s : Stream σ) : HalfMove → Outcome σ
  | move m => m.run s
  | drop => ⟨.ok (), s.dropped, s.drop.2⟩

/-- The record of a device only ever grows. -/
theorem HalfMove.calls_run {σ : Type} [Device σ] (s : Stream (Recorded σ)) (h : HalfMove) :
    s.device.calls <+: (h.run s).stream.device.calls := by
  cases h with
  | move m => exact Stream.calls_of_turn (m.turn s)
  | drop =>
    show s.device.calls <+: s.dropped.device.calls
    rw [s.dropped_device]
    exact s.calls_of_drop

/-! ## Courses -/

/-- A course of moves on the halves of a session. -/
inductive Course
  /-- The end, with the result of the whole. -/
  | done (result : Except StreamError Unit)
  /-- Note an event and go on. -/
  | note (e : Event) (next : Course)
  /-- Do something to one half and go on as its result says. -/
  | half (side : Direction) (h : HalfMove) (next : Except StreamError Unit → Course)

/-- A call to one of the two devices of a session. -/
structure SidedCall where
  /-- The half whose device is called. -/
  side : Direction
  /-- The call and its outcome. -/
  record : CallRecord

/-- The calls to the device of one half. -/
def onSide (side : Direction) (calls : List SidedCall) : List CallRecord :=
  (calls.filter fun c => c.side = side).map SidedCall.record

theorem onSide_append (side : Direction) (xs ys : List SidedCall) :
    onSide side (xs ++ ys) = onSide side xs ++ onSide side ys := by
  rw [onSide, List.filter_append, List.map_append]
  rfl

/-- Calls to one device are on its side. -/
theorem onSide_same (side : Direction) (calls : List CallRecord) :
    onSide side (calls.map (SidedCall.mk side)) = calls := by
  induction calls with
  | nil => rfl
  | cons r calls ih => rw [List.map_cons, onSide, List.filter_cons_of_pos (by simp), List.map_cons,
      ← onSide, ih]

/-- And none of them is on the other. -/
theorem onSide_other {side other : Direction} (h : other ≠ side) (calls : List CallRecord) :
    onSide side (calls.map (SidedCall.mk other)) = [] := by
  induction calls with
  | nil => rfl
  | cons r calls ih => rw [List.map_cons, onSide, List.filter_cons_of_neg (by simpa using h),
      ← onSide, ih]

theorem onSide_input_outputs (calls : List CallRecord) :
    onSide .input (calls.map (SidedCall.mk .output)) = [] :=
  onSide_other (show Direction.output ≠ .input from nofun) calls

theorem onSide_output_inputs (calls : List CallRecord) :
    onSide .output (calls.map (SidedCall.mk .input)) = [] :=
  onSide_other (show Direction.input ≠ .output from nofun) calls

variable {ι ο : Type}

/-- The record of the device of one half. -/
def Duplex.record (d : Duplex (Recorded ι) (Recorded ο)) : Direction → List CallRecord
  | .input => d.input.device.calls
  | .output => d.output.device.calls

/-- The stream of one half was made, and nothing was done to it. -/
def Duplex.fresh (input : ι) (output : ο) : Duplex ι ο where
  input := { device := input, direction := .input }
  output := { device := output, direction := .output }
  times := ⟨unrecorded, unrecorded, Nat.le_refl _, Nat.le_refl _⟩

/-- How a session counts as opened: by the result, with the devices if it failed. -/
def DuplexOutcome.opened (o : DuplexOutcome ι ο) : DuplexOpened ι ο :=
  match o.result with
  | .ok () => .ok o.session o.log
  | .error e => .failed e o.session.input.device o.session.output.device o.log

theorem DuplexOutcome.opened_input (o : DuplexOutcome ι ο) :
    o.opened.input = o.session.input.device := by
  unfold opened
  cases o.result <;> rfl

theorem DuplexOutcome.opened_output (o : DuplexOutcome ι ο) :
    o.opened.output = o.session.output.device := by
  unfold opened
  cases o.result <;> rfl

variable [Device ι] [Device ο]

/-- Do something to one half of a session. -/
def Duplex.half (d : Duplex ι ο) (h : HalfMove) : Direction → DuplexOutcome ι ο
  | .input =>
    let o := h.run d.input
    ⟨o.result, { d with input := o.stream }, o.log⟩
  | .output =>
    let o := h.run d.output
    ⟨o.result, { d with output := o.stream }, o.log⟩

/-- What was asked of the device of the half to which something was done. -/
def Duplex.halfCalls (d : Duplex (Recorded ι) (Recorded ο)) (h : HalfMove) :
    Direction → List CallRecord
  | .input => (h.run d.input).stream.device.since d.input.device
  | .output => (h.run d.output).stream.device.since d.output.device

/-- What is done to one half adds to the record of its device and to no other. -/
theorem Duplex.record_half (d : Duplex (Recorded ι) (Recorded ο)) (h : HalfMove)
    (side other : Direction) :
    (d.half h side).session.record other =
      d.record other ++ onSide other ((d.halfCalls h side).map (SidedCall.mk side)) := by
  have hadd : ∀ {σ : Type} [Device σ] (s : Stream (Recorded σ)),
      (h.run s).stream.device.calls =
        s.device.calls ++ (h.run s).stream.device.since s.device := by
    intro σ _ s
    obtain ⟨added, hadded⟩ := h.calls_run s
    rw [Recorded.since_eq hadded.symm, hadded]
  by_cases hside : side = other
  · subst hside
    rw [onSide_same]
    cases side with
    | input => exact hadd d.input
    | output => exact hadd d.output
  · rw [onSide_other hside, List.append_nil]
    cases side with
    | input =>
      cases other with
      | input => exact absurd rfl hside
      | output => rfl
    | output =>
      cases other with
      | input => rfl
      | output => exact absurd rfl hside

namespace Course

/-- Run a course on a session. -/
def run : Course → Duplex ι ο → DuplexOutcome ι ο
  | done result, d => ⟨result, d, []⟩
  | note e next, d =>
    let later := next.run d
    { later with log := e :: later.log }
  | half side h next, d =>
    let o := d.half h side
    let later := (next o.result).run o.session
    { later with log := o.log ++ later.log }

/-- The calls of a course to both devices, in order. -/
def calls : Course → Duplex (Recorded ι) (Recorded ο) → List SidedCall
  | done _, _ => []
  | note _ next, d => next.calls d
  | half side h next, d =>
    let o := d.half h side
    (d.halfCalls h side).map (SidedCall.mk side) ++ (next o.result).calls o.session

/-- The calls of a course to the device of one half are what its run adds to the record of it. -/
theorem record_run (c : Course) (d : Duplex (Recorded ι) (Recorded ο)) (side : Direction) :
    (c.run d).session.record side = d.record side ++ onSide side (c.calls d) := by
  induction c generalizing d with
  | done result => exact (List.append_nil _).symm
  | note e next ih => exact ih d
  | half other h next ih =>
    show (((next _).run (d.half h other).session).session.record side) = _
    rw [ih, Duplex.record_half, calls, onSide_append, List.append_assoc]

/-! ## The courses of the operations -/

/-- Starting: the input, then the output; a failure of the output stops the input again. -/
def starting : Course :=
  half .input (.move .start) fun
    | .error e => done (.error e)
    | .ok () => half .output (.move .start) fun
      | .ok () => done (.ok ())
      | .error e => half .input (.move .stop) fun
        | .ok () => done (.error e)
        | .error also => note (.rollbackFailed also) (done (.error e))

/-- A move of both halves, the output first; a second failure is noted. -/
def both (m : Move) : Course :=
  half .output (.move m) fun output => half .input (.move m) fun input =>
    match output, input with
    | .error e, .error also => note (.sessionFailedAgain also) (done (.error e))
    | .error e, .ok () => done (.error e)
    | .ok (), result => done result

/-- Dropping: the input, then the output. -/
def dropping : Course :=
  half .input .drop fun _ => half .output .drop fun _ => done (.ok ())

/-- Opening: the input, then the output.  A half that fails is dropped, and so is the input if the
output fails, after it. -/
def opening (request : DuplexRequest) : Course :=
  half .input (.move (.configure request.inputConfig request.capture request.options)) fun
    | .error e => half .input .drop fun _ => done (.error e)
    | .ok () =>
      half .output (.move (.configure request.outputConfig request.render request.options)) fun
        | .ok () => done (.ok ())
        | .error e => half .output .drop fun _ => half .input .drop fun _ => done (.error e)

end Course

namespace Duplex

/-! ## An operation is the run of its course -/

theorem start_eq_run (d : Duplex ι ο) : d.start = Course.starting.run d := by
  rcases d.start_cases with ⟨e, hi, heq⟩ | ⟨hi, ho, heq⟩ | ⟨e, hi, ho, heq⟩
  · simp only [heq, Course.starting, Course.run, half, HalfMove.run, Move.run, hi, List.append_nil]
  · simp only [heq, Course.starting, Course.run, half, HalfMove.run, Move.run, hi, ho,
      List.append_nil]
  · simp only [heq, Course.starting, Course.run, half, HalfMove.run, Move.run, hi, ho]
    -- Stopping the input again may fail as well, which is noted at the end.
    cases d.input.start.stream.stop.result <;>
      simp only [Course.run, noteError, List.append_nil]

theorem both_eq_run (d : Duplex ι ο) (m : Move) :
    d.both (m.run d.output) (m.run d.input) = (Course.both m).run d := by
  rw [both_eq]
  simp only [Course.both, Course.run, half, HalfMove.run]
  cases (m.run d.output).result with
  | ok => simp only [Course.run, List.append_nil]
  | error e =>
    cases (m.run d.input).result <;> simp only [Course.run, noteError, List.append_nil]

theorem drop_eq_run (d : Duplex ι ο) :
    d.drop = (((Course.dropping.run d).session.input.device,
      (Course.dropping.run d).session.output.device), (Course.dropping.run d).log) := by
  simp only [Course.dropping, Course.run, half, HalfMove.run, Stream.dropped_device,
    List.append_nil]
  rfl

theorem open_eq (input : ι) (output : ο) (request : DuplexRequest) :
    Duplex.open input output request =
      ((Course.opening request).run (Duplex.fresh input output)).opened := by
  have hi : (Move.configure request.inputConfig request.capture request.options).run
      (Duplex.fresh input output).input = openInput input request := rfl
  have ho : (Move.configure request.outputConfig request.render request.options).run
      (Duplex.fresh input output).output = openOutput output request := rfl
  rcases open_cases input output request with ⟨e, hinput, heq⟩ | ⟨hinput, houtput, heq⟩ |
    ⟨e, hinput, houtput, heq⟩
  · rw [heq]
    simp only [Course.opening, Course.run, half, HalfMove.run, hi, hinput, List.append_nil,
      DuplexOutcome.opened, Stream.dropped_device]
    rfl
  · rw [heq]
    simp only [Course.opening, Course.run, half, HalfMove.run, hi, ho, hinput, houtput,
      List.append_nil, DuplexOutcome.opened]
    rfl
  · rw [heq]
    simp only [Course.opening, Course.run, half, HalfMove.run, hi, ho, hinput, houtput,
      List.append_nil, List.append_assoc, DuplexOutcome.opened, Stream.dropped_device]

end Duplex

/-- The course of an operation on an open session. -/
def SessionMove.course : SessionMove → Course
  | start => .starting
  | stop => .both .stop
  | close => .both .close

theorem SessionMove.run_eq (d : Duplex ι ο) (m : SessionMove) : m.run d = m.course.run d := by
  cases m with
  | start => exact d.start_eq_run
  | stop => exact d.both_eq_run .stop
  | close => exact d.both_eq_run .close

/-! ## The calls of a course, one by one -/

namespace Course

theorem calls_both (m : Move) (d : Duplex (Recorded ι) (Recorded ο)) :
    (both m).calls d = (d.halfCalls (.move m) .output).map (SidedCall.mk .output) ++
      (d.halfCalls (.move m) .input).map (SidedCall.mk .input) := by
  simp only [both, calls, Duplex.half, HalfMove.run]
  cases (m.run d.output).result <;> cases (m.run d.input).result <;>
    simp only [calls, List.append_nil] <;> rfl

theorem calls_dropping (d : Duplex (Recorded ι) (Recorded ο)) :
    dropping.calls d = (d.halfCalls .drop .input).map (SidedCall.mk .input) ++
      (d.halfCalls .drop .output).map (SidedCall.mk .output) := by
  simp only [dropping, calls, Duplex.half, HalfMove.run, List.append_nil]
  rfl

/-- Each half is called for the move once. -/
theorem onSide_both (m : Move) (d : Duplex (Recorded ι) (Recorded ο)) (side : Direction) :
    onSide side ((both m).calls d) = d.halfCalls (.move m) side := by
  rw [calls_both, onSide_append]
  cases side with
  | input => rw [onSide_input_outputs, onSide_same, List.nil_append]
  | output => rw [onSide_same, onSide_output_inputs, List.append_nil]

theorem onSide_dropping (d : Duplex (Recorded ι) (Recorded ο)) (side : Direction) :
    onSide side (dropping.calls d) = d.halfCalls .drop side := by
  rw [calls_dropping, onSide_append]
  cases side with
  | input => rw [onSide_same, onSide_input_outputs, List.append_nil]
  | output => rw [onSide_output_inputs, onSide_same, List.nil_append]

variable {input : Recorded ι} {output : Recorded ο} {request : DuplexRequest} {e : StreamError}

/-- If the input cannot be opened, all calls go to it. -/
theorem calls_opening_input (output : Recorded ο)
    (hi : (Duplex.openInput input request).result = .error e) :
    ∃ asked : List CallRecord, (opening request).calls (Duplex.fresh input output) =
      asked.map (SidedCall.mk .input) := by
  let i := Duplex.openInput input request
  have hinput : ((Duplex.fresh input output).half (.move (.configure request.inputConfig
      request.capture request.options)) .input).result = .error e := hi
  refine ⟨i.stream.device.since input ++ i.stream.dropped.device.since i.stream.device, ?_⟩
  rw [opening, calls, hinput, List.map_append]
  simp only [calls, List.append_nil]
  rfl

/-- If the output cannot, the input is called until it is configured, then the output, and then the
input again. -/
theorem calls_opening_output (hi : (Duplex.openInput input request).result = .ok ())
    (ho : (Duplex.openOutput output request).result = .error e) :
    ∃ asked asked' : List CallRecord, (opening request).calls (Duplex.fresh input output) =
      ((Duplex.openInput input request).stream.device.since input).map (SidedCall.mk .input) ++
        (asked.map (SidedCall.mk .output) ++ asked'.map (SidedCall.mk .input)) := by
  let i := Duplex.openInput input request
  let o := Duplex.openOutput output request
  let configured := (Duplex.fresh input output).half (.move (.configure request.inputConfig
    request.capture request.options)) .input
  have hinput : configured.result = .ok () := hi
  have houtput : (configured.session.half (.move (.configure request.outputConfig request.render
    request.options)) .output).result = .error e := ho
  refine ⟨o.stream.device.since output ++ o.stream.dropped.device.since o.stream.device,
    i.stream.dropped.device.since i.stream.device, ?_⟩
  rw [opening, calls, hinput, calls, houtput]
  simp only [calls, List.append_nil, List.map_append, List.append_assoc]
  rfl

end Course

end PcmStream
