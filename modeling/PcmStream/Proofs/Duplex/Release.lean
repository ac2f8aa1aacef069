/-
  A session never leaks a device.

    program         `Duplex.open`, and any run of starts and stops that ends in `close` or `drop`
    specification   `Withdrawn`, what both devices have seen of a session that could not be opened:
                    each was disposed of once if it was acquired, none was started, and the output
                    was cleaned up before the input; `Released`, what a session that was opened
                    asks of them in the end: to stop the halves that are started, to tear down and
                    to dispose, once each in the whole life of the device
    crux            both streams of an open session are attended (`Duplex.Attended`), so that what
                    is known of one stream that is given back holds for both; the order of the two
                    devices is that of the courses (`OutputFirst`)
-/
import PcmStream.Proofs.Duplex.Course

namespace PcmStream

variable {ι ο : Type} [Device ι] [Device ο]

namespace Duplex

/-- Both streams of a session have their devices. -/
structure Attended {ι ο : Type} (d : Duplex (Recorded ι) (Recorded ο)) : Prop where
  /-- The input has. -/
  input : d.input.Attended .input
  /-- The output has. -/
  output : d.output.Attended .output

/-- A session that was opened on devices not called before has both. -/
theorem attended_of_open {input : ι} {output : ο} {request : DuplexRequest}
    {d : Duplex (Recorded ι) (Recorded ο)} {log : List Event}
    (h : Duplex.open ⟨input, []⟩ ⟨output, []⟩ request = .ok d log) : d.Attended := by
  have hattended : ∀ {σ : Type} [Device σ] {s : Stream (Recorded σ)} {requested : StreamConfig}
      {handler : Handler} {options : Options} {o : Outcome (Recorded σ)},
      Turn s (.configure requested handler options) o → s.state = .created →
        s.device.calls = [] → o.result = .ok () → o.stream.Attended s.direction := by
    intro σ _ s requested handler options o hturn hs hcalls hok
    rcases hturn.of_fresh hs hcalls with ⟨-, hfailed, -⟩ | ⟨hstate, hopening⟩
    · exact absurd hok hfailed
    · refine ⟨?_, _, [], hopening, fun r hr => absurd hr List.not_mem_nil,
        (List.append_nil _).symm⟩
      rw [hstate]
      rfl
  rcases open_cases (⟨input, []⟩ : Recorded ι) (⟨output, []⟩ : Recorded ο) request with
    ⟨e, -, heq⟩ | ⟨hi, ho, heq⟩ | ⟨e, -, -, heq⟩
  · rw [heq] at h
    cases h
  · rw [heq] at h
    cases h
    exact ⟨hattended (Turn.of_configure _ _ _ _) rfl rfl hi,
      hattended (Turn.of_configure _ _ _ _) rfl rfl ho⟩
  · rw [heq] at h
    cases h

namespace Attended

variable {d : Duplex (Recorded ι) (Recorded ο)}

theorem start (h : d.Attended) : d.start.session.Attended := by
  rcases d.start_cases with ⟨e, -, heq⟩ | ⟨-, -, heq⟩ | ⟨e, -, -, heq⟩
  · rw [heq]
    exact ⟨h.input.start, h.output⟩
  · rw [heq]
    exact ⟨h.input.start, h.output.start⟩
  · rw [heq]
    exact ⟨h.input.start.stop, h.output.start⟩

theorem stop (h : d.Attended) : d.stop.session.Attended := by
  rw [Duplex.stop, both_eq]
  exact ⟨h.input.stop, h.output.stop⟩

/-- Every run of starts and stops keeps both devices. -/
theorem after {moves : List SessionMove} (h : d.Attended) (hmoves : ∀ m ∈ moves, m ≠ .close) :
    (d.after moves).Attended := by
  induction moves generalizing d with
  | nil => exact h
  | cons m moves ih =>
    have hrest : ∀ m ∈ moves, m ≠ .close := fun m hm => hmoves m (List.mem_cons_of_mem _ hm)
    cases m with
    | start => exact ih h.start hrest
    | stop => exact ih h.stop hrest
    | close => exact absurd rfl (hmoves .close List.mem_cons_self)

end Attended

end Duplex

/-! ## The order of the two devices -/

/-- After a call that cleans up the input, the output is not called any more. -/
def OutputFirst (calls : List SidedCall) : Prop :=
  calls.Pairwise fun a b => a.side = .input → a.record.call.name.isCleanup = true → b.side = .input

namespace OutputFirst

theorem inputs (calls : List CallRecord) : OutputFirst (calls.map (SidedCall.mk .input)) := by
  refine List.pairwise_map.mpr ?_
  exact List.pairwise_of_forall fun _ _ _ _ => rfl

/-- Calls that do not clean up the input may come first. -/
theorem append {xs ys : List SidedCall}
    (hxs : ∀ a ∈ xs, a.side = .input → a.record.call.name.isCleanup = false)
    (hys : OutputFirst ys) : OutputFirst (xs ++ ys) := by
  induction xs with
  | nil => exact hys
  | cons a xs ih =>
    refine List.pairwise_cons.mpr ⟨?_, ih fun b hb => hxs b (List.mem_cons_of_mem _ hb)⟩
    intro b _ hside hcleanup
    rw [hxs a List.mem_cons_self hside] at hcleanup
    cases hcleanup

/-- So may calls to the output. -/
theorem outputs_append (calls : List CallRecord) {ys : List SidedCall} (hys : OutputFirst ys) :
    OutputFirst (calls.map (SidedCall.mk .output) ++ ys) := by
  refine hys.append ?_
  intro a ha hside
  obtain ⟨r, -, rfl⟩ := List.mem_map.mp ha
  cases hside

/-- And the opening of the input. -/
theorem opening_append {opening : List CallRecord} (h : Opening .input opening)
    {ys : List SidedCall} (hys : OutputFirst ys) :
    OutputFirst (opening.map (SidedCall.mk .input) ++ ys) := by
  refine hys.append ?_
  intro a ha _
  obtain ⟨r, hr, rfl⟩ := List.mem_map.mp ha
  have hquiet : ∀ name ∈ names opening, name.isCleanup = false := by
    rw [names_opening h]
    decide
  exact hquiet _ (List.mem_map_of_mem hr)

end OutputFirst

/-! ## Sessions that are opened in vain, and sessions that are released -/

/-- What two devices see of a session that cannot be opened. -/
structure Withdrawn (calls : List SidedCall) : Prop where
  /-- A device that was acquired is disposed of once, and no other is. -/
  disposed : ∀ side,
    (names (onSide side calls)).count .dispose = if acquired (onSide side calls) then 1 else 0
  /-- Neither is started. -/
  unstarted : ∀ side, CallName.start ∉ names (onSide side calls)
  /-- The output is cleaned up before the input. -/
  outputFirst : OutputFirst calls

/-- The state of one half of a session. -/
def Duplex.state {ι ο : Type} (d : Duplex ι ο) : Direction → State
  | .input => d.input.state
  | .output => d.output.state

/-- Calls that release both devices of a session, leaving it as given. -/
structure Released {ι ο : Type} (d later : Duplex (Recorded ι) (Recorded ο))
    (calls : List SidedCall) : Prop where
  /-- Each device is asked for what its half owes it. -/
  names_eq : ∀ side, names (onSide side calls) = (d.state side).releases
  /-- Nothing else is added to its record. -/
  record_eq : ∀ side, later.record side = d.record side ++ onSide side calls
  /-- Both halves are closed. -/
  closed : ∀ side, later.state side = .closed
  /-- In its whole life each device has been torn down once. -/
  tornDown : ∀ side, (names (later.record side)).count .tearDown = 1
  /-- And disposed of once. -/
  disposed : ∀ side, (names (later.record side)).count .dispose = 1

namespace Duplex

variable {input : ι} {output : ο} {request : DuplexRequest}

/-- The calls of an opening are what the devices have on record then. -/
theorem onSide_opening (input : ι) (output : ο) (request : DuplexRequest) :
    let calls := (Course.opening request).calls
      (Duplex.fresh (⟨input, []⟩ : Recorded ι) (⟨output, []⟩ : Recorded ο))
    let opened := Duplex.open (⟨input, []⟩ : Recorded ι) (⟨output, []⟩ : Recorded ο) request
    onSide .input calls = opened.input.calls ∧ onSide .output calls = opened.output.calls := by
  intro calls opened
  have hrecord := (Course.opening request).record_run
    (Duplex.fresh (⟨input, []⟩ : Recorded ι) (⟨output, []⟩ : Recorded ο))
  have hopened : opened = _ := open_eq _ _ request
  rw [hopened, DuplexOutcome.opened_input, DuplexOutcome.opened_output]
  exact ⟨(hrecord .input).symm, (hrecord .output).symm⟩

/-- A session that cannot be opened is withdrawn. -/
theorem withdrawn_of_open {e : StreamError}
    (h : (Duplex.open (⟨input, []⟩ : Recorded ι) (⟨output, []⟩ : Recorded ο) request).result =
      .error e) :
    Withdrawn ((Course.opening request).calls
      (Duplex.fresh (⟨input, []⟩ : Recorded ι) (⟨output, []⟩ : Recorded ο))) := by
  obtain ⟨hinput, houtput⟩ := onSide_opening input output request
  generalize hcalls : (Course.opening request).calls
    (Duplex.fresh (⟨input, []⟩ : Recorded ι) (⟨output, []⟩ : Recorded ο)) = calls at hinput houtput
  have hi : Turn _ _ (openInput (⟨input, []⟩ : Recorded ι) request) := .of_configure _ _ _ _
  have ho : Turn _ _ (openOutput (⟨output, []⟩ : Recorded ο) request) := .of_configure _ _ _ _
  have hdropped : Undone .input
      (openInput (⟨input, []⟩ : Recorded ι) request).stream.drop.1.calls := by
    rw [← Stream.dropped_device]
    exact hi.undone rfl rfl
  have hdropped' : Undone .output
      (openOutput (⟨output, []⟩ : Recorded ο) request).stream.drop.1.calls := by
    rw [← Stream.dropped_device]
    exact ho.undone rfl rfl
  -- It is enough that each device was used in vain, and in the right order.
  have hwithdrawn : Undone .input (onSide .input calls) → Undone .output (onSide .output calls) →
      OutputFirst calls → Withdrawn calls := by
    intro hundone hundone' horder
    refine ⟨?_, ?_, horder⟩
    · rintro (_ | _)
      · exact hundone'.count_dispose
      · exact hundone.count_dispose
    · rintro (_ | _)
      · exact hundone'.not_mem_start
      · exact hundone.not_mem_start
  rcases open_cases (⟨input, []⟩ : Recorded ι) (⟨output, []⟩ : Recorded ο) request with
    ⟨e, hfailed, heq⟩ | ⟨-, -, heq⟩ | ⟨e, hconfigured, hfailed, heq⟩
  · rw [heq] at hinput houtput
    refine hwithdrawn ?_ ?_ ?_
    · rw [hinput]
      exact hdropped
    · rw [houtput]
      exact .untouched
    · obtain ⟨asked, hasked⟩ := Course.calls_opening_input ⟨output, []⟩ hfailed
      rw [← hcalls, hasked]
      exact .inputs asked
  · rw [heq] at h
    cases h
  · rw [heq] at hinput houtput
    refine hwithdrawn ?_ ?_ ?_
    · rw [hinput]
      exact hdropped
    · rw [houtput]
      exact hdropped'
    · obtain ⟨asked, asked', hasked⟩ := Course.calls_opening_output hconfigured hfailed
      rw [← hcalls, hasked]
      rcases hi.of_fresh rfl rfl with ⟨-, hbad, -⟩ | ⟨-, hopening⟩
      · exact absurd hconfigured hbad
      · refine .opening_append ?_ (.outputs_append asked (.inputs asked'))
        exact hopening

/-- Closing a half that has its device, or dropping it, asks for what it owes. -/
theorem release_half {σ : Type} [Device σ] {s : Stream (Recorded σ)} {h : HalfMove}
    (hs : s.state ≠ .closed) (hh : h = .move .close ∨ h = .drop) :
    names ((h.run s).stream.device.since s.device) = s.state.releases ∧
      (h.run s).stream.state = .closed := by
  obtain ⟨closing, hclosing, hnames, -⟩ := Stream.calls_close hs
  have hclosed := (Turn.of_close s).closed_of_close
  rcases hh with rfl | rfl
  · refine ⟨?_, hclosed⟩
    show names (s.close.stream.device.since s.device) = _
    rw [Recorded.since_eq hclosing]
    exact hnames
  · refine ⟨?_, s.dropped_state⟩
    show names (s.dropped.device.since s.device) = _
    rw [Stream.dropped, if_neg hs, Recorded.since_eq hclosing]
    exact hnames

variable {d : Duplex (Recorded ι) (Recorded ο)}

/-- A course that closes or drops each half once, in any order, releases the session. -/
theorem Attended.released {h : HalfMove} {c : Course} (hd : d.Attended)
    (hh : h = .move .close ∨ h = .drop)
    (hcalls : ∀ side, onSide side (c.calls d) = d.halfCalls h side)
    (hinput : (c.run d).session.input = (h.run d.input).stream)
    (houtput : (c.run d).session.output = (h.run d.output).stream) :
    Released d (c.run d).session (c.calls d) := by
  obtain ⟨hinames, hiclosed⟩ := release_half hd.input.not_closed hh
  obtain ⟨honames, hoclosed⟩ := release_half hd.output.not_closed hh
  have hnames : ∀ side, names (onSide side (c.calls d)) = (d.state side).releases := by
    intro side
    rw [hcalls]
    cases side with
    | input => exact hinames
    | output => exact honames
  have hcount : ∀ side, (names ((c.run d).session.record side)).count .tearDown = 1 ∧
      (names ((c.run d).session.record side)).count .dispose = 1 := by
    intro side
    rw [c.record_run]
    cases side with
    | input => exact hd.input.count (hnames .input)
    | output => exact hd.output.count (hnames .output)
  refine ⟨hnames, c.record_run d, ?_, fun side => (hcount side).1, fun side => (hcount side).2⟩
  rintro (_ | _)
  · show (c.run d).session.output.state = .closed
    rw [houtput]
    exact hoclosed
  · show (c.run d).session.input.state = .closed
    rw [hinput]
    exact hiclosed

/-- Closing releases the session, the output first. -/
theorem Attended.close (hd : d.Attended) :
    Released d d.close.session ((Course.both .close).calls d) ∧
      OutputFirst ((Course.both .close).calls d) := by
  constructor
  · rw [show d.close = (Course.both .close).run d from d.both_eq_run .close]
    refine hd.released (.inl rfl) (Course.onSide_both .close d) ?_ ?_ <;>
      rw [← d.both_eq_run .close, both_eq] <;> rfl
  · rw [Course.calls_both]
    exact .outputs_append _ (.inputs _)

/-- Dropping releases it as well. -/
theorem Attended.drop (hd : d.Attended) :
    Released d (Course.dropping.run d).session (Course.dropping.calls d) :=
  hd.released (.inr rfl) (Course.onSide_dropping d) rfl rfl

/-- The result of closing is the first failure of the output, and if there is none that of the
input. -/
theorem Attended.close_result (hd : d.Attended) :
    let closing := (Course.both .close).calls d
    d.close.result =
      firstFailure (errors (onSide .output closing) ++ errors (onSide .input closing)) := by
  intro closing
  obtain ⟨asked, hasked, -, hresult⟩ := Stream.calls_close hd.input.not_closed
  obtain ⟨asked', hasked', -, hresult'⟩ := Stream.calls_close hd.output.not_closed
  have hinput : onSide .input closing = asked :=
    (Course.onSide_both .close d .input).trans (Recorded.since_eq hasked)
  have houtput : onSide .output closing = asked' :=
    (Course.onSide_both .close d .output).trans (Recorded.since_eq hasked')
  rw [hinput, houtput, Duplex.close, both_eq, hresult, hresult']
  cases errors asked' <;> rfl

/-- Once a session is closed its drop does nothing. -/
theorem drop_closed (hinput : d.input.state = .closed) (houtput : d.output.state = .closed) :
    Course.dropping.calls d = [] ∧ d.drop = ((d.input.device, d.output.device), []) := by
  have hstream : ∀ {σ : Type} [Device σ] {s : Stream (Recorded σ)}, s.state = .closed →
      s.dropped.device.since s.device = [] ∧ s.drop = (s.device, []) := by
    intro σ _ s hs
    constructor
    · rw [Stream.dropped, if_pos hs, Recorded.since_self]
    · unfold Stream.drop
      rw [hs]
  constructor
  · rw [Course.calls_dropping]
    show (d.input.dropped.device.since d.input.device).map _ ++
      (d.output.dropped.device.since d.output.device).map _ = []
    rw [(hstream hinput).1, (hstream houtput).1]
    rfl
  · unfold Duplex.drop
    rw [(hstream hinput).2, (hstream houtput).2]
    rfl

end Duplex

/-- A session never leaks a device, whatever the calls to the two devices come to.

If it cannot be opened, both devices are given back at once, the output before the input: what was
acquired has been disposed of once, and nothing was started.  If it was the input that could not be
opened, the output has not been called at all.

If it is opened, and then started and stopped in any way, closing it asks each device, the output
first, to stop if its half is started, to tear down and to dispose; nothing else of that kind was
ever asked of it.  The first failure of the output is the result, and if there is none that of the
input.  A drop after that does nothing.  A drop in its place asks each device for the same. -/
theorem devices_released (input : ι) (output : ο) (request : DuplexRequest) :
    let input : Recorded ι := ⟨input, []⟩
    let output : Recorded ο := ⟨output, []⟩
    let calls := (Course.opening request).calls (Duplex.fresh input output)
    let opened := Duplex.open input output request
    (onSide .input calls = opened.input.calls ∧ onSide .output calls = opened.output.calls) ∧
    (∀ e, opened.result = .error e → Withdrawn calls ∧
      ∀ e, (Duplex.openInput input request).result = .error e → onSide .output calls = []) ∧
    ∀ d log, opened = .ok d log → ∀ moves : List SessionMove, (∀ m ∈ moves, m ≠ .close) →
      let session := d.after moves
      let closing := (Course.both .close).calls session
      let closed := session.close.session
      let dropped := (Course.dropping.run session).session
      (Released session closed closing ∧ OutputFirst closing ∧
        session.close.result =
          firstFailure (errors (onSide .output closing) ++ errors (onSide .input closing))) ∧
      (Course.dropping.calls closed = [] ∧
        closed.drop = ((closed.input.device, closed.output.device), [])) ∧
      Released session dropped (Course.dropping.calls session) ∧
        session.drop.1 = (dropped.input.device, dropped.output.device) := by
  intro input output calls opened
  refine ⟨Duplex.onSide_opening _ _ request, ?_, ?_⟩
  · intro e hfailed
    refine ⟨Duplex.withdrawn_of_open hfailed, fun e hinput => ?_⟩
    obtain ⟨asked, hasked⟩ := Course.calls_opening_input output hinput
    show onSide .output ((Course.opening request).calls (Duplex.fresh input output)) = []
    rw [hasked, onSide_output_inputs]
  · intro d log hopened moves hmoves session closing closed dropped
    have hattended : session.Attended := (Duplex.attended_of_open hopened).after hmoves
    obtain ⟨hreleased, horder⟩ := hattended.close
    refine ⟨⟨hreleased, horder, hattended.close_result⟩, ?_, hattended.drop, ?_⟩
    · exact Duplex.drop_closed (hreleased.closed .input) (hreleased.closed .output)
    · rw [session.drop_eq_run]

end PcmStream
