/-
  How the operations on a full-duplex session come about from those on its two streams.

  Starting and opening have three ways out, told apart by the half that failed, if any
  (`start_cases`, `open_cases`); stopping and closing have one (`both_eq`).  In each of them the
  result, the two streams and the events are those of the halves.

  `Paired` is what an opened session never loses: both streams were configured, and they are closed
  together or not at all.
-/
import PcmStream.Proofs.Stream.Failures
import PcmStream.Duplex

namespace PcmStream

variable {ι ο : Type}

/-! ## Operations on a session -/

/-- An operation attempted on both streams, the output first, has the first error of the two as its
result and notes the second. -/
theorem Duplex.both_eq (d : Duplex ι ο) (output : Outcome ο) (input : Outcome ι) :
    d.both output input =
      ⟨match output.result with
        | .ok () => input.result
        | .error e => .error e,
        { d with input := input.stream, output := output.stream },
        output.log ++ (input.log ++
          match output.result with
          | .ok () => []
          | .error _ => noteError .sessionFailedAgain input.result)⟩ := by
  rw [both]
  cases ho : output.result with
  | ok => simp only [List.append_nil]
  | error e =>
    cases hi : input.result with
    | ok => simp only [noteError, List.append_nil]
    | error also => simp only [noteError, List.append_assoc]

variable [Device ι] [Device ο]

/-- An operation on an open session. -/
inductive SessionMove
  /-- Start both streams. -/
  | start
  /-- Stop both. -/
  | stop
  /-- Close both. -/
  | close

/-- Carry out an operation. -/
def SessionMove.run (d : Duplex ι ο) : SessionMove → DuplexOutcome ι ο
  | start => d.start
  | stop => d.stop
  | close => d.close

/-- The session after operations in order, whatever their results. -/
def Duplex.after (d : Duplex ι ο) (moves : List SessionMove) : Duplex ι ο :=
  moves.foldl (fun d m => (m.run d).session) d

namespace Duplex

/-- Starting a session fails in its input, or succeeds, or fails in its output and undoes the
input. -/
theorem start_cases (d : Duplex ι ο) :
    (∃ e, d.input.start.result = .error e ∧
      d.start = ⟨.error e, { d with input := d.input.start.stream }, d.input.start.log⟩) ∨
    (d.input.start.result = .ok () ∧ d.output.start.result = .ok () ∧
      d.start = ⟨.ok (), { d with input := d.input.start.stream, output := d.output.start.stream },
        d.input.start.log ++ d.output.start.log⟩) ∨
    (∃ e, d.input.start.result = .ok () ∧ d.output.start.result = .error e ∧
      d.start = ⟨.error e,
        { d with input := d.input.start.stream.stop.stream, output := d.output.start.stream },
        d.input.start.log ++ (d.output.start.log ++ (d.input.start.stream.stop.log ++
          noteError .rollbackFailed d.input.start.stream.stop.result))⟩) := by
  cases hi : d.input.start.result with
  | error e =>
    refine .inl ⟨e, rfl, ?_⟩
    simp only [start, hi]
  | ok =>
    cases ho : d.output.start.result with
    | ok =>
      refine .inr (.inl ⟨rfl, rfl, ?_⟩)
      simp only [start, hi, ho]
    | error e =>
      refine .inr (.inr ⟨e, rfl, rfl, ?_⟩)
      simp only [start, hi, ho, List.append_assoc]
      cases d.input.start.stream.stop.result <;> rfl

/-! ## Opening -/

/-- The configuration of the input of a session that is opened. -/
def openInput (device : ι) (request : DuplexRequest) : Outcome ι :=
  ({ device, direction := .input } : Stream ι).configure request.inputConfig request.capture
    request.options

/-- The configuration of its output. -/
def openOutput (device : ο) (request : DuplexRequest) : Outcome ο :=
  ({ device, direction := .output } : Stream ο).configure request.outputConfig request.render
    request.options

/-- Opening a session fails in its input, which is dropped, or succeeds, or fails in its output,
which is dropped, and the input after it. -/
theorem open_cases (input : ι) (output : ο) (request : DuplexRequest) :
    let i := openInput input request
    let o := openOutput output request
    (∃ e, i.result = .error e ∧ Duplex.open input output request =
      .failed e i.stream.drop.1 output (i.log ++ i.stream.drop.2)) ∨
    (i.result = .ok () ∧ o.result = .ok () ∧ Duplex.open input output request =
      .ok { input := i.stream, output := o.stream } (i.log ++ o.log)) ∨
    (∃ e, i.result = .ok () ∧ o.result = .error e ∧ Duplex.open input output request =
      .failed e i.stream.drop.1 o.stream.drop.1
        (i.log ++ ((o.log ++ o.stream.drop.2) ++ i.stream.drop.2))) := by
  intro i o
  cases hi : i.result with
  | error e =>
    refine .inl ⟨e, rfl, ?_⟩
    simp only [Duplex.open, i, openInput] at hi ⊢
    simp only [hi]
  | ok =>
    cases ho : o.result with
    | ok =>
      refine .inr (.inl ⟨rfl, rfl, ?_⟩)
      simp only [Duplex.open, i, o, openInput, openOutput] at hi ho ⊢
      simp only [hi, ho]
    | error e =>
      refine .inr (.inr ⟨e, rfl, rfl, ?_⟩)
      simp only [Duplex.open, i, o, openInput, openOutput] at hi ho ⊢
      simp only [hi, ho, List.append_assoc]

/-! ## Paired streams -/

/-- Both streams of a session were configured, and they are closed together or not at all. -/
structure Paired (d : Duplex ι ο) : Prop where
  /-- The input was configured. -/
  input : d.input.state ≠ .created
  /-- The output was configured. -/
  output : d.output.state ≠ .created
  /-- They are closed together. -/
  closed_iff : d.input.state = .closed ↔ d.output.state = .closed

/-- A session that was opened is paired. -/
theorem paired_of_open {input : ι} {output : ο} {request : DuplexRequest} {d : Duplex ι ο}
    {log : List Event} (h : Duplex.open input output request = .ok d log) : d.Paired := by
  rcases open_cases input output request with ⟨e, -, heq⟩ | ⟨hi, ho, heq⟩ | ⟨e, -, -, heq⟩
  · rw [heq] at h
    cases h
  · rw [heq] at h
    cases h
    have hinput : (openInput input request).stream.state = .configured :=
      (Turn.of_configure _ _ _ _).configured_of_ok hi
    have houtput : (openOutput output request).stream.state = .configured :=
      (Turn.of_configure _ _ _ _).configured_of_ok ho
    refine ⟨?_, ?_, ?_⟩
    · rw [hinput]
      exact nofun
    · rw [houtput]
      exact nofun
    · rw [hinput, houtput]
  · rw [heq] at h
    cases h

namespace Paired

variable {d : Duplex ι ο}

theorem start (h : d.Paired) : d.start.session.Paired := by
  have hi := Turn.of_start d.input
  have ho := Turn.of_start d.output
  rcases d.start_cases with ⟨e, -, heq⟩ | ⟨-, -, heq⟩ | ⟨e, -, -, heq⟩
  · rw [heq]
    exact ⟨hi.arrow.not_created h.input, h.output, (hi.arrow.closed_iff nofun).trans h.closed_iff⟩
  · rw [heq]
    refine ⟨hi.arrow.not_created h.input, ho.arrow.not_created h.output, ?_⟩
    exact (hi.arrow.closed_iff nofun).trans (h.closed_iff.trans (ho.arrow.closed_iff nofun).symm)
  · rw [heq]
    have hundone := Turn.of_stop d.input.start.stream
    have hcreated := hundone.arrow.not_created (hi.arrow.not_created h.input)
    refine ⟨hcreated, ho.arrow.not_created h.output, ?_⟩
    have hinput := (hundone.arrow.closed_iff nofun).trans (hi.arrow.closed_iff nofun)
    exact hinput.trans (h.closed_iff.trans (ho.arrow.closed_iff nofun).symm)

theorem stop (h : d.Paired) : d.stop.session.Paired := by
  have hi := Turn.of_stop d.input
  have ho := Turn.of_stop d.output
  rw [Duplex.stop, both_eq]
  refine ⟨hi.arrow.not_created h.input, ho.arrow.not_created h.output, ?_⟩
  exact (hi.arrow.closed_iff nofun).trans (h.closed_iff.trans (ho.arrow.closed_iff nofun).symm)

theorem close (h : d.Paired) : d.close.session.Paired := by
  have hi := Turn.of_close d.input
  have ho := Turn.of_close d.output
  rw [Duplex.close, both_eq]
  refine ⟨hi.arrow.not_created h.input, ho.arrow.not_created h.output, ?_⟩
  exact ⟨fun _ => ho.closed_of_close, fun _ => hi.closed_of_close⟩

theorem run (h : d.Paired) (m : SessionMove) : (m.run d).session.Paired := by
  cases m with
  | start => exact h.start
  | stop => exact h.stop
  | close => exact h.close

theorem after (h : d.Paired) (moves : List SessionMove) : (d.after moves).Paired := by
  induction moves generalizing d with
  | nil => exact h
  | cons m moves ih => exact ih (h.run m)

end Paired

end Duplex

end PcmStream
