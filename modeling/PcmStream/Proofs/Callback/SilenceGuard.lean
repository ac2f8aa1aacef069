/-
  The silence guard: nothing that the application did not produce is ever heard.

  `Handler.serve` is the application's part of an output period taken by itself, an arbitrary
  program or a hand-off queue: the number of frames it returned, if it returned at all, and the
  memory as it left it.  `framesServed` is what the guard makes of that number.  The main result,
  `process_guarded`, compares a whole period with it:

  * on output, the frames served read as the application left them and all others as silence, and
    an underrun is counted exactly if there are others;
  * on input, neither the memory nor the underruns move;
  * on both, the other counters and the first clock reading of the direction are recorded,
    however the application ended.

  Who is handed the period, and over which memory, is said by `process_render` and
  `process_capture`: what serves the direction of the callback fills or drains the very view, and all
  that is kept of it is what that leaves.
-/
import PcmStream.Callback.Basic
import PcmStream.Proofs.View.Silence

namespace PcmStream

/-! ## What the application made of a period -/

/-- The number of frames that an output callback returned, if it returned. -/
def Ending.returned? (frames : Nat) : Ending → Option Nat
  | all => some frames
  | .frames n => some n
  | error _ => none
  | crash => none

/-- What a handler makes of an output view: the number of frames it returned, unless it failed,
crashed or does not render at all, and the memory as it left it. -/
def Handler.serve (v : View) (m : Memory) (p : Patchbay) : Handler → Option Nat × Memory
  | render (.routine r) =>
    let (run, m) := r.program.render v m
    (run.ending.returned? v.frames, m)
  | render (.queue key) =>
    match p.queue? key with
    | .none => (.none, m)
    | some ⟨_, q⟩ => ((q.render v m).1.toOption, (q.render v m).2.1)
  | _ => (.none, m)

/-- The number of leading frames of a view that count as served: the number returned, at most all of
them, and none if nothing was returned. -/
def View.framesServed (v : View) : Option Nat → Nat
  | some n => min n v.frames
  | none => 0

theorem Ending.produced_eq (v : View) (e : Ending) :
    e.produced v.frames = v.framesServed (e.returned? v.frames) := by
  cases e with
  | all => exact (Nat.min_self _).symm
  | frames n => rfl
  | error e => rfl
  | crash => rfl

/-- Filling a view counts the frames served and leaves the memory as the application left it. -/
theorem Server.fill_eq (server : Server Action) (v : View) (m : Memory) (p : Patchbay) :
    (server.fill v m p).produced = v.framesServed ((Handler.render server).serve v m p).1 ∧
      (server.fill v m p).memory = ((Handler.render server).serve v m p).2 := by
  cases server with
  | routine r => exact ⟨Ending.produced_eq v _, rfl⟩
  | queue key =>
    cases hq : p.queue? key with
    | none => simp only [Server.fill, Handler.serve, hq, View.framesServed, and_self]
    | some found =>
      obtain ⟨type, q⟩ := found
      cases hr : q.render v m with
      | mk result rest =>
        cases result <;>
          simp [Server.fill, Handler.serve, hq, hr, View.framesServed, Except.toOption]

namespace Callback

/-! ## What counting and serving leave alone -/

/-- Counting moves the counters that belong to the callback, wherever they are kept. -/
theorem stats_count (p : Processed) (frames : Nat) (underrun : Bool) :
    (count p frames underrun).callback.stats (count p frames underrun).context =
      (p.callback.stats p.context).count frames underrun := by
  cases h : p.callback.ownStats with
  | none => simp [count, h, stats]
  | some own => simp [count, h, stats]

theorem memory_count (p : Processed) (frames : Nat) (underrun : Bool) :
    (count p frames underrun).memory = p.memory := by
  rw [count]
  split <;> rfl

theorem times_count (p : Processed) (frames : Nat) (underrun : Bool) :
    (count p frames underrun).context.times = p.context.times := by
  rw [count]
  split <;> rfl

theorem handler_count (p : Processed) (frames : Nat) (underrun : Bool) :
    (count p frames underrun).callback.handler = p.callback.handler := by
  rw [count]
  split <;> rfl

theorem patchbay_count (p : Processed) (frames : Nat) (underrun : Bool) :
    (count p frames underrun).context.patchbay = p.context.patchbay := by
  rw [count]
  split <;> rfl

theorem record_count (p : Processed) (frames : Nat) (underrun : Bool) :
    (count p frames underrun).record = p.record := by
  rw [count]
  split <;> rfl

/-- What a handler does in an output period touches neither the counters nor the clock readings,
and its memory is silenced from the frames on that it did not serve. -/
theorem output_eq (c : Callback) (v : View) (m : Memory) (context : Context) :
    let served := c.handler.serve v m context.patchbay
    let p := (c.output v m context).2
    (c.output v m context).1 = v.framesServed served.1 ∧
      p.memory = v.silenceFrom served.2 (v.framesServed served.1) ∧
      p.callback.stats p.context = c.stats context ∧ p.context.times = context.times := by
  cases h : c.handler with
  | render server =>
    obtain ⟨hproduced, hmemory⟩ := server.fill_eq v m context.patchbay
    rw [output, h]
    refine ⟨hproduced, ?_, rfl, rfl⟩
    show v.silenceFrom (server.fill v m context.patchbay).memory _ = _
    rw [hproduced, hmemory]
  | none => rw [output, h]; exact ⟨rfl, rfl, rfl, rfl⟩
  | capture server => rw [output, h]; exact ⟨rfl, rfl, rfl, rfl⟩

/-- What a handler does in an input period touches neither the memory, nor the counters, nor the
clock readings. -/
theorem input_eq (c : Callback) (v : View) (m : Memory) (context : Context) :
    let p := c.input v m context
    p.memory = m ∧ p.callback.stats p.context = c.stats context ∧
      p.context.times = context.times := by
  cases h : c.handler with
  | capture server => rw [input, h]; exact ⟨rfl, rfl, rfl⟩
  | none => rw [input, h]; exact ⟨rfl, rfl, rfl⟩
  | render server => rw [input, h]; exact ⟨rfl, rfl, rfl⟩

/-! ## A whole period -/

/-- The frames that the application served in an output period. -/
def served (c : Callback) (v : View) (m : Memory) (context : Context) : Nat :=
  v.framesServed (c.handler.serve v m context.patchbay).1

/-- The memory as the application left it in an output period. -/
def left (c : Callback) (v : View) (m : Memory) (context : Context) : Memory :=
  (c.handler.serve v m context.patchbay).2

/-- An output period is dealt with once its reading is recorded, and counted then. -/
theorem process_of_output {c : Callback} (h : c.direction = .output) (v : View) (m : Memory)
    (time : Timestamp) (context : Context) :
    c.process v m time context =
      count (c.output v m (c.recordTime time context)).2 v.frames
        (decide ((c.output v m (c.recordTime time context)).1 < v.frames)) := by
  rw [process, h]

/-- So is an input period. -/
theorem process_of_input {c : Callback} (h : c.direction = .input) (v : View) (m : Memory)
    (time : Timestamp) (context : Context) :
    c.process v m time context = count (c.input v m (c.recordTime time context)) v.frames false := by
  rw [process, h]

/-- An output period silences what was not served, and counts an underrun if that is anything. -/
theorem process_output {c : Callback} (h : c.direction = .output) (v : View) (m : Memory)
    (time : Timestamp) (context : Context) :
    let p := c.process v m time context
    p.memory = v.silenceFrom (c.left v m context) (c.served v m context) ∧
      p.callback.stats p.context =
        (c.stats context).count v.frames (decide (c.served v m context < v.frames)) ∧
      p.context.times = (c.recordTime time context).times := by
  obtain ⟨hproduced, hmemory, hstats, htimes⟩ := c.output_eq v m (c.recordTime time context)
  rw [process_of_output h]
  refine ⟨?_, ?_, ?_⟩
  · rw [memory_count, hmemory]
    rfl
  · rw [stats_count, hstats, hproduced]
    rfl
  · rw [times_count, htimes]

/-- An input period leaves the memory alone and counts no underrun. -/
theorem process_input {c : Callback} (h : c.direction = .input) (v : View) (m : Memory)
    (time : Timestamp) (context : Context) :
    let p := c.process v m time context
    p.memory = m ∧ p.callback.stats p.context = (c.stats context).count v.frames false ∧
      p.context.times = (c.recordTime time context).times := by
  obtain ⟨hmemory, hstats, htimes⟩ := c.input_eq v m (c.recordTime time context)
  rw [process_of_input h]
  refine ⟨?_, ?_, ?_⟩
  · rw [memory_count, hmemory]
  · rw [stats_count, hstats]
    rfl
  · rw [times_count, htimes]

/-- An output period is handed to what renders: it fills the view over the memory as it comes.  What
it is afterwards, what it did to the queues and what its routine showed are kept. -/
theorem process_render {c : Callback} (h : c.direction = .output) {server : Server Action}
    (hserver : c.handler = .render server) (v : View) (m : Memory) (time : Timestamp)
    (context : Context) :
    let filled := server.fill v m context.patchbay
    let p := c.process v m time context
    p.callback.handler = .render filled.server ∧ p.context.patchbay = filled.patchbay ∧
      p.record = filled.record := by
  rw [process_of_output h]
  refine ⟨?_, ?_, ?_⟩
  · rw [handler_count, output, hserver]
    rfl
  · rw [patchbay_count, output, hserver]
    rfl
  · rw [record_count, output, hserver]
    rfl

/-- An input period is handed to what captures: it drains the view over the memory as it comes.  What
it is afterwards, what it did to the queues and what its routine showed are kept. -/
theorem process_capture {c : Callback} (h : c.direction = .input) {server : Server Query}
    (hserver : c.handler = .capture server) (v : View) (m : Memory) (time : Timestamp)
    (context : Context) :
    let drained := server.drain v m context.patchbay
    let p := c.process v m time context
    p.callback.handler = .capture drained.server ∧ p.context.patchbay = drained.patchbay ∧
      p.record = drained.record := by
  rw [process_of_input h]
  refine ⟨?_, ?_, ?_⟩
  · rw [handler_count, input, hserver]
    rfl
  · rw [patchbay_count, input, hserver]
    rfl
  · rw [record_count, input, hserver]
    rfl

/-- A period is handed to nobody if there is no handler, or one that does not serve the direction.  The
handler and the queues stay as they are then, and nothing is shown. -/
theorem process_unserved {c : Callback}
    (hunserved : c.handler = .none ∨ c.handler.accepts c.direction = false) (v : View) (m : Memory)
    (time : Timestamp) (context : Context) :
    let p := c.process v m time context
    p.callback.handler = c.handler ∧ p.context.patchbay = context.patchbay ∧ p.record = none := by
  cases hdirection : c.direction with
  | output =>
    cases hhandler : c.handler with
    | render server =>
      rw [hhandler, hdirection] at hunserved
      rcases hunserved with h | h <;> cases h
    | _ =>
      simp only [process_of_output hdirection, handler_count, patchbay_count, record_count, output,
        hhandler]
      exact ⟨trivial, rfl, trivial⟩
  | input =>
    cases hhandler : c.handler with
    | capture server =>
      rw [hhandler, hdirection] at hunserved
      rcases hunserved with h | h <;> cases h
    | _ =>
      simp only [process_of_input hdirection, handler_count, patchbay_count, record_count, input,
        hhandler]
      exact ⟨trivial, rfl, trivial⟩

/-- Who is handed a period, and what is kept of it. -/
theorem process_cases (c : Callback) (v : View) (m : Memory) (time : Timestamp) (context : Context) :
    let p := c.process v m time context
    (∃ server, c.direction = .output ∧ c.handler = .render server ∧
      let filled := server.fill v m context.patchbay
      p.callback.handler = .render filled.server ∧ p.context.patchbay = filled.patchbay ∧
        p.record = filled.record) ∨
    (∃ server, c.direction = .input ∧ c.handler = .capture server ∧
      let drained := server.drain v m context.patchbay
      p.callback.handler = .capture drained.server ∧ p.context.patchbay = drained.patchbay ∧
        p.record = drained.record) ∨
    (c.handler = .none ∨ c.handler.accepts c.direction = false) ∧
      p.callback.handler = c.handler ∧ p.context.patchbay = context.patchbay ∧ p.record = none := by
  intro p
  by_cases hunserved : c.handler = .none ∨ c.handler.accepts c.direction = false
  · exact .inr (.inr ⟨hunserved, process_unserved hunserved v m time context⟩)
  · cases hdirection : c.direction with
    | output =>
      cases hhandler : c.handler with
      | render server =>
        exact .inl ⟨server, rfl, rfl, process_render hdirection hhandler v m time context⟩
      | none => exact absurd (.inl hhandler) hunserved
      | capture server =>
        refine absurd (.inr ?_) hunserved
        rw [hhandler, hdirection]
        rfl
    | input =>
      cases hhandler : c.handler with
      | capture server =>
        exact .inr (.inl ⟨server, rfl, rfl, process_capture hdirection hhandler v m time context⟩)
      | none => exact absurd (.inl hhandler) hunserved
      | render server =>
        refine absurd (.inr ?_) hunserved
        rw [hhandler, hdirection]
        rfl

/-- A period of either direction counts its frames and itself. -/
theorem stats_process (c : Callback) (v : View) (m : Memory) (time : Timestamp)
    (context : Context) :
    let p := c.process v m time context
    (p.callback.stats p.context).frames = (c.stats context).frames + .ofNat v.frames ∧
      (p.callback.stats p.context).callbacks = (c.stats context).callbacks + 1 := by
  cases h : c.direction with
  | output =>
    obtain ⟨-, hstats, -⟩ := process_output h v m time context
    show (Callback.stats _ _).frames = _ ∧ (Callback.stats _ _).callbacks = _
    rw [hstats]
    exact ⟨rfl, rfl⟩
  | input =>
    obtain ⟨-, hstats, -⟩ := process_input h v m time context
    show (Callback.stats _ _).frames = _ ∧ (Callback.stats _ _).callbacks = _
    rw [hstats]
    exact ⟨rfl, rfl⟩

/-- A period records its clock reading for its direction, and no other one. -/
theorem times_process (c : Callback) (v : View) (m : Memory) (time : Timestamp)
    (context : Context) :
    (c.process v m time context).context.times =
      context.times.map fun times => (times.record c.direction time).2 := by
  cases h : c.direction with
  | output =>
    rw [(process_output h v m time context).2.2, recordTime, h]
  | input =>
    rw [(process_input h v m time context).2.2, recordTime, h]

/-- A period of either direction leaves that direction with its first clock reading. -/
theorem exists_first?_process (c : Callback) (v : View) (m : Memory) (time : Timestamp)
    (context : Context) {times : StartTimes} (htimes : context.times = some times) :
    ∃ times' first, (c.process v m time context).context.times = some times' ∧
      times'.first? c.direction = some first := by
  obtain ⟨first, hfirst⟩ := times.exists_first?_record c.direction time
  refine ⟨_, first, ?_, hfirst⟩
  rw [times_process, htimes]
  rfl

/-- The silence guard.  After an output period over a sound view the frames that the application
served read as it left them and all others as silence, and there is one more underrun exactly if
there are others.  An input period changes neither the memory nor the underruns.  The other counters
and the first clock reading follow in both directions, whatever the application did. -/
theorem process_guarded (c : Callback) {v : View} (hv : v.Sound) (m : Memory) (time : Timestamp)
    (context : Context) :
    let before := c.stats context
    let p := c.process v m time context
    let after := p.callback.stats p.context
    (c.direction = .output →
      (∀ channel < v.channels, ∀ frame < v.frames,
        v.read p.memory v.format channel frame =
          if c.served v m context ≤ frame then .ok (Sample.silent v.format)
          else v.read (c.left v m context) v.format channel frame) ∧
      after.underruns =
        if c.served v m context < v.frames then before.underruns + 1 else before.underruns) ∧
    (c.direction = .input → p.memory = m ∧ after.underruns = before.underruns) ∧
    after.frames = before.frames + .ofNat v.frames ∧
    after.callbacks = before.callbacks + 1 ∧
    ∀ times, context.times = some times →
      ∃ times' first, p.context.times = some times' ∧ times'.first? c.direction = some first := by
  intro before p after
  have hcount : after.frames = _ ∧ after.callbacks = _ := c.stats_process v m time context
  refine ⟨fun h => ?_, fun h => ?_, hcount.1, hcount.2, fun times htimes => ?_⟩
  · obtain ⟨hmemory, hstats, -⟩ := process_output h v m time context
    refine ⟨fun channel hc frame hf => ?_, ?_⟩
    · show v.read (c.process v m time context).memory _ _ _ = _
      rw [hmemory, View.read_silenceFrom hv _ _ hc hf]
    · show (Callback.stats _ _).underruns = _
      rw [hstats]
      by_cases hp : c.served v m context < v.frames
      · rw [if_pos hp, decide_eq_true hp]
        rfl
      · rw [if_neg hp, decide_eq_false hp]
        exact UInt64.add_zero _
  · obtain ⟨hmemory, hstats, -⟩ := process_input h v m time context
    refine ⟨hmemory, ?_⟩
    show (Callback.stats _ _).underruns = _
    rw [hstats]
    exact UInt64.add_zero _
  · exact c.exists_first?_process v m time context htimes

/-- Two channels whose samples alternate in the five bytes that both of them declare. -/
def alternating : View := .ofAreas [⟨some 0, 2, 5⟩, ⟨some 1, 2, 5⟩] 3 .i8

theorem alternating_sound : alternating.Sound where
  length_eq := rfl
  covers := by decide
  cells_apart := by decide
  packed_apart := by decide

/-- A routine that fills three frames of two channels and returns one. -/
def overfilling : Callback where
  direction := .output
  config := {}
  handler := .render (.routine (.ofScript [{ ops := [.ramp .i8 3 1], ending := .frames 1 }]))

theorem process_guarded_overfilling :
    let p := overfilling.process alternating (.filled 8 7) (.ofNanos 5) { times := some {} }
    alternating.Sound ∧
      alternating.read p.memory .i8 1 0 = .ok 2 ∧ alternating.read p.memory .i8 1 2 = .ok 0 ∧
      (p.callback.stats p.context).underruns = 1 ∧
      ∃ times' first, p.context.times = some times' ∧ times'.first? .output = some first := by
  obtain ⟨houtput, -, -, -, htimes⟩ :=
    process_guarded overfilling alternating_sound (.filled 8 7) (.ofNanos 5) { times := some {} }
  obtain ⟨hread, hunderruns⟩ := houtput rfl
  refine ⟨alternating_sound, ?_, ?_, hunderruns.trans (by decide), htimes _ rfl⟩
  · exact (hread 1 (by decide) 0 (by decide)).trans rfl
  · exact (hread 1 (by decide) 2 (by decide)).trans rfl

end Callback

end PcmStream
