/-
  Callbacks over the same samples in different layouts.

  A program that never asks for the layout gets the same replies whatever it is, and so takes the
  same way (`Program.render_alike`, `Program.capture_eq`).  A hand-off queue goes through its view
  sample by sample and does not look at the layout either.

  `Handler.Blind` is what this asks of a handler, now and in every later callback.  Then a whole
  period is processed alike (`Callback.process_alike`): the callback, the counters, the clock
  readings and the queues are the same afterwards, the application's routine has seen the same, and
  the two views still hold the same samples.
-/
import PcmStream.Proofs.View.Layouts
import PcmStream.Proofs.Callback.SilenceGuard

namespace PcmStream

/-! ## Handlers that do not look at the layout -/

/-- Whether none of the operations that a program may come to is the question for the layout. -/
def Program.Blind {Op : Type} (blind : Op → Bool) : Program Op → Prop
  | finish _ => True
  | step op next => blind op = true ∧ ∀ reply, (next reply).Blind blind

/-- Whether this is so of the program of every callback. -/
def Routine.Blind {Op : Type} (blind : Op → Bool) (r : Routine Op) : Prop :=
  ∀ past, (r.next past).Blind blind

/-- A queue does not look at the layout. -/
def Server.Blind {Op : Type} (blind : Op → Bool) : Server Op → Prop
  | routine r => r.Blind blind
  | queue _ => True

/-- Whether a handler never looks at the layout. -/
def Handler.Blind : Handler → Prop
  | none => True
  | render server => server.Blind Action.blind
  | capture server => server.Blind Query.blind

/-- Operations in order make up a program that looks at the layout only if one of them does. -/
theorem Program.blind_ofList {Op : Type} {blind : Op → Bool} (ending : Ending) {ops : List Op}
    (h : ∀ op ∈ ops, blind op = true) : (ofList ending ops).Blind blind := by
  induction ops with
  | nil => trivial
  | cons op ops ih =>
    refine ⟨h op List.mem_cons_self, fun reply => ?_⟩
    cases reply with
    | ok answer => exact ih fun op hop => h op (List.mem_cons_of_mem _ hop)
    | error e => trivial

/-- So does a script. -/
theorem Routine.blind_ofScript {Op : Type} {blind : Op → Bool} {calls : List (Call Op)}
    (h : ∀ call ∈ calls, ∀ op ∈ call.ops, blind op = true) : (ofScript calls).Blind blind := by
  intro past
  refine Program.blind_ofList _ ?_
  cases hcall : calls[past.length]? <|> calls.getLast? with
  | none => exact nofun
  | some call =>
    refine h call ?_
    rcases hget : calls[past.length]? with _ | call'
    · rw [hget] at hcall
      exact List.mem_of_getLast? hcall
    · rw [hget] at hcall
      cases hcall
      exact List.mem_of_getElem? hget

/-! ## The size of the memory -/

theorem Program.size_render (v : View) (p : Program Action) (m : Memory) :
    (p.render v m).2.size = m.size := by
  induction p generalizing m with
  | finish e => rfl
  | step a next ih => exact (ih (a.run v m).1 (a.run v m).2).trans (v.size_run m a)

theorem Queue.size_render {type : SampleFormat} (q : Queue type) (v : View) (m : Memory) :
    (q.render v m).2.1.size = m.size := by
  have hplace := v.size_place 0 (q.take (min v.frames q.queuedFrames)).1 m
  rw [render]
  cases q.check v with
  | error e => rfl
  | ok =>
    rcases hp : v.place 0 (q.take (min v.frames q.queuedFrames)).1 m with ⟨e | _, m'⟩ <;>
      rw [hp] at hplace
    · simpa only [hp] using hplace
    · simpa only [hp] using hplace

theorem Server.size_fill (server : Server Action) (v : View) (m : Memory) (p : Patchbay) :
    (server.fill v m p).memory.size = m.size := by
  cases server with
  | routine r => exact r.program.size_render v m
  | queue key =>
    rw [fill]
    cases p.queue? key with
    | none => rfl
    | some any => exact any.queue.size_render v m

/-- Neither does a period change the size of the memory. -/
theorem Callback.size_process (c : Callback) (v : View) (m : Memory) (time : Timestamp)
    (context : Context) : (c.process v m time context).memory.size = m.size := by
  rw [process]
  cases c.direction with
  | input => rw [memory_count, (c.input_eq v m _).1]
  | output =>
    rw [memory_count, output]
    cases c.handler with
    | render server => exact (v.size_silenceFrom ..).trans (server.size_fill v m _)
    | _ => exact v.size_silenceFrom ..

/-! ## Programs -/

variable {v v' : View} {m m' : Memory}

/-- A program for playback shows the same over both views, and leaves them alike. -/
theorem Program.render_alike {p : Program Action} (hp : p.Blind Action.blind)
    (h : v.Alike m v' m') :
    (p.render v m).1 = (p.render v' m').1 ∧ v.Alike (p.render v m).2 v' (p.render v' m').2 := by
  induction p generalizing m m' with
  | finish e => exact ⟨rfl, h⟩
  | step a next ih =>
    obtain ⟨hreply, hmemory⟩ := h.run hp.1
    rcases hrun : a.run v m with ⟨reply, m₁⟩
    rcases hrun' : a.run v' m' with ⟨reply', m₁'⟩
    rw [hrun, hrun'] at hreply hmemory
    obtain rfl : reply = reply' := hreply
    obtain ⟨hnext, hlater⟩ := ih reply (hp.2 reply) hmemory
    simp only [render, hrun, hrun']
    exact ⟨by rw [hnext], hlater⟩

/-- So does one for capture. -/
theorem Program.capture_eq {p : Program Query} (hp : p.Blind Query.blind) (h : v.Alike m v' m') :
    p.capture v m = p.capture v' m' := by
  induction p with
  | finish e => rfl
  | step q next ih =>
    rw [capture, capture, ← h.answer_eq hp.1]
    simp only [ih (q.answer v m) (hp.2 _)]

/-! ## Queues -/

namespace Queue

variable {type : SampleFormat} (q : Queue type)

theorem check_eq (h : v.Alike m v' m') : q.check v = q.check v' := by
  rw [check, check, h.format_eq, h.channels_eq]

/-- A queue renders the same into both views. -/
theorem render_alike (h : v.Alike m v' m') :
    (q.render v m).1 = (q.render v' m').1 ∧ (q.render v m).2.2 = (q.render v' m').2.2 ∧
      v.Alike (q.render v m).2.1 v' (q.render v' m').2.1 := by
  obtain ⟨hresult, hmemory⟩ := h.place 0 (q.take (min v.frames q.queuedFrames)).1
  rw [render, render, ← q.check_eq h, ← h.frames_eq]
  cases q.check v with
  | error e => exact ⟨rfl, rfl, h⟩
  | ok =>
    rcases hp : v.place 0 (q.take (min v.frames q.queuedFrames)).1 m with ⟨e | _, m₁⟩ <;>
      rcases hp' : v'.place 0 (q.take (min v.frames q.queuedFrames)).1 m' with ⟨result, m₁'⟩ <;>
      rw [hp, hp'] at hresult hmemory <;> cases hresult
    · simp only [hp, hp', true_and]
      exact hmemory
    · simp only [hp, hp', true_and]
      exact hmemory

/-- A queue captures the same from both. -/
theorem capture_eq (h : v.Alike m v' m') : q.capture v m = q.capture v' m' := by
  rw [capture, capture, ← q.check_eq h, ← h.frames_eq]
  simp only [h.collect_eq]

end Queue

/-! ## Callbacks -/

/-- What a routine that does not look at the layout gets to see: the shape of the view, and what
its operations are answered with. -/
def CallbackRecord.seen (r : CallbackRecord) : Shape × Run := (r.view.shape, r.run)

/-- Two outcomes of filling a view, over the given views. -/
structure Rendered.Alike (v v' : View) (r r' : Rendered) : Prop where
  /-- As many frames were produced. -/
  produced_eq : r.produced = r'.produced
  /-- The server is the same afterwards. -/
  server_eq : r.server = r'.server
  /-- So are the queues. -/
  patchbay_eq : r.patchbay = r'.patchbay
  /-- The routine has seen the same. -/
  seen_eq : r.record.map CallbackRecord.seen = r'.record.map CallbackRecord.seen
  /-- The views hold the same samples. -/
  memory : v.Alike r.memory v' r'.memory

/-- Two outcomes of draining a view. -/
structure Drained.Alike (r r' : Drained) : Prop where
  /-- The server is the same afterwards. -/
  server_eq : r.server = r'.server
  /-- So are the queues. -/
  patchbay_eq : r.patchbay = r'.patchbay
  /-- The routine has seen the same. -/
  seen_eq : r.record.map CallbackRecord.seen = r'.record.map CallbackRecord.seen

/-- Two outcomes of a period, over the given views. -/
structure Processed.Alike (v v' : View) (p p' : Processed) : Prop where
  /-- The callback is the same afterwards. -/
  callback_eq : p.callback = p'.callback
  /-- So is what it shares with the controlling side. -/
  context_eq : p.context = p'.context
  /-- The routine has seen the same. -/
  seen_eq : p.record.map CallbackRecord.seen = p'.record.map CallbackRecord.seen
  /-- The views hold the same samples. -/
  memory : v.Alike p.memory v' p'.memory

/-- Both views are filled alike. -/
theorem Server.fill_alike {server : Server Action} (hserver : server.Blind Action.blind)
    (h : v.Alike m v' m') (p : Patchbay) :
    (server.fill v m p).Alike v v' (server.fill v' m' p) := by
  cases server with
  | routine r =>
    obtain ⟨hrun, hmemory⟩ := Program.render_alike (hserver r.past) h
    rw [fill, fill]
    simp only [Routine.program, ← hrun]
    refine ⟨?_, rfl, rfl, ?_, hmemory⟩
    · rw [h.frames_eq]
    · exact congrArg (fun shape => some (shape, _)) h.shape_eq
  | queue key =>
    rw [fill, fill]
    cases p.queue? key with
    | none => exact ⟨rfl, rfl, rfl, rfl, h⟩
    | some any =>
      obtain ⟨hresult, hqueue, hmemory⟩ := any.queue.render_alike h
      simp only [← hresult, ← hqueue, ← h.frames_eq]
      exact ⟨rfl, rfl, rfl, rfl, hmemory⟩

/-- Both views are drained alike. -/
theorem Server.drain_alike {server : Server Query} (hserver : server.Blind Query.blind)
    (h : v.Alike m v' m') (p : Patchbay) :
    (server.drain v m p).Alike (server.drain v' m' p) := by
  cases server with
  | routine r =>
    rw [drain, drain]
    simp only [Routine.program, ← Program.capture_eq (hserver r.past) h]
    exact ⟨rfl, rfl, congrArg (fun shape => some (shape, _)) h.shape_eq⟩
  | queue key =>
    rw [drain, drain]
    cases p.queue? key with
    | none => exact ⟨rfl, rfl, rfl⟩
    | some any =>
      simp only [← any.queue.capture_eq h]
      exact ⟨rfl, rfl, rfl⟩

/-- Having filled a view, a server does not look at the layout later on either: a routine goes on as
it was made. -/
theorem Server.blind_fill {blind : Action → Bool} {server : Server Action}
    (hserver : server.Blind blind) (v : View) (m : Memory) (p : Patchbay) :
    (server.fill v m p).server.Blind blind := by
  cases server with
  | routine r => exact hserver
  | queue key =>
    rw [fill]
    cases p.queue? key <;> trivial

/-- Nor does it having drained one. -/
theorem Server.blind_drain {blind : Query → Bool} {server : Server Query}
    (hserver : server.Blind blind) (v : View) (m : Memory) (p : Patchbay) :
    (server.drain v m p).server.Blind blind := by
  cases server with
  | routine r => exact hserver
  | queue key =>
    rw [drain]
    cases p.queue? key <;> trivial

namespace Callback

variable {c : Callback}

/-- The count of a period does not depend on how its samples lie. -/
theorem count_alike {p p' : Processed} (h : p.Alike v v' p') (frames : Nat) (underrun : Bool) :
    (count p frames underrun).Alike v v' (count p' frames underrun) := by
  obtain ⟨callback, memory, context, record⟩ := p
  obtain ⟨callback', memory', context', record'⟩ := p'
  obtain ⟨hcallback, hcontext, hseen, hmemory⟩ := h
  cases hcallback
  cases hcontext
  rw [count, count]
  cases callback.ownStats with
  | none => exact ⟨rfl, rfl, hseen, hmemory⟩
  | some own => exact ⟨rfl, rfl, hseen, hmemory⟩

/-- An output period is dealt with alike. -/
theorem output_alike (hc : c.handler.Blind) (h : v.Alike m v' m') (context : Context) :
    (c.output v m context).1 = (c.output v' m' context).1 ∧
      (c.output v m context).2.Alike v v' (c.output v' m' context).2 := by
  rw [output, output]
  cases hhandler : c.handler with
  | none => exact ⟨rfl, rfl, rfl, rfl, h.silenceFrom 0⟩
  | capture server => exact ⟨rfl, rfl, rfl, rfl, h.silenceFrom 0⟩
  | render server =>
    rw [hhandler] at hc
    have hfill := Server.fill_alike hc h context.patchbay
    simp only [← hfill.produced_eq, ← hfill.server_eq, ← hfill.patchbay_eq, true_and]
    exact ⟨rfl, rfl, hfill.seen_eq, hfill.memory.silenceFrom _⟩

/-- So is an input period. -/
theorem input_alike (hc : c.handler.Blind) (h : v.Alike m v' m') (context : Context) :
    (c.input v m context).Alike v v' (c.input v' m' context) := by
  rw [input, input]
  cases hhandler : c.handler with
  | none => exact ⟨rfl, rfl, rfl, h⟩
  | render server => exact ⟨rfl, rfl, rfl, h⟩
  | capture server =>
    rw [hhandler] at hc
    have hdrain := Server.drain_alike hc h context.patchbay
    simp only [← hdrain.server_eq, ← hdrain.patchbay_eq]
    exact ⟨rfl, rfl, hdrain.seen_eq, h⟩

/-- A callback that does not look at the layout processes a period alike in both. -/
theorem process_alike (hc : c.handler.Blind) (h : v.Alike m v' m') (time : Timestamp)
    (context : Context) :
    (c.process v m time context).Alike v v' (c.process v' m' time context) := by
  rw [process, process]
  cases c.direction with
  | input =>
    simp only [← h.frames_eq]
    exact count_alike (input_alike hc h _) ..
  | output =>
    obtain ⟨hproduced, halike⟩ := output_alike hc h (c.recordTime time context)
    simp only [← hproduced, ← h.frames_eq]
    exact count_alike halike ..

/-- Nor does the callback look at the layout later on. -/
theorem blind_process (hc : c.handler.Blind) (v : View) (m : Memory) (time : Timestamp)
    (context : Context) : (c.process v m time context).callback.handler.Blind := by
  rcases c.process_cases v m time context with
    ⟨server, -, hserver, hhandler, -⟩ | ⟨server, -, hserver, hhandler, -⟩ | ⟨-, hhandler, -⟩
  · rw [hserver] at hc
    rw [hhandler]
    exact server.blind_fill hc ..
  · rw [hserver] at hc
    rw [hhandler]
    exact server.blind_drain hc ..
  · rwa [hhandler]

end Callback

end PcmStream
