/-
  Whole runs in both layouts.

  Two benches whose devices differ in the layout of their periods are driven by the same moves: any
  commands of the test bench, and besides openings and configurations with handlers of any kind,
  as long as the handlers do not look at the layout (`BenchMove.Blind`).

  `SoftTurn.Alike` is what a move shows in both.  It is the step (`BenchMove.run_alike`): the
  operations on a stream by the simulation of their devices, a tick by `SoftDevice.Alike.tick`, and
  the rest since it does not depend on the device or only on its callback.  By induction it holds
  at every point of every run (`BenchMove.alike_runAll`), and so `layout_independent` holds of all
  runs that begin with fresh devices.
-/
import PcmStream.Proofs.SoftDevice.Layouts
import PcmStream.Proofs.Stream.Simulation
import PcmStream.Bench.SoftStream

namespace PcmStream.Bench

/-! ## Moves that do not look at the layout -/

/-- Whether no operation of a script looks at the layout. -/
def ServerPlan.Blind : ServerPlan → Prop
  | render calls => ∀ call ∈ calls, ∀ op ∈ call.ops, op.blind = true
  | capture calls => ∀ call ∈ calls, ∀ op ∈ call.ops, op.blind = true
  | none | renderQueue .. | captureQueue .. => True

theorem Application.blind_prepare (a : Application) {plan : ServerPlan} (h : plan.Blind) :
    (a.prepare plan).1.Blind := by
  cases plan with
  | render calls => exact Routine.blind_ofScript h
  | capture calls => exact Routine.blind_ofScript h
  | _ => trivial

/-- Whether the plan of a command, if it has one, does not look at the layout. -/
def StreamCommand.Blind : StreamCommand → Prop
  | .open _ _ plan _ => plan.Blind
  | configure _ plan _ => plan.Blind
  | _ => True

/-- Whether the plan of a call, if it has one, does not look at the layout. -/
def DirectCall.Blind : DirectCall → Prop
  | register _ _ plan _ => plan.Blind
  | _ => True

/-- Whether the plan of a command, if it has one, does not look at the layout. -/
def SoftCommand.Blind : SoftCommand → Prop
  | stream c => c.Blind
  | direct c => c.Blind
  | controller _ | atEnd .. => True

/-- Anything that can be done to a bench. -/
inductive BenchMove
  /-- A command. -/
  | command (c : SoftCommand)
  /-- Open a stream with any handler. -/
  | open (direction : Direction) (requested : StreamConfig) (handler : Handler) (options : Options)
  /-- Configure the stream with any handler. -/
  | configure (requested : StreamConfig) (handler : Handler) (options : Options)

namespace BenchMove

/-- Make a move. -/
def run (b : SoftBench) : BenchMove → SoftTurn
  | command c => b.run c
  | .open direction requested handler options =>
    match b.slot with
    | .free device =>
      match Stream.open device direction requested handler options with
      | .ok s log =>
        { reply := .stream (.result (.ok ()))
          bench := { b with slot := .owned s }
          log }
      | .failed e device log =>
        { reply := .stream (.result (.error e))
          bench := { b with slot := .leftBehind device }
          log }
    | _ => { reply := .stream .noDevice, bench := b }
  | configure requested handler options =>
    match b.slot with
    | .owned s =>
      let o := s.configure requested handler options
      { reply := .stream (.result o.result)
        bench := { b with slot := .owned o.stream }
        log := o.log }
    | _ => { reply := .stream .noStream, bench := b }

/-- Make moves in order. -/
def runAll (b : SoftBench) (moves : List BenchMove) : SoftBench :=
  moves.foldl (fun b m => (m.run b).bench) b

/-- Whether the handler of a move, if it has one, does not look at the layout. -/
def Blind : BenchMove → Prop
  | command c => c.Blind
  | .open _ _ handler _ => handler.Blind
  | configure _ handler _ => handler.Blind

end BenchMove

/-! ## Benches that differ in the layout -/

/-- Two devices in the same place that differ in the layout only. -/
inductive Slot.Alike : Slot SoftDevice → Slot SoftDevice → Prop
  /-- Not in a stream yet. -/
  | free {d d' : SoftDevice} (h : d.Alike d') : Alike (.free d) (.free d')
  /-- In streams that do not differ otherwise. -/
  | owned {s s' : Stream SoftDevice} (h : s.Alike SoftDevice.Alike s') :
    Alike (.owned s) (.owned s')
  /-- Left behind. -/
  | leftBehind {d d' : SoftDevice} (h : d.Alike d') : Alike (.leftBehind d) (.leftBehind d')

/-- Two benches that do not differ otherwise. -/
structure SoftBench.Alike (b b' : SoftBench) : Prop where
  /-- The device is in the same place. -/
  slot : b.slot.Alike b'.slot
  /-- The application is the same. -/
  application_eq : b.application = b'.application
  /-- The periods kept hold the same samples. -/
  period : Option.Rel Period.Alike b.period b'.period

/-- Two answers that are the same, up to the order of the bytes of a period. -/
inductive SoftReply.Alike : SoftReply → SoftReply → Prop
  /-- The same answer. -/
  | same (r : SoftReply) : Alike r r
  /-- The periods of a tick. -/
  | ticked {p p' : Period} (h : p.Alike p') :
      Alike (.controller (.ticked (some p))) (.controller (.ticked (some p')))

theorem SoftReply.Alike.of_eq {r r' : SoftReply} (h : r = r') : r.Alike r' := h ▸ .same r

/-- What a move shows on two benches that differ in the layout only. -/
structure SoftTurn.Alike (t t' : SoftTurn) : Prop where
  /-- The answers are the same, up to the order of the bytes of a period. -/
  reply : t.reply.Alike t'.reply
  /-- The same events are noted. -/
  log_eq : t.log = t'.log
  /-- Every operation of every callback is answered the same. -/
  seen_eq : t.records.map CallbackRecord.seen = t'.records.map CallbackRecord.seen
  /-- The counters are the same afterwards. -/
  stats_eq : t.bench.slot.stats = t'.bench.slot.stats
  /-- The benches still differ in the layout only. -/
  bench : t.bench.Alike t'.bench

namespace Slot.Alike

variable {slot slot' : Slot SoftDevice} {d d' : SoftDevice}

theorem device (h : slot.Alike slot') : slot.device.Alike slot'.device := by
  cases h with
  | free h => exact h
  | owned h => exact h.device
  | leftBehind h => exact h

theorem stats_eq (h : slot.Alike slot') : slot.stats = slot'.stats := by
  cases h with
  | free h => rfl
  | owned h => obtain ⟨hdevice, direction, config, state, stats⟩ := h; rfl
  | leftBehind h => rfl

theorem withDevice (h : slot.Alike slot') (hd : d.Alike d') :
    (slot.withDevice d).Alike (slot'.withDevice d') := by
  cases h with
  | free h => exact .free hd
  | owned h =>
    obtain ⟨hdevice, direction, config, state, stats⟩ := h
    exact .owned (.intro hd ..)
  | leftBehind h => exact .leftBehind hd

theorem withStats (h : slot.Alike slot') (stats : Stats) :
    (slot.withStats stats).Alike (slot'.withStats stats) := by
  cases h with
  | free h => exact .free h
  | owned h =>
    obtain ⟨hdevice, direction, config, state, _⟩ := h
    exact .owned (.intro hdevice ..)
  | leftBehind h => exact .leftBehind h

end Slot.Alike

/-- It is enough that the benches are alike, the counters among them. -/
theorem SoftTurn.Alike.of_bench {t t' : SoftTurn} (hreply : t.reply.Alike t'.reply)
    (hlog : t.log = t'.log)
    (hseen : t.records.map CallbackRecord.seen = t'.records.map CallbackRecord.seen)
    (hbench : t.bench.Alike t'.bench) : t.Alike t' :=
  ⟨hreply, hlog, hseen, hbench.slot.stats_eq, hbench⟩

/-! ## Operations on a stream -/

/-- Two outcomes of a command that differ in the layout of the device only. -/
structure StreamTurn.Alike (t t' : StreamTurn SoftDevice) : Prop where
  /-- The answer is the same. -/
  reply_eq : t.reply = t'.reply
  /-- The device is in the same place. -/
  slot : t.slot.Alike t'.slot
  /-- The application is the same. -/
  application_eq : t.application = t'.application
  /-- So are the events. -/
  log_eq : t.log = t'.log

namespace StreamCommand

open SoftDevice (simulation)

variable {s s' : Stream SoftDevice} {d d' : SoftDevice} {slot slot' : Slot SoftDevice}

theorem ofOutcome_alike {o o' : Outcome SoftDevice} (h : o.Alike SoftDevice.Alike o')
    (application : Application) :
    (ofOutcome application o).Alike (ofOutcome application o') := by
  obtain ⟨result, log, s, s', rfl, rfl, hs⟩ := h.exists
  exact ⟨rfl, .owned hs, rfl, rfl⟩

theorem runOn_alike (h : s.Alike SoftDevice.Alike s') (application : Application)
    {c : StreamCommand} (hc : c.Blind) :
    (c.runOn s application).Alike (c.runOn s' application) := by
  cases c with
  | new direction => exact ⟨rfl, .owned h, rfl, rfl⟩
  | «open» direction config plan options => exact ⟨rfl, .owned h, rfl, rfl⟩
  | configure config plan options =>
    exact ofOutcome_alike
      (simulation.configure h config (application.blind_prepare hc) options) _
  | start => exact ofOutcome_alike (simulation.start h) _
  | stop => exact ofOutcome_alike (simulation.stop h) _
  | close => exact ofOutcome_alike (simulation.close h) _
  | debug =>
    have htext : s.debugText = s'.debugText := by
      obtain ⟨hdevice, direction, config, state, stats⟩ := h
      rfl
    rw [runOn, runOn, htext]
    exact ⟨rfl, .owned h, rfl, rfl⟩
  | drop =>
    obtain ⟨hdevice, hlog⟩ := simulation.drop h
    simp only [runOn, ← hlog]
    exact ⟨rfl, .leftBehind hdevice, rfl, rfl⟩

theorem runFree_alike (h : d.Alike d') (application : Application) {c : StreamCommand}
    (hc : c.Blind) : (c.runFree d application).Alike (c.runFree d' application) := by
  cases c with
  | new direction => exact ⟨rfl, .owned (.intro h ..), rfl, rfl⟩
  | «open» direction config plan options =>
    obtain ⟨log, s, s', hx, hy, hs⟩ | ⟨error, log, e, e', hx, hy, he⟩ :=
      (simulation.open h direction config (application.blind_prepare hc) options).exists
    · simp only [runFree, hx, hy]
      exact ⟨rfl, .owned hs, rfl, rfl⟩
    · simp only [runFree, hx, hy]
      exact ⟨rfl, .leftBehind he, rfl, rfl⟩
  | _ => exact ⟨rfl, .free h, rfl, rfl⟩

/-- Commands to a stream go alike. -/
theorem run_alike (h : slot.Alike slot') (application : Application) {c : StreamCommand}
    (hc : c.Blind) : (c.run slot application).Alike (c.run slot' application) := by
  cases h with
  | free h => exact runFree_alike h application hc
  | owned h => exact runOn_alike h application hc
  | leftBehind h => cases c <;> exact ⟨rfl, .leftBehind h, rfl, rfl⟩

end StreamCommand

/-! ## The hand that drives the device -/

/-- Two outcomes of driving devices that differ in the layout only. -/
structure ControllerTurn.Alike (t t' : ControllerTurn) : Prop where
  /-- The answer is the same, up to the order of the bytes of a period. -/
  reply : (SoftReply.controller t.reply).Alike (.controller t'.reply)
  /-- The devices still differ in the layout only. -/
  device : t.device.Alike t'.device
  /-- The periods kept hold the same samples. -/
  period : Option.Rel Period.Alike t.period t'.period
  /-- What the callback shares with the controlling side is the same. -/
  context_eq : t.context = t'.context
  /-- The application's routine has seen the same. -/
  seen_eq : t.records.map CallbackRecord.seen = t'.records.map CallbackRecord.seen

/-- The devices are driven alike. -/
theorem ControllerCommand.run_alike {d d' : SoftDevice} (h : d.Alike d')
    {period period' : Option Period} (hperiod : Option.Rel Period.Alike period period')
    {context context' : Context} (hcontext : context = context') (c : ControllerCommand) :
    (c.run d period context).Alike (c.run d' period' context') := by
  subst hcontext
  cases c with
  | setFaults faults =>
    obtain ⟨planar, hblind⟩ := h
    exact ⟨.same _, .intro (d.setFaults faults) planar hblind, hperiod, rfl, rfl⟩
  | pushInput type numbers =>
    obtain ⟨planar, hblind⟩ := h
    exact ⟨.same _, .intro (d.pushInput _) planar hblind, hperiod, rfl, rfl⟩
  | tick frames time =>
    obtain ⟨ht, ht'⟩ | ⟨t, t', ht, ht', halike⟩ := h.tick frames time context
    · simp only [run, ht, ht']
      exact ⟨.same _, h, .none, rfl, rfl⟩
    · simp only [run, ht, ht']
      refine ⟨.ticked halike.period, halike.device, .some halike.period, halike.context_eq, ?_⟩
      have hseen := congrArg Option.toList halike.seen_eq
      rwa [Option.toList_map, Option.toList_map] at hseen
  | periodSample type channel frame =>
    cases hperiod with
    | none => exact ⟨.same _, h, .none, rfl, rfl⟩
    | some hp =>
      simp only [run, ← hp.sample?_eq]
      exact ⟨.same _, h, .some hp, rfl, rfl⟩
  | periodChannel type channel =>
    cases hperiod with
    | none => exact ⟨.same _, h, .none, rfl, rfl⟩
    | some hp =>
      simp only [run, ← hp.channel_eq]
      exact ⟨.same _, h, .some hp, rfl, rfl⟩
  | debug => exact ⟨.same _, h, hperiod, rfl, rfl⟩

/-! ## Direct calls -/

section Direct

open SoftDevice (simulation)

variable {d d' : SoftDevice}

theorem DirectRequest.run_alike (h : d.Alike d') (r : DirectRequest) :
    Agree SoftDevice.Alike (r.run d) (r.run d') := by
  cases r with
  | request q =>
    obtain ⟨outcome, e, e', hx, hy, he⟩ := (h.request q).exists
    rw [run, run, hx, hy]
    exact .intro _ he
  | canPause =>
    rw [run, run, h.canPause_eq]
    exact .intro _ h
  | negotiate config =>
    obtain ⟨outcome, e, e', hx, hy, he⟩ := (simulation.toSimulation.run config h).exists
    rw [run, run, hx, hy]
    exact .intro _ he

theorem DirectRequest.runAll_alike (h : d.Alike d') (requests : List DirectRequest) :
    Agree SoftDevice.Alike (runAll requests d) (runAll requests d') := by
  induction requests generalizing d d' with
  | nil => exact .intro _ h
  | cons r requests ih =>
    obtain ⟨answer, e, e', hx, hy, he⟩ := (r.run_alike h).exists
    obtain ⟨answers, f, f', hx', hy', hf⟩ := (ih he).exists
    simp only [runAll, hx, hy, hx', hy']
    exact .intro _ hf

/-- Two outcomes of a direct call that differ in the layout of the device only. -/
structure DirectCall.Alike (x y : DirectReply × SoftDevice × Application) : Prop where
  /-- The answer is the same. -/
  reply_eq : x.1 = y.1
  /-- The devices still differ in the layout only. -/
  device : x.2.1.Alike y.2.1
  /-- The application is the same. -/
  application_eq : x.2.2 = y.2.2

/-- Direct calls go alike. -/
theorem DirectCall.run_alike (h : d.Alike d') (application : Application) {c : DirectCall}
    (hc : c.Blind) : Alike (c.run d application) (c.run d' application) := by
  -- Most calls make one call to the device and answer with its outcome.
  have hperform (c : DeviceCall) (hc : c.Admitted Handler.Blind) (application : Application) :
      Alike (.outcome (d.perform c).1, (d.perform c).2, application)
        (.outcome (d'.perform c).1, (d'.perform c).2, application) := by
    obtain ⟨outcome, e, e', hx, hy, he⟩ := (h.perform hc).exists
    rw [hx, hy]
    exact ⟨rfl, he, rfl⟩
  cases c with
  | acquire direction options => exact hperform (.acquire direction options) trivial _
  | start => exact hperform .start trivial _
  | stop => exact hperform .stop trivial _
  | tearDown => exact hperform .tearDown trivial _
  | dispose => exact hperform .dispose trivial _
  | debug => exact ⟨rfl, h, rfl⟩
  | parameters requests =>
    have hparameters : DeviceCall.parameters.Admitted Handler.Blind := trivial
    obtain ⟨outcome, e, e', hx, hy, he⟩ := (h.perform hparameters).exists
    cases outcome with
    | error status =>
      simp only [run, hx, hy]
      exact ⟨rfl, he, rfl⟩
    | ok =>
      obtain ⟨answers, f, f', hx', hy', hf⟩ := (DirectRequest.runAll_alike he requests).exists
      simp only [run, hx, hy, hx', hy']
      exact ⟨rfl, hf, rfl⟩
  | register direction config plan options =>
    have hblind := application.blind_prepare hc
    simp only [run]
    by_cases haccepts : (application.prepare plan).1.accepts direction = true
    · rw [if_pos haccepts, if_pos haccepts]
      exact hperform (.register _) (show Handler.Blind _ from hblind) _
    · rw [if_neg haccepts, if_neg haccepts]
      exact ⟨rfl, h, rfl⟩

end Direct

/-! ## Runs -/

namespace BenchMove

variable {b b' : SoftBench}

/-- A move shows the same in both layouts. -/
theorem run_alike (h : b.Alike b') {m : BenchMove} (hm : m.Blind) : (m.run b).Alike (m.run b') := by
  obtain ⟨slot, application, period⟩ := b
  obtain ⟨slot', application', period'⟩ := b'
  obtain ⟨hslot, happlication, hperiod⟩ := h
  obtain rfl : application = application' := happlication
  cases m with
  | command c =>
    cases c with
    | stream c =>
      have ht := c.run_alike hslot application hm
      exact .of_bench (.of_eq (congrArg SoftReply.stream ht.reply_eq)) ht.log_eq rfl
        ⟨ht.slot, ht.application_eq, hperiod⟩
    | controller c =>
      have hcontext : SoftBench.context ⟨slot, application, period⟩ =
          SoftBench.context ⟨slot', application, period'⟩ := by
        rw [SoftBench.context, SoftBench.context, hslot.stats_eq]
      have ht := c.run_alike hslot.device hperiod hcontext
      refine .of_bench ht.reply rfl ht.seen_eq ⟨?_, ?_, ht.period⟩
      · simp only [run, SoftBench.run, ← ht.context_eq]
        exact (hslot.withDevice ht.device).withStats _
      · simp only [run, SoftBench.run, ← ht.context_eq]
    | direct c =>
      cases hslot with
      | free h =>
        have hc := c.run_alike h application hm
        exact .of_bench (.of_eq (congrArg SoftReply.direct hc.reply_eq)) rfl rfl
          ⟨.free hc.device, hc.application_eq, hperiod⟩
      | owned h => exact .of_bench (.same _) rfl rfl ⟨.owned h, rfl, hperiod⟩
      | leftBehind h => exact .of_bench (.same _) rfl rfl ⟨.leftBehind h, rfl, hperiod⟩
    | atEnd name c =>
      -- Whether the queue of an end is connected is a question of the device's callback.
      have hholds := hslot.device.holdsQueue_eq
      simp only [run, SoftBench.run, ← hholds]
      exact .of_bench (.same _) rfl rfl ⟨hslot, rfl, hperiod⟩
  | «open» direction requested handler options =>
    cases hslot with
    | owned h => exact .of_bench (.same _) rfl rfl ⟨.owned h, rfl, hperiod⟩
    | leftBehind h => exact .of_bench (.same _) rfl rfl ⟨.leftBehind h, rfl, hperiod⟩
    | free h =>
      obtain ⟨log, s, s', hx, hy, hs⟩ | ⟨error, log, e, e', hx, hy, he⟩ :=
        (SoftDevice.simulation.open h direction requested hm options).exists
      · simp only [run, hx, hy]
        exact .of_bench (.same _) rfl rfl ⟨.owned hs, rfl, hperiod⟩
      · simp only [run, hx, hy]
        exact .of_bench (.same _) rfl rfl ⟨.leftBehind he, rfl, hperiod⟩
  | configure requested handler options =>
    cases hslot with
    | free h => exact .of_bench (.same _) rfl rfl ⟨.free h, rfl, hperiod⟩
    | leftBehind h => exact .of_bench (.same _) rfl rfl ⟨.leftBehind h, rfl, hperiod⟩
    | owned h =>
      obtain ⟨result, log, s, s', hx, hy, hs⟩ :=
        (SoftDevice.simulation.configure h requested hm options).exists
      simp only [run, hx, hy]
      exact .of_bench (.same _) rfl rfl ⟨.owned hs, rfl, hperiod⟩

theorem alike_runAll (h : b.Alike b') {moves : List BenchMove} (hmoves : ∀ m ∈ moves, m.Blind) :
    (runAll b moves).Alike (runAll b' moves) := by
  induction moves generalizing b b' with
  | nil => exact h
  | cons m moves ih =>
    have hm := run_alike h (hmoves m List.mem_cons_self)
    exact ih hm.bench fun m' hm' => hmoves m' (List.mem_cons_of_mem _ hm')

/-- Fresh devices that differ in the layout only. -/
theorem alike_ofCapabilities (k : Capabilities) (planar : Bool) :
    (SoftBench.ofCapabilities k).Alike (.ofCapabilities { k with planar }) where
  slot := .free (.intro { capabilities := k } planar nofun)
  application_eq := rfl
  period := .none

end BenchMove

open BenchMove (runAll)

/-- Layout independence.  At any point of a run of fresh devices that differ in the layout of their
periods only, any move shows the same: the answer, the events, what the operations of a callback are
answered with, and the counters; and a tick hands out periods with the same samples, whose bytes
differ in their order alone.  This goes for handlers of every kind that do not ask for the layout.
In either layout, a sample of the period is what the view would have read in its place when the
callback was done. -/
theorem layout_independent (k : Capabilities) (planar : Bool) {moves : List BenchMove}
    {m : BenchMove} (hmoves : ∀ m' ∈ moves, m'.Blind) (hm : m.Blind) :
    (m.run (runAll (.ofCapabilities k) moves)).Alike
      (m.run (runAll (.ofCapabilities { k with planar }) moves)) ∧
    ∀ (d : SoftDevice) (frames : Nat) (time : Timestamp) (context : Context) (c : Callback)
      (t : Ticked), d.tick frames time context = some t → d.callback = some c →
      let made := (d.makePeriod c frames).1
      ∀ type channel frame, t.period.sample? type channel frame =
        (made.view.read (c.process made.view made.memory time context).memory type channel
          frame).toOption :=
  have hbenches := BenchMove.alike_runAll (BenchMove.alike_ofCapabilities k planar) hmoves
  ⟨BenchMove.run_alike hbenches hm,
    fun _ _ _ _ _ _ ht hc type channel frame => SoftDevice.sample?_tick ht hc type channel frame⟩

/-- A handler that writes three samples, reads one of them back and goes on if it may. -/
def readingBack : Handler :=
  .render (.routine
    { next := fun _ => .step (.write .i8 0 0 (Sample.ofNumber .i8 1)) fun _ =>
        .step (.write .i8 1 0 (Sample.ofNumber .i8 2)) fun _ =>
        .step (.write .i8 0 1 (Sample.ofNumber .i8 3)) fun _ =>
        .step (.query (.read .i8 0 1)) fun reply =>
          match reply with
          | .ok _ => .finish .all
          | .error _ => .finish .crash })

/-- The bytes of the period of a tick. -/
def SoftTurn.bytes? (t : SoftTurn) : Option (List UInt8) :=
  match t.reply with
  | .controller (.ticked (some p)) => some p.memory.bytes.toList
  | _ => none

/-- A stream opened with it and started. -/
def opening : List BenchMove :=
  [.open .output { format := .i8 } readingBack {}, .command (.stream .start)]

/-- A tick of two frames. -/
def ticking : BenchMove := .command (.controller (.tick 2 (.ofNanos 0)))

theorem layout_independent_readingBack :
    let t := ticking.run (runAll (.ofCapabilities {}) opening)
    let t' := ticking.run (runAll (.ofCapabilities { planar := true }) opening)
    t.Alike t' ∧ t.bytes? = some [1, 2, 3, 0xaa] ∧ t'.bytes? = some [1, 3, 2, 0xaa] := by
  have hopening : ∀ m ∈ opening, m.Blind := by
    intro m hm
    rcases List.mem_cons.mp hm with rfl | hm
    · intro past
      refine ⟨rfl, fun _ => ⟨rfl, fun _ => ⟨rfl, fun _ => ⟨rfl, fun reply => ?_⟩⟩⟩⟩
      cases reply <;> trivial
    · obtain rfl := List.mem_singleton.mp hm
      trivial
  have hticking : ticking.Blind := trivial
  exact ⟨(layout_independent {} true hopening hticking).1, by decide, by decide⟩

end PcmStream.Bench
