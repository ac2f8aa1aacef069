/-
  The end of a queue that is handed to a stream lives exactly as long as the stream's callback.

    program         `SoftBench.run`, in which a stream is configured with the callback's end of a new
                    queue, and the application keeps the other end and may ask it whether it is
                    disconnected
    specification   whose end is connected after a command is told by the command and its reply alone
                    (`StreamCommand.connects`): a configuration that succeeds connects the end made
                    for it, closing and dropping disconnect, and nothing else matters
    crux            `queueKey?_run`, the equation of one command; a handler on its way to the device
                    is lost on every path but the one that succeeds, and the ones that fail late
                    leave the device without a callback, as it was before

  The numbers of queues are never given out twice, so an end that is disconnected stays so.
-/
import PcmStream.Proofs.SoftDevice.Playback

namespace PcmStream

/-! ## The end that a device holds -/

/-- The number of the queue whose callback's end the device holds, if there is one. -/
def SoftDevice.queueKey? (d : SoftDevice) : Option Nat :=
  d.callback.bind fun c => c.handler.queueKey?

theorem SoftDevice.holdsQueue_eq (d : SoftDevice) (key : Nat) :
    d.holdsQueue key = (d.queueKey? == some key) := by
  unfold holdsQueue queueKey?
  cases d.callback <;> rfl

/-- A device without a callback holds none. -/
theorem SoftDevice.Idle.queueKey? {d : SoftDevice} (h : d.Idle) : d.queueKey? = none := by
  rw [SoftDevice.queueKey?, h.callback]
  rfl

theorem Patchbay.length_put (p : Patchbay) (key : Nat) (q : AnyQueue) :
    (p.put key q).queues.length = p.queues.length := List.length_set

/-- Filling a view, the server keeps its end, and no queue comes or goes. -/
theorem Server.fill_keeps (server : Server Action) (v : View) (m : Memory) (p : Patchbay) :
    (server.fill v m p).server.queueKey? = server.queueKey? ∧
      (server.fill v m p).patchbay.queues.length = p.queues.length := by
  cases server with
  | routine r => exact ⟨rfl, rfl⟩
  | queue key =>
    cases hq : p.queue? key with
    | none =>
      simp only [fill, hq]
      exact ⟨trivial, trivial⟩
    | some found =>
      simp only [fill, hq]
      exact ⟨trivial, p.length_put key _⟩

/-- So it is when a view is drained. -/
theorem Server.drain_keeps (server : Server Query) (v : View) (m : Memory) (p : Patchbay) :
    (server.drain v m p).server.queueKey? = server.queueKey? ∧
      (server.drain v m p).patchbay.queues.length = p.queues.length := by
  cases server with
  | routine r => exact ⟨rfl, rfl⟩
  | queue key =>
    cases hq : p.queue? key with
    | none =>
      simp only [drain, hq]
      exact ⟨trivial, trivial⟩
    | some found =>
      simp only [drain, hq]
      exact ⟨trivial, p.length_put key _⟩

/-- A callback keeps its end, and no queue comes or goes while it is called. -/
theorem Callback.process_keepsEnd (c : Callback) (v : View) (m : Memory) (time : Timestamp)
    (context : Context) :
    let p := c.process v m time context
    p.callback.handler.queueKey? = c.handler.queueKey? ∧
      p.context.patchbay.queues.length = context.patchbay.queues.length := by
  rcases c.process_cases v m time context with
    ⟨server, -, hserver, hhandler, hpatchbay, -⟩ | ⟨server, -, hserver, hhandler, hpatchbay, -⟩ |
      ⟨-, hhandler, hpatchbay, -⟩
  · simp only [hserver, hhandler, hpatchbay]
    exact server.fill_keeps v m context.patchbay
  · simp only [hserver, hhandler, hpatchbay]
    exact server.drain_keeps v m context.patchbay
  · simp only [hhandler, hpatchbay]
    exact ⟨trivial, trivial⟩

/-- So it is for the device that calls it. -/
theorem SoftDevice.queueKey?_tick {d : SoftDevice} {frames : Nat} {time : Timestamp}
    {context : Context} {t : Ticked} (h : d.tick frames time context = some t) :
    t.device.queueKey? = d.queueKey? ∧
      t.context.patchbay.queues.length = context.patchbay.queues.length := by
  obtain ⟨c, -, hc, rfl⟩ := exists_of_tick h
  obtain ⟨hkey, hlength⟩ := c.process_keepsEnd (d.makePeriod c frames).1.view
    (d.makePeriod c frames).1.memory time context
  refine ⟨?_, hlength⟩
  show (Callback.process _ _ _ _ _).callback.handler.queueKey? = d.callback.bind _
  rw [hkey, hc]
  rfl

/-! ## Moves of a stream -/

section Moves

variable {s : Stream SoftDevice} {requested : StreamConfig} {handler : Handler}
  {options : Options} {o : Outcome SoftDevice}

/-- A configuration that succeeds puts the end in place that it was given. -/
theorem Turn.queueKey?_of_configure_ok (h : Turn s (.configure requested handler options) o)
    (hok : o.result = .ok ()) : o.stream.device.queueKey? = handler.queueKey? := by
  rw [SoftDevice.queueKey?, h.callback_of_configure hok]
  rfl

/-- One that fails changes nothing about ends, wherever it fails: the end that it was given is
gone, and an earlier one is there still. -/
theorem Turn.queueKey?_of_configure_error {e : StreamError}
    (h : Turn s (.configure requested handler options) o) (hs : s.InStep)
    (herror : o.result = .error e) : o.stream.device.queueKey? = s.device.queueKey? := by
  cases h with
  | wrongState hm => rfl
  | mismatch hcreated hh => rfl
  | nothingToDo hm => rfl
  | refused hcreated hh hacquire =>
    obtain rfl := SoftDevice.eq_of_perform_error hacquire nofun
    rfl
  | unsettled hcreated hh hacquire hsettle hdispose =>
    have hidle := hs.idle (by rw [hcreated]; rfl)
    exact (SoftDevice.idle_of_dispose hdispose).queueKey?.trans hidle.queueKey?.symm
  | @configured _ _ _ config registered acquired settled device hcreated hh hacquire hsettle
      hregister =>
    cases registered with
    | ok => cases herror
    | error status =>
      -- The device does not take the callback, and the handler in it is lost.
      obtain rfl := SoftDevice.eq_of_perform_error hregister nofun
      obtain ⟨-, -, -, hcallback⟩ := SoftDevice.of_acquire_ok hacquire
      obtain ⟨howner, -⟩ := SoftDevice.of_negotiate_ok hsettle
      show device.queueKey? = s.device.queueKey?
      rw [SoftDevice.queueKey?, howner.callback_eq, hcallback]
      rfl

/-- A configuration only succeeds where there was no end. -/
theorem Turn.queueKey?_before_configure (h : Turn s (.configure requested handler options) o)
    (hs : s.InStep) (hok : o.result = .ok ()) : s.device.queueKey? = none := by
  cases h with
  | wrongState hm => cases hok
  | mismatch hcreated hh => cases hok
  | nothingToDo hm => cases hm
  | refused hcreated hh hacquire => cases hok
  | unsettled hcreated hh hacquire hsettle hdispose => cases hok
  | configured hcreated hh hacquire hsettle hregister =>
    exact (hs.idle (by rw [hcreated]; rfl)).queueKey?

/-- Starting and stopping change nothing about ends. -/
theorem Turn.queueKey?_keeps {m : Move} (h : Turn s m o) (hm : m = .start ∨ m = .stop) :
    o.stream.device.queueKey? = s.device.queueKey? := by
  rw [SoftDevice.queueKey?, (h.keeps hm).2]
  rfl

/-- Closing leaves none, however it comes out. -/
theorem Turn.queueKey?_of_close (h : Turn s .close o) (hs : s.InStep) :
    o.stream.device.queueKey? = none := by
  have hclosed : o.stream.state.holding = false := by
    rw [h.closed_of_close]
    rfl
  exact ((hs.turn h).idle hclosed).queueKey?

end Moves

namespace Bench

/-! ## Commands -/

/-- The name and the end of a queue that the application keeps with a plan. -/
def ServerPlan.kept? : ServerPlan → Option (String × Side)
  | renderQueue _ _ _ name => some (name, .writer)
  | captureQueue _ _ _ name => some (name, .reader)
  | none | render _ | capture _ => .none

/-- The plan that a command hands to a stream, if it hands one. -/
def StreamCommand.plan? : StreamCommand → Option ServerPlan
  | .open _ _ plan _ | configure _ plan _ => some plan
  | _ => none

/-- Whether a command releases the stream. -/
def StreamCommand.isRelease : StreamCommand → Bool
  | close | drop => true
  | _ => false

/-- The end that is connected after a command, given its reply, the number that the next queue gets
and the end that was connected before. -/
def StreamCommand.connects (c : StreamCommand) (reply : StreamReply) (fresh : Nat)
    (before : Option Nat) : Option Nat :=
  match reply with
  | .result r =>
    if c.isRelease then none
    else
      match c.plan?, r with
      | some plan, .ok () => plan.kept?.map fun _ => fresh
      | _, _ => before
  | _ => before

/-- Whether a command calls the device past its stream. -/
def SoftCommand.isDirect : SoftCommand → Bool
  | .direct _ => true
  | _ => false

/-- Whether a command releases the stream. -/
def SoftCommand.isRelease : SoftCommand → Bool
  | .stream c => c.isRelease
  | _ => false

namespace Application

/-- A plan with a queue makes one, with the next number; the handler has the one end of it and the
application the other. -/
theorem prepare_eq (a : Application) (plan : ServerPlan) :
    (a.prepare plan).1.queueKey? = plan.kept?.map (fun _ => a.patchbay.queues.length) ∧
      (a.prepare plan).2.patchbay.queues.length =
        a.patchbay.queues.length + plan.kept?.toList.length ∧
      (a.prepare plan).2.ends =
        plan.kept?.toList.map (fun kept => ⟨kept.1, a.patchbay.queues.length, kept.2⟩) ++
          a.ends := by
  cases plan with
  | none => exact ⟨rfl, rfl, rfl⟩
  | render calls => exact ⟨rfl, rfl, rfl⟩
  | capture calls => exact ⟨rfl, rfl, rfl⟩
  | renderQueue type channels frames name => exact ⟨rfl, List.length_append, rfl⟩
  | captureQueue type channels frames name => exact ⟨rfl, List.length_append, rfl⟩

/-- Using an end keeps all ends and all queues. -/
theorem useEnd_keeps (a : Application) (connected : Nat → Bool) (name : String)
    (command : EndCommand) :
    (a.useEnd connected name command).2.ends = a.ends ∧
      (a.useEnd connected name command).2.patchbay.queues.length = a.patchbay.queues.length := by
  unfold useEnd
  cases a.ends.find? (·.name == name) with
  | none => exact ⟨rfl, rfl⟩
  | some held =>
    cases hq : a.patchbay.queue? held.key with
    | none =>
      simp only [hq]
      exact ⟨trivial, trivial⟩
    | some found =>
      simp only [hq]
      split <;> first | exact ⟨rfl, rfl⟩ | exact ⟨rfl, a.patchbay.length_put _ _⟩

end Application

theorem Slot.device_withDevice {σ : Type} (slot : Slot σ) (device : σ) :
    (slot.withDevice device).device = device := by
  cases slot <;> rfl

theorem Slot.device_withStats {σ : Type} (slot : Slot σ) (stats : Stats) :
    (slot.withStats stats).device = slot.device := by
  cases slot <;> rfl

namespace StreamCommand

variable {slot : Slot SoftDevice} {c : StreamCommand}

/-- A command that hands over a plan releases nothing. -/
theorem isRelease_of_plan? {plan : ServerPlan} (h : c.plan? = some plan) : c.isRelease = false := by
  cases c with
  | close => cases h
  | drop => cases h
  | _ => rfl

/-- A plan that is taken connects the end of its queue. -/
theorem connects_ok {plan : ServerPlan} (h : c.plan? = some plan) (fresh : Nat)
    (before : Option Nat) :
    c.connects (.result (.ok ())) fresh before = plan.kept?.map fun _ => fresh := by
  unfold connects
  simp only [isRelease_of_plan? h, h, Bool.false_eq_true, if_false]

/-- One that is refused connects nothing. -/
theorem connects_error {plan : ServerPlan} (h : c.plan? = some plan) (e : StreamError)
    (fresh : Nat) (before : Option Nat) :
    c.connects (.result (.error e)) fresh before = before := by
  unfold connects
  simp only [isRelease_of_plan? h, h, Bool.false_eq_true, if_false]

/-- A command leaves the end connected that was, or disconnects it, or connects a new one. -/
theorem connects_cases (c : StreamCommand) (reply : StreamReply) (fresh : Nat)
    (before : Option Nat) :
    c.connects reply fresh before = before ∨ c.connects reply fresh before = none ∨
      c.connects reply fresh before = some fresh ∧ ∃ plan kept r,
        c.plan? = some plan ∧ plan.kept? = some kept ∧ reply = .result r := by
  cases reply with
  | noDevice => exact .inl rfl
  | noStream => exact .inl rfl
  | text t => exact .inl rfl
  | result r =>
    unfold connects
    by_cases hrelease : c.isRelease = true
    · exact .inr (.inl (if_pos hrelease))
    · simp only [if_neg hrelease]
      split
      · next plan hplan =>
        cases hkept : plan.kept? with
        | none => exact .inr (.inl rfl)
        | some kept => exact .inr (.inr ⟨rfl, plan, kept, _, hplan, hkept, rfl⟩)
      · exact .inl rfl

/-- What a command to the stream does to the application: if it hands over a plan and is carried
out, then the plan is prepared. -/
theorem application_run (c : StreamCommand) (slot : Slot SoftDevice) (application : Application) :
    let t := c.run slot application
    t.application =
      match c.plan?, t.reply with
      | some plan, .result _ => (application.prepare plan).2
      | _, _ => application := by
  intro t
  cases slot with
  | leftBehind device => cases c <;> rfl
  | owned s => cases c <;> rfl
  | free device =>
    cases c with
    | «open» direction config plan options =>
      show (StreamCommand.runFree _ _ _).application = _
      cases hopen : Stream.open device direction config (application.prepare plan).1 options <;>
        simp only [t, StreamCommand.run, runFree, hopen, plan?]
    | _ => rfl

/-- **The equation of one command to the stream**: which end is connected afterwards. -/
theorem queueKey?_run (h : slot.InStep) (c : StreamCommand) (application : Application) :
    let t := c.run slot application
    t.slot.device.queueKey? =
      c.connects t.reply application.patchbay.queues.length slot.device.queueKey? := by
  intro t
  cases slot with
  | leftBehind device => cases c <;> rfl
  | owned s =>
    have hs : s.InStep := h
    cases c with
    | configure config plan options =>
      have hturn := Turn.of_configure s config (application.prepare plan).1 options
      show (s.configure config (application.prepare plan).1 options).stream.device.queueKey? =
        connects _ (.result (s.configure config (application.prepare plan).1 options).result) _ _
      cases hresult : (s.configure config (application.prepare plan).1 options).result with
      | ok =>
        rw [hturn.queueKey?_of_configure_ok hresult]
        exact (application.prepare_eq plan).1
      | error e => exact hturn.queueKey?_of_configure_error hs hresult
    | start => exact (Turn.of_start s).queueKey?_keeps (.inl rfl)
    | stop => exact (Turn.of_stop s).queueKey?_keeps (.inr rfl)
    | close => exact (Turn.of_close s).queueKey?_of_close hs
    | drop => exact hs.drop.queueKey?
    | debug => rfl
    | new direction => rfl
    | «open» direction config plan options => rfl
  | free device =>
    have hidle : device.Idle := h
    cases c with
    | «open» direction config plan options =>
      have hin := RigMove.inStep_run h (.open direction config (application.prepare plan).1 options)
      cases hopen : Stream.open device direction config (application.prepare plan).1 options with
      | ok s log =>
        obtain ⟨o, hturn, hok, rfl⟩ := Stream.of_open_ok hopen
        simp only [t, StreamCommand.run, runFree, hopen]
        exact (hturn.queueKey?_of_configure_ok hok).trans (application.prepare_eq plan).1
      | failed e later log =>
        simp only [RigMove.run, hopen] at hin
        simp only [t, StreamCommand.run, runFree, hopen]
        exact (SoftDevice.Idle.queueKey? hin).trans hidle.queueKey?.symm
    | new direction => rfl
    | configure config plan options => rfl
    | start => rfl
    | stop => rfl
    | close => rfl
    | debug => rfl
    | drop => rfl

/-- A handler is only taken where no end was connected. -/
theorem queueKey?_before (h : slot.InStep) {plan : ServerPlan} {application : Application}
    (hplan : c.plan? = some plan) (hok : (c.run slot application).reply = .result (.ok ())) :
    slot.device.queueKey? = none := by
  cases slot with
  | leftBehind device => exact SoftDevice.Idle.queueKey? h
  | free device => exact SoftDevice.Idle.queueKey? h
  | owned s =>
    cases c with
    | configure config plan options =>
      have hresult : (s.configure config (application.prepare plan).1 options).result = .ok () :=
        StreamReply.result.inj hok
      exact (Turn.of_configure s _ _ _).queueKey?_before_configure h hresult
    | «open» direction config plan options => cases hok
    | new direction => cases hplan
    | start => cases hplan
    | stop => cases hplan
    | close => cases hplan
    | debug => cases hplan
    | drop => cases hplan

/-- A release of a stream whose end is connected is carried out. -/
theorem exists_result_of_release (h : slot.InStep) {key : Nat} (application : Application)
    (hkey : slot.device.queueKey? = some key) (hc : c.isRelease = true) :
    ∃ r, (c.run slot application).reply = .result r := by
  cases slot with
  | leftBehind device => cases (SoftDevice.Idle.queueKey? h).symm.trans hkey
  | free device => cases (SoftDevice.Idle.queueKey? h).symm.trans hkey
  | owned s =>
    cases c with
    | close => exact ⟨_, rfl⟩
    | drop => exact ⟨_, rfl⟩
    | _ => cases hc

end StreamCommand

namespace SoftBench

variable {b : SoftBench}

/-- Carry out commands in order. -/
def runAll (b : SoftBench) (commands : List SoftCommand) : SoftBench :=
  commands.foldl (fun b c => (b.run c).bench) b

/-- Ends and their queues are the same after a command as before. -/
structure KeepsEnds (b b' : SoftBench) : Prop where
  /-- The same end is connected. -/
  key_eq : b'.slot.device.queueKey? = b.slot.device.queueKey?
  /-- The application has the same ends. -/
  ends_eq : b'.application.ends = b.application.ends
  /-- There are as many queues. -/
  length_eq : b'.application.patchbay.queues.length = b.application.patchbay.queues.length

/-- The hand that drives the device makes no difference to them. -/
theorem keepsEnds_controller (b : SoftBench) (command : ControllerCommand) :
    b.KeepsEnds (b.run (.controller command)).bench := by
  have hslot : ∀ device stats,
      ((b.slot.withDevice device).withStats stats).device.queueKey? = device.queueKey? := by
    intro device stats
    rw [Slot.device_withStats, Slot.device_withDevice]
  cases command with
  | setFaults faults => exact ⟨hslot _ _, rfl, rfl⟩
  | pushInput type numbers => exact ⟨hslot _ _, rfl, rfl⟩
  | debug => exact ⟨hslot _ _, rfl, rfl⟩
  | tick frames time =>
    rw [run]
    cases ht : b.slot.device.tick frames time b.context with
    | none =>
      simp only [ControllerCommand.run, ht]
      exact ⟨hslot _ _, rfl, rfl⟩
    | some t =>
      obtain ⟨hkey, hlength⟩ := SoftDevice.queueKey?_tick ht
      simp only [ControllerCommand.run, ht]
      exact ⟨(hslot _ _).trans hkey, rfl, hlength⟩
  | periodSample type channel frame =>
    rw [run]
    cases b.period <;> exact ⟨hslot _ _, rfl, rfl⟩
  | periodChannel type channel =>
    rw [run]
    cases b.period <;> exact ⟨hslot _ _, rfl, rfl⟩

/-- Nor does the application, with what it does to its own ends. -/
theorem keepsEnds_atEnd (b : SoftBench) (name : String) (command : EndCommand) :
    b.KeepsEnds (b.run (.atEnd name command)).bench := by
  obtain ⟨hends, hlength⟩ := b.application.useEnd_keeps b.slot.device.holdsQueue name command
  exact ⟨rfl, hends, hlength⟩

/-- What is the same has not shrunk. -/
theorem KeepsEnds.grows {b' : SoftBench} (h : b.KeepsEnds b') :
    (∃ newer, b'.application.ends = newer ++ b.application.ends) ∧
      b.application.patchbay.queues.length ≤ b'.application.patchbay.queues.length :=
  ⟨⟨[], h.ends_eq⟩, Nat.le_of_eq h.length_eq.symm⟩

/-- Stream and device are in step, and the end that is connected, if any, is that of a queue. -/
structure Wired (b : SoftBench) : Prop where
  /-- Stream and device are in step. -/
  inStep : b.slot.InStep
  /-- The queue is there. -/
  known : ∀ key, b.slot.device.queueKey? = some key → key < b.application.patchbay.queues.length

theorem wired_ofCapabilities (capabilities : Capabilities) : (ofCapabilities capabilities).Wired where
  inStep := SoftDevice.Idle.mk rfl rfl rfl rfl
  known _ hkey := by cases hkey

/-- Queues and the ends that the application keeps are never given up. -/
theorem grows_run (b : SoftBench) {c : SoftCommand} (hdirect : c.isDirect = false) :
    let t := b.run c
    (∃ newer, t.bench.application.ends = newer ++ b.application.ends) ∧
      b.application.patchbay.queues.length ≤ t.bench.application.patchbay.queues.length := by
  cases c with
  | direct call => cases hdirect
  | controller command => exact (b.keepsEnds_controller command).grows
  | atEnd name command => exact (b.keepsEnds_atEnd name command).grows
  | stream c =>
    show (∃ newer, (c.run b.slot b.application).application.ends = newer ++ b.application.ends) ∧
      _ ≤ (c.run b.slot b.application).application.patchbay.queues.length
    rw [c.application_run b.slot b.application]
    split
    · next plan r hplan hr =>
      obtain ⟨-, hlength, hends⟩ := b.application.prepare_eq plan
      exact ⟨⟨_, hends⟩, by omega⟩
    · exact ⟨⟨[], rfl⟩, Nat.le_refl _⟩

namespace Wired

variable {c : SoftCommand} {key : Nat}

/-- The end that is connected after a command is the one of before, or one whose queue was made in
the meantime, or there is none. -/
theorem queueKey?_cases (h : b.Wired) (hdirect : c.isDirect = false) :
    (b.run c).bench.slot.device.queueKey? = b.slot.device.queueKey? ∨
    (b.run c).bench.slot.device.queueKey? = none ∨
    ((b.run c).bench.slot.device.queueKey? = some b.application.patchbay.queues.length ∧
      b.application.patchbay.queues.length <
        (b.run c).bench.application.patchbay.queues.length) := by
  cases c with
  | direct call => cases hdirect
  | controller command => exact .inl (b.keepsEnds_controller command).key_eq
  | atEnd name command => exact .inl (b.keepsEnds_atEnd name command).key_eq
  | stream c =>
    have hkey := c.queueKey?_run h.inStep b.application
    have happlication := c.application_run b.slot b.application
    show (c.run b.slot b.application).slot.device.queueKey? = _ ∨
      (c.run b.slot b.application).slot.device.queueKey? = _ ∨
      (c.run b.slot b.application).slot.device.queueKey? = _ ∧
        _ < (c.run b.slot b.application).application.patchbay.queues.length
    rw [hkey, happlication]
    rcases c.connects_cases (c.run b.slot b.application).reply
      b.application.patchbay.queues.length b.slot.device.queueKey? with
      hsame | hnone | ⟨hfresh, plan, kept, r, hplan, hkept, hreply⟩
    · exact .inl hsame
    · exact .inr (.inl hnone)
    · refine .inr (.inr ⟨hfresh, ?_⟩)
      simp only [hplan, hreply]
      rw [(b.application.prepare_eq plan).2.1, hkept]
      exact Nat.lt_succ_self _

/-- Every command keeps the bench wired. -/
theorem run (h : b.Wired) (hdirect : c.isDirect = false) : (b.run c).bench.Wired := by
  obtain ⟨-, hgrows⟩ := b.grows_run hdirect
  refine ⟨inStep_run h.inStep ?_, ?_⟩
  · rintro call rfl
    cases hdirect
  · intro key hkey
    rcases h.queueKey?_cases hdirect with hsame | hnone | ⟨hfresh, hlt⟩
    · exact Nat.lt_of_lt_of_le (h.known key (hsame ▸ hkey)) hgrows
    · rw [hnone] at hkey
      cases hkey
    · rw [hfresh] at hkey
      cases hkey
      exact hlt

/-- An end that is not connected stays so. -/
theorem gone (h : b.Wired) (hdirect : c.isDirect = false)
    (hlt : key < b.application.patchbay.queues.length) (hkey : b.slot.device.queueKey? ≠ some key) :
    (b.run c).bench.slot.device.queueKey? ≠ some key := by
  rcases h.queueKey?_cases hdirect with hsame | hnone | ⟨hfresh, -⟩
  · rwa [hsame]
  · rw [hnone]
    exact nofun
  · rw [hfresh]
    intro heq
    cases heq
    exact Nat.lt_irrefl _ hlt

/-- One that is connected stays so if the stream is not released.  In particular, another end is
refused as long as it is there. -/
theorem kept (h : b.Wired) (hdirect : c.isDirect = false)
    (hkey : b.slot.device.queueKey? = some key) (hrelease : c.isRelease = false) :
    (b.run c).bench.slot.device.queueKey? = some key := by
  cases c with
  | direct call => cases hdirect
  | controller command => exact (b.keepsEnds_controller command).key_eq.trans hkey
  | atEnd name command => exact (b.keepsEnds_atEnd name command).key_eq.trans hkey
  | stream c =>
    have hnot : ¬ c.isRelease = true := by
      have hc : c.isRelease = false := hrelease
      rw [hc]
      exact nofun
    refine (c.queueKey?_run h.inStep b.application).trans ?_
    rw [hkey]
    unfold StreamCommand.connects
    split
    · next r hreply =>
      rw [if_neg hnot]
      split
      · next plan hplan =>
        -- It would have to be taken by a stream that has no end.
        have hnone := c.queueKey?_before h.inStep hplan hreply
        rw [hkey] at hnone
        cases hnone
      · rfl
    · rfl

/-- Releasing the stream disconnects it. -/
theorem released (h : b.Wired) (hkey : b.slot.device.queueKey? = some key)
    (hrelease : c.isRelease = true) : (b.run c).bench.slot.device.queueKey? = none := by
  cases c with
  | direct call => cases hrelease
  | controller command => cases hrelease
  | atEnd name command => cases hrelease
  | stream c =>
    have hc : c.isRelease = true := hrelease
    obtain ⟨r, hr⟩ := StreamCommand.exists_result_of_release h.inStep b.application hkey hc
    refine (c.queueKey?_run h.inStep b.application).trans ?_
    rw [hr]
    exact if_pos hc

/-- Along a run, an end that is connected stays so exactly until the stream is released for the
first time, and one that is not never is again. -/
theorem queueKey?_runAll (h : b.Wired) {commands : List SoftCommand}
    (hdirect : ∀ c ∈ commands, c.isDirect = false)
    (hlt : key < b.application.patchbay.queues.length) :
    (b.slot.device.queueKey? ≠ some key →
      (b.runAll commands).slot.device.queueKey? ≠ some key) ∧
    (b.slot.device.queueKey? = some key →
      ((b.runAll commands).slot.device.queueKey? = some key ↔
        commands.any SoftCommand.isRelease = false)) := by
  induction commands generalizing b with
  | nil => exact ⟨id, fun hkey => ⟨fun _ => rfl, fun _ => hkey⟩⟩
  | cons c commands ih =>
    have hc := hdirect c List.mem_cons_self
    have hgrown := Nat.lt_of_lt_of_le hlt (b.grows_run hc).2
    obtain ⟨hgone, hkept⟩ :=
      ih (h.run hc) (fun c hc => hdirect c (List.mem_cons_of_mem _ hc)) hgrown
    refine ⟨fun hkey => hgone (h.gone hc hlt hkey), fun hkey => ?_⟩
    rw [List.any_cons]
    cases hrelease : c.isRelease with
    | false => exact hkept (h.kept hc hkey hrelease)
    | true =>
      have hnone := h.released hkey hrelease
      refine ⟨fun hlater => absurd hlater (hgone ?_), nofun⟩
      rw [hnone]
      exact nofun

theorem runAll (h : b.Wired) {commands : List SoftCommand}
    (hdirect : ∀ c ∈ commands, c.isDirect = false) : (b.runAll commands).Wired := by
  induction commands generalizing b with
  | nil => exact h
  | cons c commands ih =>
    exact ih (h.run (hdirect c List.mem_cons_self))
      fun c hc => hdirect c (List.mem_cons_of_mem _ hc)

end Wired

/-- Along a run the application gives up nothing. -/
theorem grows_runAll (b : SoftBench) {commands : List SoftCommand}
    (hdirect : ∀ c ∈ commands, c.isDirect = false) :
    (∃ newer, (b.runAll commands).application.ends = newer ++ b.application.ends) ∧
      b.application.patchbay.queues.length ≤
        (b.runAll commands).application.patchbay.queues.length := by
  induction commands generalizing b with
  | nil => exact ⟨⟨[], rfl⟩, Nat.le_refl _⟩
  | cons c commands ih =>
    obtain ⟨⟨newer, hends⟩, hlength⟩ := b.grows_run (hdirect c List.mem_cons_self)
    obtain ⟨⟨newest, hends'⟩, hlength'⟩ :=
      ih (b.run c).bench fun c hc => hdirect c (List.mem_cons_of_mem _ hc)
    refine ⟨⟨newest ++ newer, ?_⟩, Nat.le_trans hlength hlength'⟩
    rw [List.append_assoc, ← hends]
    exact hends'

/-- What an end of a queue that is there says of the other one. -/
theorem reply_isDisconnected {name : String} {held : HeldEnd}
    (hheld : b.application.ends.find? (·.name == name) = some held)
    (hlt : held.key < b.application.patchbay.queues.length) :
    (b.run (.atEnd name .isDisconnected)).reply =
      .atEnd (.flag (!(b.slot.device.queueKey? == some held.key))) := by
  have hqueue : b.application.patchbay.queue? held.key =
      some b.application.patchbay.queues[held.key] := List.getElem?_eq_getElem hlt
  rw [run]
  simp only [Application.useEnd, hheld, hqueue, SoftDevice.holdsQueue_eq]

end SoftBench

open SoftBench (ofCapabilities)

/-- The queue end handed to a stream lives exactly as long as the stream's callback.

Take any run of a bench without direct calls to the device, in which a stream is configured or opened
with the end of a queue, and a reply that says how that came out.  From then on the application has
the other end of a queue of its own, and at any time later that end, wherever the application looks
it up, says that it is disconnected exactly if the configuration failed, for whatever reason, or the
stream has been closed or dropped since, whatever became of that.  In particular a configuration that
is rejected later, with an end of its own, makes no difference to it. -/
theorem end_lives_with_stream (capabilities : Capabilities) {before later : List SoftCommand}
    (hbefore : ∀ c ∈ before, c.isDirect = false) (hlater : ∀ c ∈ later, c.isDirect = false) :
    let b := (ofCapabilities capabilities).runAll before
    let key := b.application.patchbay.queues.length
    ∀ c plan name side r, StreamCommand.plan? c = some plan → plan.kept? = some (name, side) →
      (b.run (.stream c)).reply = .stream (.result r) →
      let b' := (b.run (.stream c)).bench.runAll later
      (∃ newer, b'.application.ends = newer ++ ⟨name, key, side⟩ :: b.application.ends) ∧
      ∀ name' held, b'.application.ends.find? (·.name == name') = some held → held.key = key →
        (b'.run (.atEnd name' .isDisconnected)).reply = .atEnd (.flag
          (match r with
            | .ok () => later.any SoftCommand.isRelease
            | .error _ => true)) := by
  intro b key c plan name side r hplan hkept hreply b'
  have hb : b.Wired := (SoftBench.wired_ofCapabilities capabilities).runAll hbefore
  have hresult : (c.run b.slot b.application).reply = .result r := SoftReply.stream.inj hreply
  have happlication := c.application_run b.slot b.application
  simp only [hplan, hresult] at happlication
  obtain ⟨-, hlength, hends⟩ := b.application.prepare_eq plan
  rw [← happlication, hkept] at hlength hends
  have hlt : key < (b.run (.stream c)).bench.application.patchbay.queues.length := by
    show _ < (c.run b.slot b.application).application.patchbay.queues.length
    rw [hlength]
    exact Nat.lt_succ_self _
  have hwired := hb.run (c := .stream c) rfl
  obtain ⟨⟨newer, hnewer⟩, hgrown⟩ := (b.run (.stream c)).bench.grows_runAll hlater
  refine ⟨⟨newer, ?_⟩, ?_⟩
  · refine hnewer.trans (congrArg (newer ++ ·) ?_)
    exact hends
  · intro name' held hheld hkey
    rw [SoftBench.reply_isDisconnected hheld (hkey ▸ Nat.lt_of_lt_of_le hlt hgrown), hkey]
    obtain ⟨hgone, hstays⟩ := hwired.queueKey?_runAll hlater hlt
    -- What counts is whether the command has connected the end.
    have hafter : (b.run (.stream c)).bench.slot.device.queueKey? =
        c.connects (.result r) key b.slot.device.queueKey? := by
      rw [← hresult]
      exact c.queueKey?_run hb.inStep b.application
    cases r with
    | ok =>
      have hconnected : (b.run (.stream c)).bench.slot.device.queueKey? = some key := by
        rw [hafter, StreamCommand.connects_ok hplan, hkept]
        rfl
      have hiff := hstays hconnected
      cases hreleased : later.any SoftCommand.isRelease with
      | false => rw [hiff.mpr hreleased, beq_self_eq_true, Bool.not_true]
      | true =>
        have hne : b'.slot.device.queueKey? ≠ some key := by
          intro heq
          rw [hiff.mp heq] at hreleased
          cases hreleased
        rw [beq_eq_false_iff_ne.mpr hne, Bool.not_false]
    | error e =>
      have hbefore : b.slot.device.queueKey? ≠ some key := fun heq =>
        Nat.lt_irrefl _ (hb.known key heq)
      have hne : b'.slot.device.queueKey? ≠ some key := by
        refine hgone ?_
        rw [hafter, StreamCommand.connects_error hplan]
        exact hbefore
      rw [beq_eq_false_iff_ne.mpr hne, Bool.not_false]

/-- Configure the stream with the end of a queue of its own. -/
def configureQueue (name : String) : StreamCommand :=
  .configure {} (.renderQueue .i16 2 4 name) {}

/-- Start and tick the stream, try to configure it again, and stop it. -/
def inUse : List SoftCommand :=
  [.stream .start, .controller (.tick 2 (.ofNanos 5)), .stream (configureQueue "late"),
    .stream .stop]

/-- Close it while the device can be neither torn down nor disposed of. -/
def failingClose : List SoftCommand :=
  [.controller (.setFaults { tearDown := some ⟨-5⟩, dispose := some ⟨-5⟩ }), .stream .close]

/-- The end of a stream in use is connected, until a close that fails.  The end of a configuration
that was rejected meanwhile is not. -/
theorem end_lives_with_stream_inUse :
    let b := (ofCapabilities {}).runAll [.stream (.new .output)]
    let used := (b.run (.stream (configureQueue "first"))).bench.runAll inUse
    let ended := (b.run (.stream (configureQueue "first"))).bench.runAll (inUse ++ failingClose)
    (used.run (.atEnd "first" .isDisconnected)).reply = .atEnd (.flag false) ∧
      (ended.run (.atEnd "first" .isDisconnected)).reply = .atEnd (.flag true) ∧
      (used.run (.atEnd "late" .isDisconnected)).reply = .atEnd (.flag true) := by
  intro b used ended
  have hnew : ∀ c ∈ [SoftCommand.stream (.new .output)], c.isDirect = false := by decide
  have hopening : ∀ c ∈ [SoftCommand.stream (.new .output), .stream (configureQueue "first"),
      .stream .start, .controller (.tick 2 (.ofNanos 5))], c.isDirect = false := by decide
  have huse : ∀ c ∈ inUse, c.isDirect = false := by decide
  have hover : ∀ c ∈ inUse ++ failingClose, c.isDirect = false := by decide
  have hlast : ∀ c ∈ [SoftCommand.stream .stop], c.isDirect = false := by decide
  obtain ⟨-, hconnected⟩ := end_lives_with_stream {} hnew huse (configureQueue "first") _ "first"
    .writer _ rfl rfl rfl
  obtain ⟨-, hdisconnected⟩ := end_lives_with_stream {} hnew hover (configureQueue "first") _
    "first" .writer _ rfl rfl rfl
  obtain ⟨-, hrejected⟩ := end_lives_with_stream {} hopening hlast (configureQueue "late") _
    "late" .writer _ rfl rfl rfl
  exact ⟨hconnected "first" ⟨"first", 0, .writer⟩ rfl rfl,
    hdisconnected "first" ⟨"first", 0, .writer⟩ rfl rfl,
    hrejected "late" ⟨"late", 1, .writer⟩ rfl rfl⟩

end Bench

end PcmStream
