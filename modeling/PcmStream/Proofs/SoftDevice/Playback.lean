/-
  Playback hand-off, end to end: what an application writes is what the device plays.

  The way of a sample is long.  It is written into a queue whose other end serves a stream, taken off
  the queue by the callback of a tick, stored in the period of whatever layout the device has, spared
  when the frames behind it are silenced, and looked at there.  `Serves` is what holds of a test
  bench all the while: its stream is an output stream, any callback is served by the queue, and the
  application has the writing end.

  One lemma for each move says what the move does to the queue and what it answers, and that the
  bench serves on.  `PlaybackRun` keeps what writes accepted and what ticks played, and the balance
  of the two along any run is `PlaybackRun.Balanced`.  The last theorem puts everything together.

  A stream may have been given another format or other channels than its queue has.  Nothing passes
  from one to the other then, and no tick plays anything but silence.
-/
import PcmStream.Proofs.SoftDevice.Rig
import PcmStream.Proofs.SoftDevice.Rendered

namespace PcmStream

/-! ## Moves that leave the callback alone -/

/-- Starting and stopping change neither what a stream is for nor its callback. -/
theorem Turn.keeps {s : Stream SoftDevice} {m : Move} {o : Outcome SoftDevice} (h : Turn s m o)
    (hm : m = .start ∨ m = .stop) :
    o.stream.config = s.config ∧ o.stream.device.callback = s.device.callback := by
  cases h with
  | wrongState hw => exact ⟨rfl, rfl⟩
  | nothingToDo hw => exact ⟨rfl, rfl⟩
  | startFailed hs hstart =>
    obtain rfl := SoftDevice.eq_of_perform_error hstart nofun
    exact ⟨rfl, rfl⟩
  | started hs hstart =>
    obtain ⟨-, rfl⟩ := SoftDevice.of_start_ok hstart
    exact ⟨rfl, rfl⟩
  | stopFailed hs hstop =>
    obtain rfl := SoftDevice.eq_of_perform_error hstop nofun
    exact ⟨rfl, rfl⟩
  | stopped hs hstop =>
    obtain rfl := SoftDevice.of_stop_ok hstop
    exact ⟨rfl, rfl⟩
  | _ => rcases hm with hm | hm <;> cases hm

/-- A stream that was configured successfully has the callback that was made for it. -/
theorem Turn.callback_of_configure {s : Stream SoftDevice} {requested : StreamConfig}
    {handler : Handler} {options : Options} {o : Outcome SoftDevice}
    (h : Turn s (.configure requested handler options) o) (hok : o.result = .ok ()) :
    o.stream.device.callback = some (s.callback o.stream.config handler options) := by
  cases h with
  | wrongState hm => cases hok
  | mismatch hcreated hh => cases hok
  | nothingToDo hm => cases hm
  | refused hcreated hh hacquire => cases hok
  | unsettled hcreated hh hacquire hsettle hdispose => cases hok
  | @configured _ _ _ config registered acquired settled device hcreated hh hacquire hsettle
      hregister =>
    cases registered with
    | error status => cases hok
    | ok =>
      obtain rfl := SoftDevice.of_register_ok hregister
      rfl

/-- A stream that was opened was configured successfully. -/
theorem Stream.of_open_ok {device : SoftDevice} {direction : Direction} {requested : StreamConfig}
    {handler : Handler} {options : Options} {s : Stream SoftDevice} {log : List Event}
    (h : Stream.open device direction requested handler options = .ok s log) :
    ∃ o, Turn { device, direction } (.configure requested handler options) o ∧
      o.result = .ok () ∧ o.stream = s := by
  have hturn := Turn.of_configure { device, direction } requested handler options
  rw [Stream.open] at h
  cases hresult : (({ device, direction } : Stream SoftDevice).configure requested handler
      options).result with
  | ok =>
    simp only [hresult] at h
    cases h
    exact ⟨_, hturn, hresult, rfl⟩
  | error e =>
    simp only [hresult] at h
    cases h

namespace Bench

variable {type : SampleFormat}

/-! ## A bench whose queue serves its stream -/

/-- The bench has an output stream `s` that the queue `q` serves, if anything does, and the
application has the writing end of the queue. -/
structure Serves (name : String) (key : Nat) (s : Stream SoftDevice) (q : Queue type)
    (b : SoftBench) : Prop where
  /-- The stream is in the slot. -/
  slot_eq : b.slot = .owned s
  /-- It is in step with its device. -/
  inStep : s.InStep
  /-- It is an output stream. -/
  direction_eq : s.direction = .output
  /-- Its callback is served by the queue, and moves the counters of the stream. -/
  handler : ∀ c, s.device.callback = some c →
    c.handler = .render (.queue key) ∧ c.ownStats = none
  /-- The queue. -/
  queue : b.application.patchbay.queue? key = some ⟨type, q⟩
  /-- The end of the application. -/
  held : b.application.ends.find? (·.name == name) = some ⟨name, key, .writer⟩

namespace Serves

variable {name : String} {key : Nat} {s : Stream SoftDevice} {q : Queue type} {b : SoftBench}

/-- Opening a stream that a new queue is to serve, on any bench that is in step. -/
theorem of_open {requested : StreamConfig} {options : Options} {channels frames : Nat}
    (hb : b.slot.InStep)
    (hopen : (b.run (.stream (.open .output requested (.renderQueue type channels frames name)
      options))).reply = .stream (.result (.ok ()))) :
    ∃ s, s.state = .configured ∧
      Serves name b.application.patchbay.queues.length s (.make type channels frames)
        (b.run (.stream (.open .output requested (.renderQueue type channels frames name)
          options))).bench := by
  have hin := SoftBench.inStep_run (c := .stream (.open .output requested
    (.renderQueue type channels frames name) options)) hb nofun
  obtain ⟨slot, application, period⟩ := b
  cases slot with
  | owned s => cases hopen
  | leftBehind device => cases hopen
  | free device =>
    cases hs : Stream.open device .output requested
        (.render (.queue application.patchbay.queues.length)) options with
    | failed e device log =>
      simp only [SoftBench.run, StreamCommand.run, StreamCommand.runFree, Application.prepare,
        Application.keep, Patchbay.add, hs] at hopen
      cases hopen
    | ok s log =>
      simp only [SoftBench.run, StreamCommand.run, StreamCommand.runFree, Application.prepare,
        Application.keep, Patchbay.add, hs] at hin ⊢
      obtain ⟨o, hturn, hok, rfl⟩ := Stream.of_open_ok hs
      refine ⟨o.stream, hturn.configured_of_ok hok, rfl, hin, hturn.direction_eq, ?_, ?_, ?_⟩
      · intro c hc
        rw [hturn.callback_of_configure hok] at hc
        cases hc
        exact ⟨rfl, rfl⟩
      · exact application.patchbay.queue?_add_same ⟨type, .make type channels frames⟩
      · simp

/-! ## What each move does -/

/-- A write is answered with the number of samples that the queue accepts. -/
theorem write (h : Serves name key s q b) (source : List (Sample type)) :
    let t := b.run (.atEnd name (.write (source.map Sample.number)))
    t.reply = .atEnd (.count (q.write source).1) ∧
      Serves name key s (q.write source).2 t.bench := by
  have hnumbers : (source.map Sample.number).map (Sample.ofNumber type) = source := by
    rw [List.map_map]
    refine (List.map_congr_left fun sample _ => ?_).trans (List.map_id source)
    exact Sample.ofNumber_number sample
  have huse : b.application.useEnd b.slot.device.holdsQueue name
      (.write (source.map Sample.number)) =
      (.count (q.write source).1,
        { b.application with
          patchbay := b.application.patchbay.put key ⟨type, (q.write source).2⟩ }) := by
    simp only [Application.useEnd, h.held, h.queue, hnumbers]
  intro t
  have ht : t = { reply := .atEnd (.count (q.write source).1)
                  bench := { b with
                    application := { b.application with
                      patchbay := b.application.patchbay.put key ⟨type, (q.write source).2⟩ } } } := by
    show b.run _ = _
    rw [SoftBench.run, huse]
  rw [ht]
  refine ⟨rfl, h.slot_eq, h.inStep, h.direction_eq, h.handler, ?_, h.held⟩
  exact Patchbay.queue?_put_same _ _ h.queue

/-- A tick of a stream that is not started is no callback. -/
theorem tick_idle (h : Serves name key s q b) (hs : s.state ≠ .started) (frames : Nat)
    (time : Timestamp) :
    let t := b.run (.controller (.tick frames time))
    t.reply = .controller (.ticked none) ∧ t.bench.application = b.application ∧
      Serves name key s q t.bench := by
  have hin : b.slot.InStep := by
    rw [h.slot_eq]
    exact h.inStep
  have hsilent : b.slot.device.tick frames time b.context = none := by
    refine hin.silent ?_ frames time b.context
    rintro ⟨s', heq, hstarted⟩
    rw [h.slot_eq] at heq
    cases heq
    exact hs hstarted
  intro t
  have ht : t = { reply := .controller (.ticked none)
                  bench :=
                    { slot := (b.slot.withDevice b.slot.device).withStats b.slot.stats
                      application := b.application
                      period := none } } := by
    show b.run _ = _
    simp only [SoftBench.run, ControllerCommand.run, hsilent]
    rfl
  rw [ht]
  refine ⟨rfl, rfl, ?_, h.inStep, h.direction_eq, h.handler, h.queue, h.held⟩
  show (b.slot.withDevice b.slot.device).withStats b.slot.stats = .owned s
  rw [Slot.withStats_stats, Slot.withDevice_device, h.slot_eq]

/-- A tick of a started stream plays frames off the queue, if its format and channels are those of
the queue. -/
theorem tick (h : Serves name key s q b) (hs : s.state = .started) (frames : Nat)
    (time : Timestamp) :
    let k := if type = s.config.format ∧ q.channels = s.config.channels
      then min frames q.queuedFrames else 0
    let t := b.run (.controller (.tick frames time))
    ∃ p, t.reply = .controller (.ticked (some p)) ∧
      Serves name key { s with stats := s.stats.count frames (decide (k < frames)) }
        (q.take k).2 t.bench ∧
      p.frames = frames ∧ p.channels = s.config.channels ∧ p.format = s.config.format ∧
      (∀ channel < s.config.channels, ∀ frame < k,
        p.sample? type channel frame = q.samples[frame * q.channels + channel]?) ∧
      ∀ channel < s.config.channels, ∀ frame, k ≤ frame → frame < frames →
        p.sample? p.format channel frame = some (Sample.silent p.format) := by
  obtain ⟨c, hc⟩ := Option.isSome_iff_exists.mp (h.inStep.registered hs)
  obtain ⟨-, hconfig, hdirection⟩ := h.inStep.callback c hc
  obtain ⟨hhandler, hown⟩ := h.handler c hc
  have hissued : (s.device.tick frames time b.context).isSome = true :=
    SoftDevice.isSome_tick_iff.mpr ⟨h.inStep.running.mpr hs, h.inStep.registered hs⟩
  obtain ⟨issued, htick⟩ := Option.isSome_iff_exists.mp hissued
  -- The callback moves the counters of the stream and sees the queues of the application.
  have hcontext : b.context = { stats := s.stats, patchbay := b.application.patchbay } := by
    rw [SoftBench.context, h.slot_eq]
    rfl
  obtain ⟨hdevice, hpatchbay, hstats, hshape⟩ := SoftDevice.tick_queue htick hc
    (hdirection.trans h.direction_eq) hhandler hown h.queue
  rw [hconfig] at hpatchbay hstats hshape
  intro k t
  have ht : t = { reply := .controller (.ticked (some issued.period))
                  bench :=
                    { slot := .owned { s with
                        stats := s.stats.count frames (decide (k < frames)) }
                      application := { b.application with
                        patchbay := b.application.patchbay.put key ⟨type, (q.take k).2⟩ }
                      period := some issued.period }
                  records := issued.record.toList } := by
    have hslot : b.slot.device.tick frames time b.context = some issued := by
      rw [h.slot_eq]
      exact htick
    show b.run _ = _
    simp only [SoftBench.run, ControllerCommand.run, hslot]
    rw [hdevice, hpatchbay, hstats, hcontext, h.slot_eq]
    rfl
  rw [ht]
  refine ⟨issued.period, rfl, ⟨rfl, ?_, h.direction_eq, h.handler, ?_, h.held⟩, hshape⟩
  · exact h.inStep.of_eq ⟨rfl, rfl, rfl⟩ rfl
  · exact Patchbay.queue?_put_same _ _ h.queue

/-- A turn that keeps the callback leaves the queue serving the stream, whatever its result. -/
theorem turn (h : Serves name key s q b) {m : Move} {o : Outcome SoftDevice} (hturn : Turn s m o)
    (hm : m = .start ∨ m = .stop) :
    Serves name key o.stream q { b with slot := .owned o.stream } := by
  obtain ⟨-, hcallback⟩ := hturn.keeps hm
  refine ⟨rfl, h.inStep.turn hturn, ?_, ?_, h.queue, h.held⟩
  · rw [hturn.direction_eq, h.direction_eq]
  · rw [hcallback]
    exact h.handler

/-- Starting leaves the queue alone, whether it succeeds or not. -/
theorem start (h : Serves name key s q b) :
    Serves name key s.start.stream q (b.run (.stream .start)).bench := by
  rw [SoftBench.run, h.slot_eq]
  exact h.turn (Turn.of_start s) (.inl rfl)

/-- So does stopping. -/
theorem stop (h : Serves name key s q b) :
    Serves name key s.stop.stream q (b.run (.stream .stop)).bench := by
  rw [SoftBench.run, h.slot_eq]
  exact h.turn (Turn.of_stop s) (.inr rfl)

/-- And so do faults. -/
theorem setFaults (h : Serves name key s q b) (faults : Faults) :
    Serves name key { s with device := s.device.setFaults faults } q
      (b.run (.controller (.setFaults faults))).bench := by
  have hslot : (b.run (.controller (.setFaults faults))).bench.slot =
      .owned { s with device := s.device.setFaults faults } := by
    show (b.slot.withDevice (b.slot.device.setFaults faults)).withStats b.slot.stats = _
    rw [Slot.withStats_stats, h.slot_eq]
    rfl
  exact ⟨hslot, h.inStep.of_eq ⟨rfl, rfl, rfl⟩ rfl, h.direction_eq, h.handler, h.queue, h.held⟩

end Serves

/-! ## Runs -/

/-- What can happen to a playback stream that a queue serves. -/
inductive PlaybackMove (type : SampleFormat)
  /-- The application writes samples. -/
  | write (source : List (Sample type))
  /-- Time passes. -/
  | tick (frames : Nat) (time : Timestamp)
  /-- The stream is asked to start. -/
  | start
  /-- It is asked to stop. -/
  | stop
  /-- Faults are injected, so that starting or stopping may fail. -/
  | setFaults (faults : Faults)

/-- The command to the bench. -/
def PlaybackMove.command (name : String) : PlaybackMove type → SoftCommand
  | write source => .atEnd name (.write (source.map Sample.number))
  | tick frames time => .controller (.tick frames time)
  | start => .stream .start
  | stop => .stream .stop
  | setFaults faults => .controller (.setFaults faults)

/-- A bench in use. -/
structure PlaybackRun (type : SampleFormat) where
  /-- The bench. -/
  bench : SoftBench
  /-- The samples that writes have accepted, in order. -/
  accepted : List (Sample type) := []
  /-- The samples that ticks have taken off the queue and played, in order. -/
  played : List (Sample type) := []

/-- The samples of the first `k` frames of a period, frame by frame and channel by channel, as far
as there are any of the type. -/
def firstSamples (p : Period) (type : SampleFormat) (k : Nat) : List (Sample type) :=
  (List.range (k * p.channels)).flatMap fun i =>
    (p.sample? type (i % p.channels) (i / p.channels)).toList

/-- They are the first samples of a list whose samples are in the period where their places say. -/
theorem firstSamples_eq {p : Period} {ss : List (Sample type)} {k channels : Nat}
    (hchannels : 0 < k → channels = p.channels)
    (hsamples : ∀ channel < p.channels, ∀ frame < k,
      p.sample? type channel frame = ss[frame * channels + channel]?) :
    firstSamples p type k = ss.take (k * channels) := by
  have hget : ∀ n, (List.range n).flatMap (fun i => ss[i]?.toList) = ss.take n := by
    intro n
    induction n with
    | zero => rfl
    | succ n ih =>
      rw [List.range_succ, List.flatMap_append, ih, List.take_add_one, List.flatMap_singleton]
  rcases Nat.eq_zero_or_pos k with hk | hk
  · rw [firstSamples, hk, Nat.zero_mul, Nat.zero_mul]
    rfl
  · rw [firstSamples, hchannels hk, ← hget, List.flatMap_def, List.flatMap_def]
    refine congrArg _ (List.map_congr_left fun i hi => ?_)
    obtain ⟨hchannel, hframe⟩ := View.place_lt (List.mem_range.mp hi)
    rw [hsamples _ hchannel _ hframe, hchannels hk, Nat.mul_comm, Nat.div_add_mod]

/-- The number of frames in a queue of the bench. -/
def SoftBench.queuedFrames (b : SoftBench) (key : Nat) : Nat :=
  match b.application.patchbay.queue? key with
  | some ⟨_, q⟩ => q.queuedFrames
  | none => 0

namespace PlaybackRun

/-- Make a move.  Of a write the record gets as many samples as the answer says, and of a period the
samples of as many frames as were taken off the queue. -/
def run (name : String) (key : Nat) (r : PlaybackRun type) (move : PlaybackMove type) :
    PlaybackRun type :=
  let t := r.bench.run (move.command name)
  let taken := r.bench.queuedFrames key - t.bench.queuedFrames key
  match move, t.reply with
  | .write source, .atEnd (.count n) =>
    { bench := t.bench, accepted := r.accepted ++ source.take n, played := r.played }
  | .tick .., .controller (.ticked (some p)) =>
    { bench := t.bench
      accepted := r.accepted
      played := r.played ++ firstSamples p type taken }
  | _, _ => { r with bench := t.bench }

/-- Make moves in order. -/
def runAll (name : String) (key : Nat) (r : PlaybackRun type) (moves : List (PlaybackMove type)) :
    PlaybackRun type := moves.foldl (run name key) r

/-- The queue serves the stream of the bench, and holds whole frames, namely those that were accepted
and are not played yet. -/
structure Balanced (name : String) (key : Nat) (config : StreamConfig) (channels capacity : Nat)
    (s : Stream SoftDevice) (q : Queue type) (r : PlaybackRun type) : Prop where
  /-- The queue serves the stream. -/
  serves : Serves name key s q r.bench
  /-- The configuration of the stream stays. -/
  config_eq : s.config = config
  /-- So do the channels of the queue. -/
  channels_eq : q.channels = channels
  /-- And its capacity. -/
  capacity_eq : q.capacity = capacity
  /-- The queue holds whole frames. -/
  regular : q.Regular
  /-- What was played and what is queued is what was accepted. -/
  conserved : r.played ++ q.samples = r.accepted

namespace Balanced

variable {name : String} {key : Nat} {config : StreamConfig} {channels capacity : Nat}
  {s : Stream SoftDevice} {q : Queue type} {r : PlaybackRun type}

/-- A write adds to the queue what it adds to the record. -/
theorem write (h : Balanced name key config channels capacity s q r)
    (source : List (Sample type)) :
    Balanced name key config channels capacity s (q.write source).2
      (r.run name key (.write source)) := by
  obtain ⟨hreply, hserves⟩ := h.serves.write source
  have hrun : r.run name key (.write source) =
      { bench := (r.bench.run (.atEnd name (.write (source.map Sample.number)))).bench
        accepted := r.accepted ++ source.take (q.write source).1
        played := r.played } := by
    simp only [run, PlaybackMove.command, hreply]
  rw [hrun]
  refine ⟨hserves, h.config_eq, h.channels_eq, h.capacity_eq, h.regular.write source, ?_⟩
  rw [q.samples_write, ← List.append_assoc, h.conserved]

/-- A move that touches neither the queue nor the records keeps the balance. -/
theorem serving (h : Balanced name key config channels capacity s q r) {s' : Stream SoftDevice}
    {bench : SoftBench} (hserves : Serves name key s' q bench) (hconfig : s'.config = s.config) :
    Balanced name key config channels capacity s' q { r with bench } :=
  ⟨hserves, hconfig.trans h.config_eq, h.channels_eq, h.capacity_eq, h.regular, h.conserved⟩

/-- A tick adds to the record what it takes off the queue. -/
theorem tick (h : Balanced name key config channels capacity s q r) (frames : Nat)
    (time : Timestamp) :
    ∃ s' q', Balanced name key config channels capacity s' q'
      (r.run name key (.tick frames time)) := by
  by_cases hs : s.state = .started
  · obtain ⟨p, hreply, hserves, hframes, hchannels, hformat, hsamples, -⟩ :=
      h.serves.tick hs frames time
    generalize hk : (if type = s.config.format ∧ q.channels = s.config.channels
      then min frames q.queuedFrames else 0) = k at hserves hsamples
    have hqueued : k ≤ q.queuedFrames := by
      rw [← hk]
      exact q.ite_le_queuedFrames _ frames
    have htaken : r.bench.queuedFrames key -
        (r.bench.run (.controller (.tick frames time))).bench.queuedFrames key = k := by
      simp only [SoftBench.queuedFrames, h.serves.queue, hserves.queue]
      exact Queue.queuedFrames_sub_take hqueued
    -- Without a match nothing is taken, and the channels do not matter.
    have hmatch : 0 < k → q.channels = p.channels := by
      intro hpos
      rw [hchannels]
      rw [← hk] at hpos
      split at hpos
      · next hm => exact hm.2
      · cases hpos
    have hplayed : firstSamples p type k = (q.take k).1 := by
      rw [← hchannels] at hsamples
      rw [Queue.take_eq hqueued]
      exact firstSamples_eq hmatch hsamples
    have hrun : r.run name key (.tick frames time) =
        { bench := (r.bench.run (.controller (.tick frames time))).bench
          accepted := r.accepted
          played := r.played ++ (q.take k).1 } := by
      simp only [run, PlaybackMove.command, hreply, htaken, hplayed]
    rw [hrun]
    refine ⟨_, _, hserves, h.config_eq, h.channels_eq, h.capacity_eq, h.regular.take k, ?_⟩
    rw [List.append_assoc, q.samples_take, h.conserved]
  · obtain ⟨hreply, -, hserves⟩ := h.serves.tick_idle hs frames time
    have hrun : r.run name key (.tick frames time) =
        { r with bench := (r.bench.run (.controller (.tick frames time))).bench } := by
      simp only [run, PlaybackMove.command, hreply]
    rw [hrun]
    exact ⟨s, q, h.serving hserves rfl⟩

/-- Every move keeps the balance. -/
theorem run (h : Balanced name key config channels capacity s q r) (move : PlaybackMove type) :
    ∃ s' q', Balanced name key config channels capacity s' q' (r.run name key move) := by
  cases move with
  | write source => exact ⟨s, _, h.write source⟩
  | tick frames time => exact h.tick frames time
  | start =>
    have hconfig := ((Turn.of_start s).keeps (.inl rfl)).1
    exact ⟨_, q, h.serving h.serves.start hconfig⟩
  | stop =>
    have hconfig := ((Turn.of_stop s).keeps (.inr rfl)).1
    exact ⟨_, q, h.serving h.serves.stop hconfig⟩
  | setFaults faults => exact ⟨_, q, h.serving (h.serves.setFaults faults) rfl⟩

/-- So does every run. -/
theorem runAll (h : Balanced name key config channels capacity s q r)
    (moves : List (PlaybackMove type)) :
    ∃ s' q', Balanced name key config channels capacity s' q' (r.runAll name key moves) := by
  induction moves generalizing s q r with
  | nil => exact ⟨s, q, h⟩
  | cons move moves ih =>
    obtain ⟨s', q', hnext⟩ := h.run move
    exact ih hnext

end Balanced

/-- The playback hand-off, end to end.  A stream is opened that a new queue is to serve, on a bench
that is in step; then samples are written, time passes, and the stream is started and stopped, in any
order and whether or not the device fails.  What ticks have played and then what is queued is what
writes have accepted.  The queue holds whole frames and never more than it was made for.

A write accepts the first whole frames, as many as there is room for.  A tick of a stream that is not
started is no callback.  A tick of a started stream takes as many frames off the queue as are queued
and as fit, if the format and the channels of the stream are those of the queue, and none otherwise.
Whoever looks at the period finds each sample taken at its channel and frame and silence in all
frames behind, and an underrun is counted exactly if there are any. -/
theorem playback_delivered (type : SampleFormat) (channels frames : Nat) (name : String)
    (requested : StreamConfig) (options : Options) {b : SoftBench} (hb : b.slot.InStep)
    (hopen : (b.run (.stream (.open .output requested (.renderQueue type channels frames name)
      options))).reply = .stream (.result (.ok ())))
    (moves : List (PlaybackMove type)) :
    let key := b.application.patchbay.queues.length
    let opened := (b.run (.stream (.open .output requested (.renderQueue type channels frames name)
      options))).bench
    let r := runAll name key { bench := opened } moves
    ∃ s q, r.bench.slot = .owned s ∧ s.direction = .output ∧
      (∀ s₀, opened.slot = .owned s₀ → s.config = s₀.config) ∧
      r.bench.application.patchbay.queue? key = some ⟨type, q⟩ ∧
      r.played ++ q.samples = r.accepted ∧
      q.channels = max channels 1 ∧ q.channels ∣ q.samples.length ∧
      q.samples.length + q.room = max channels 1 * max frames 1 ∧
      (∀ source : List (Sample type),
        let n := min (source.length / q.channels) (q.room / q.channels) * q.channels
        let t := r.bench.run (.atEnd name (.write (source.map Sample.number)))
        t.reply = .atEnd (.count n) ∧ t.bench.slot = .owned s ∧
        t.bench.application.patchbay.queue? key =
          some ⟨type, { q with samples := q.samples ++ source.take n }⟩) ∧
      (s.state ≠ .started → ∀ frames time,
        let t := r.bench.run (.controller (.tick frames time))
        t.reply = .controller (.ticked none) ∧ t.bench.slot = .owned s ∧
        t.bench.application = r.bench.application) ∧
      (s.state = .started → ∀ frames time,
        let k := if type = s.config.format ∧ q.channels = s.config.channels
          then min frames (q.samples.length / q.channels) else 0
        let t := r.bench.run (.controller (.tick frames time))
        ∃ p stats, t.reply = .controller (.ticked (some p)) ∧
          t.bench.slot = .owned { s with stats } ∧
          t.bench.application.patchbay.queue? key =
            some ⟨type, { q with samples := q.samples.drop (k * q.channels) }⟩ ∧
          stats.underruns = (if k < frames then s.stats.underruns + 1 else s.stats.underruns) ∧
          p.frames = frames ∧ p.channels = s.config.channels ∧ p.format = s.config.format ∧
          (∀ channel < p.channels, ∀ frame < k,
            p.sample? type channel frame = q.samples[frame * q.channels + channel]?) ∧
          ∀ channel < p.channels, ∀ frame, k ≤ frame → frame < frames →
            p.sample? p.format channel frame = some (Sample.silent p.format)) := by
  intro key opened r
  obtain ⟨s₀, -, hserves⟩ := Serves.of_open hb hopen
  have hfresh : Balanced name key s₀.config (max channels 1) (max channels 1 * max frames 1) s₀
      (.make type channels frames) { bench := opened } :=
    ⟨hserves, rfl, rfl, rfl, .make type channels frames, rfl⟩
  obtain ⟨s, q, h⟩ := hfresh.runAll moves
  refine ⟨s, q, h.serves.slot_eq, h.serves.direction_eq, ?_, h.serves.queue, h.conserved,
    h.channels_eq, h.regular.whole, ?_, ?_, ?_, ?_⟩
  · intro s₁ hs₁
    have hsame : s₁ = s₀ := Slot.owned.inj (hs₁.symm.trans hserves.slot_eq)
    rw [hsame, h.config_eq]
  · rw [h.regular.length_add_room, h.capacity_eq]
  · intro source n t
    obtain ⟨hreply, hafter⟩ := h.serves.write source
    exact ⟨hreply, hafter.slot_eq, hafter.queue⟩
  · intro hs frames time
    obtain ⟨hreply, happlication, hafter⟩ := h.serves.tick_idle hs frames time
    exact ⟨hreply, hafter.slot_eq, happlication⟩
  · intro hs frames time k t
    obtain ⟨p, hreply, hafter, hframes, hchannels, hformat, hplayed, hsilent⟩ :=
      h.serves.tick hs frames time
    have hqueued : k ≤ q.queuedFrames := q.ite_le_queuedFrames _ frames
    have hqueue : t.bench.application.patchbay.queue? key = some ⟨type, (q.take k).2⟩ :=
      hafter.queue
    rw [Queue.take_eq hqueued] at hqueue
    refine ⟨p, _, hreply, hafter.slot_eq, hqueue, ?_, hframes, hchannels, hformat, ?_, ?_⟩
    · -- The counter is a word; it moves by one exactly if frames are missing.
      show s.stats.underruns + (decide (k < frames)).toUInt64 = _
      by_cases hk : k < frames
      · rw [if_pos hk, decide_eq_true hk]
        rfl
      · rw [if_neg hk, decide_eq_false hk]
        exact UInt64.add_zero _
    · rw [hchannels]
      exact hplayed
    · rw [hchannels]
      exact hsilent

/-- Open a stereo stream that a queue of four frames is to serve. -/
def openStereo : SoftCommand :=
  .stream (.open .output {} (.renderQueue .i16 2 4 "stereo") {})

/-- A planar device, two frames and a half written, and a tick of three frames. -/
theorem playback_delivered_planar :
    let b := SoftBench.ofCapabilities { planar := true }
    let r := runAll "stereo" 0 ({ bench := (b.run openStereo).bench } : PlaybackRun .i16)
      [.write [1, 2, 3, 4, 5], .start]
    let t := r.bench.run (.controller (.tick 3 (.ofNanos 5)))
    b.slot.InStep ∧ (b.run openStereo).reply = .stream (.result (.ok ())) ∧
      r.accepted = [1, 2, 3, 4] ∧ t.bench.slot.stats.underruns = 1 ∧
      ∃ p : Period, t.reply = .controller (.ticked (some p)) ∧
        p.sample? .i16 1 1 = some 4 ∧
        p.sample? p.format 1 2 = some (Sample.silent p.format) := by
  intro b r t
  have hb : b.slot.InStep := SoftDevice.Idle.mk rfl rfl rfl rfl
  have hopen : (b.run openStereo).reply = .stream (.result (.ok ())) := rfl
  obtain ⟨s, q, hslot, -, -, hqueue, -, -, -, -, -, -, htick⟩ := playback_delivered .i16 2 4 "stereo"
    {} {} hb hopen [.write [1, 2, 3, 4, 5], .start]
  have hs : r.bench.slot = .owned s := hslot
  have hq : r.bench.application.patchbay.queue? 0 = some ⟨.i16, q⟩ := hqueue
  cases hs
  cases hq
  obtain ⟨p, stats, hreply, hafter, -, hunderruns, -, hchannels, -, hplayed, hsilent⟩ :=
    htick rfl 3 (.ofNanos 5)
  have hcounted := congrArg (fun slot => (Slot.stats slot).underruns) hafter
  refine ⟨hb, hopen, by decide, hcounted.trans hunderruns, p, hreply, ?_, ?_⟩
  · exact hplayed 1 (by rw [hchannels]; decide) 1 (by decide)
  · exact hsilent 1 (by rw [hchannels]; decide) 2 (by decide) (by decide)

end PlaybackRun

end Bench

end PcmStream
