/-
  Callbacks: what a device runs once per period.

  A callback is made when a stream is configured and belongs to its device from then on.  What it
  shares with the controlling side comes in as a `Context` and goes out again: the counters of the
  stream, the first clock readings of a full-duplex session, and the hand-off queues.

  `process` deals with one period.

  1. The first clock reading of the direction is recorded, before anything can go wrong.
  2. On output the handler fills the view, and every frame from the ones it produced on is
     silenced; having to silence anything is an underrun.  Without a handler nothing is produced.
  3. On input the handler looks at the view; however that ends, the memory stays as it was.
  4. The counters move, again however the handler ended.
-/
import PcmStream.Handler.Basic
import PcmStream.Callback.Stats
import PcmStream.Config
import PcmStream.Clock.StartTimes

namespace PcmStream

/-- What a callback shares with the thread that controls the stream. -/
structure Context where
  /-- The counters of the stream. -/
  stats : Stats := {}
  /-- The first clock readings, in a full-duplex session. -/
  times : Option StartTimes := none
  /-- The hand-off queues. -/
  patchbay : Patchbay := {}
  deriving Repr

/-- The callback of a stream. -/
structure Callback where
  /-- The direction of the stream. -/
  direction : Direction
  /-- The negotiated configuration of the stream. -/
  config : StreamConfig
  /-- The application's part. -/
  handler : Handler
  /-- Whether capture buffers are zeroed before the device fills them. -/
  preclear : Bool := false
  /-- Counters of its own, for a callback that is not part of a stream; otherwise those of the
  stream are used. -/
  ownStats : Option Stats := none

/-- What one callback shows of an application's routine. -/
structure CallbackRecord where
  /-- The view as it was handed in. -/
  view : ViewInfo
  /-- The run of the routine. -/
  run : Run
  deriving Repr

/-- Everything after one period was dealt with. -/
structure Processed where
  /-- The callback, ready for the next period. -/
  callback : Callback
  /-- The memory. -/
  memory : Memory
  /-- What is shared with the controlling side. -/
  context : Context
  /-- What the application's routine did, if a routine serves the stream. -/
  record : Option CallbackRecord

/-- The outcome of filling a view. -/
structure Rendered where
  /-- The number of leading frames that hold audio, at most all of them. -/
  produced : Nat
  /-- The server afterwards. -/
  server : Server Action
  /-- The memory. -/
  memory : Memory
  /-- The hand-off queues. -/
  patchbay : Patchbay
  /-- What the routine did. -/
  record : Option CallbackRecord

/-- The outcome of draining a view. -/
structure Drained where
  /-- The server afterwards. -/
  server : Server Query
  /-- The hand-off queues. -/
  patchbay : Patchbay
  /-- What the routine did. -/
  record : Option CallbackRecord

/-- Fill a view.  A queue that fails produces nothing. -/
def Server.fill (v : View) (m : Memory) (p : Patchbay) : Server Action → Rendered
  | routine r =>
    let (run, m) := r.program.render v m
    ⟨run.ending.produced v.frames, .routine (r.remember run.replies), m, p, some ⟨v.info, run⟩⟩
  | queue key =>
    match p.queue? key with
    | none => ⟨0, .queue key, m, p, none⟩
    | some ⟨type, q⟩ =>
      let (result, m, q) := q.render v m
      let produced := match result with
        | .ok frames => min frames v.frames
        | .error _ => 0
      ⟨produced, .queue key, m, p.put key ⟨type, q⟩, none⟩

/-- Drain a view.  What a queue has no room for is dropped. -/
def Server.drain (v : View) (m : Memory) (p : Patchbay) : Server Query → Drained
  | routine r =>
    let run := r.program.capture v m
    ⟨.routine (r.remember run.replies), p, some ⟨v.info, run⟩⟩
  | queue key =>
    match p.queue? key with
    | none => ⟨.queue key, p, none⟩
    | some ⟨type, q⟩ => ⟨.queue key, p.put key ⟨type, (q.capture v m).2⟩, none⟩

namespace Callback

/-- The counters that the callback moves. -/
def stats (c : Callback) (context : Context) : Stats := c.ownStats.getD context.stats

/-- Deal with an output period: let the handler fill the view and silence the frames that it did not
produce.  Answers the number of frames produced besides. -/
def output (c : Callback) (v : View) (m : Memory) (context : Context) : Nat × Processed :=
  match c.handler with
  | .render server =>
    let r := server.fill v m context.patchbay
    (r.produced,
      { callback := { c with handler := .render r.server }
        memory := v.silenceFrom r.memory r.produced
        context := { context with patchbay := r.patchbay }
        record := r.record })
  | _ => (0, ⟨c, v.silenceFrom m 0, context, none⟩)

/-- Deal with an input period: let the handler look at the view. -/
def input (c : Callback) (v : View) (m : Memory) (context : Context) : Processed :=
  match c.handler with
  | .capture server =>
    let r := server.drain v m context.patchbay
    { callback := { c with handler := .capture r.server }
      memory := m
      context := { context with patchbay := r.patchbay }
      record := r.record }
  | _ => ⟨c, m, context, none⟩

/-- Count a period in the counters that belong to the callback. -/
def count (p : Processed) (frames : Nat) (underrun : Bool) : Processed :=
  match p.callback.ownStats with
  | some own => { p with callback := { p.callback with ownStats := own.count frames underrun } }
  | none => { p with context := { p.context with stats := p.context.stats.count frames underrun } }

/-- The context with the first reading of the callback's direction recorded. -/
def recordTime (c : Callback) (time : Timestamp) (context : Context) : Context :=
  { context with times := context.times.map fun s => (s.record c.direction time).2 }

/-- Process one period worth of frames. -/
def process (c : Callback) (v : View) (m : Memory) (time : Timestamp) (context : Context) :
    Processed :=
  let context := c.recordTime time context
  match c.direction with
  | .output =>
    let (produced, p) := c.output v m context
    count p v.frames (decide (produced < v.frames))
  | .input => count (c.input v m context) v.frames false

/-- The debug text of a callback. -/
def debugText (c : Callback) : String :=
  "Bridge \x7b direction: " ++ c.direction.debugText ++ ", config: " ++ c.config.debugText ++
    ", handler: " ++ c.handler.debugText ++ ", preclear_capture: " ++
    (if c.preclear then "true" else "false") ++ " \x7d"

end Callback

end PcmStream
