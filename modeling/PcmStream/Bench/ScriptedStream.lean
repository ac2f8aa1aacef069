/-
  A test bench with one stream over a scripted device that records its calls.

  The device never issues a callback by itself.  The one registered last can be handed a view at
  any time, and goes on working after the stream has been closed.
-/
import PcmStream.Bench.Lifecycle
import PcmStream.Device.Scripted
import PcmStream.View.Surface

namespace PcmStream.Bench

/-- A command to the bench. -/
inductive ScriptedCommand
  /-- An operation on the stream. -/
  | stream (c : StreamCommand)
  /-- Replace the script of the device. -/
  | setScript (script : Script)
  /-- Hand a view to the registered callback. -/
  | process (source : Source) (time : Timestamp)
  /-- Look at the registered callback. -/
  | callback
  /-- Use an end of a hand-off queue. -/
  | atEnd (name : String) (c : EndCommand)
  deriving Repr

/-- The answer to a `ScriptedCommand`. -/
inductive ScriptedReply
  /-- Of an operation on the stream. -/
  | stream (r : StreamReply)
  /-- The command was carried out. -/
  | done
  /-- No callback is registered. -/
  | noCallback
  /-- What the callback left of the memory it was handed. -/
  | processed (surface : Surface)
  /-- The registered callback. -/
  | callback (c : Callback)
  /-- Of an end. -/
  | atEnd (r : EndReply)

/-- The bench. -/
structure ScriptedBench where
  /-- Where the device is. -/
  slot : Slot (Recorded ScriptedDevice)
  /-- The application. -/
  application : Application := {}

/-- What a command leaves behind. -/
structure ScriptedTurn where
  /-- The answer. -/
  reply : ScriptedReply
  /-- The bench afterwards. -/
  bench : ScriptedBench
  /-- The events noted. -/
  log : List Event := []
  /-- What routines did during the command. -/
  records : List CallbackRecord := []

namespace ScriptedBench

/-- A bench with a fresh device that follows a script. -/
def ofScript (script : Script) : ScriptedBench where
  slot := .free { device := { script } }

/-- The scripted device. -/
def device (b : ScriptedBench) : ScriptedDevice := b.slot.device.device

/-- The bench with its scripted device replaced. -/
def withDevice (b : ScriptedBench) (device : ScriptedDevice) : ScriptedBench :=
  { b with slot := b.slot.withDevice { b.slot.device with device } }

/-- Whether the callback holds its end of the hand-off queue of the given number. -/
def holdsQueue (b : ScriptedBench) (key : Nat) : Bool :=
  b.device.callback.any fun c => c.handler.queueKey? == some key

/-- Hand a surface to a callback; without a view the callback has nothing to do. -/
def process (b : ScriptedBench) (c : Callback) (surface : Surface) (time : Timestamp) :
    ScriptedTurn :=
  match surface.view with
  | none => { reply := .processed surface, bench := b }
  | some view =>
    let context := { stats := b.slot.stats, patchbay := b.application.patchbay }
    let p := c.process view surface.memory time context
    let b := b.withDevice { b.device with callback := some p.callback }
    { reply := .processed { surface with memory := p.memory }
      bench :=
        { slot := b.slot.withStats p.context.stats
          application := { b.application with patchbay := p.context.patchbay } }
      records := p.record.toList }

/-- Carry out a command. -/
def run (b : ScriptedBench) : ScriptedCommand → ScriptedTurn
  | .stream c =>
    let t := c.run b.slot b.application
    { reply := .stream t.reply, bench := ⟨t.slot, t.application⟩, log := t.log }
  | .setScript script => { reply := .done, bench := b.withDevice { b.device with script } }
  | .process source time =>
    match b.device.callback with
    | none => { reply := .noCallback, bench := b }
    | some c => b.process c source.surface time
  | .callback =>
    match b.device.callback with
    | none => { reply := .noCallback, bench := b }
    | some c => { reply := .callback c, bench := b }
  | .atEnd name c =>
    let (reply, application) := b.application.useEnd b.holdsQueue name c
    { reply := .atEnd reply, bench := { b with application } }

/-- The calls made so far, oldest first. -/
def calls (b : ScriptedBench) : List CallRecord := b.slot.device.calls

end ScriptedBench

end PcmStream.Bench
