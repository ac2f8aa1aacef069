/-
  Handlers: the application's part of a stream.

  An output stream is served by something that renders, an input stream by something that captures,
  and either by nothing at all.  Rendering and capturing is done by a routine of the application or
  by the callback's end of a hand-off queue, which is known by its number in the patchbay.
-/
import PcmStream.Handler.Program
import PcmStream.Queue.Patchbay
import PcmStream.Direction

namespace PcmStream

/-- Who deals with the frames of a callback. -/
inductive Server (Op : Type)
  /-- A routine of the application. -/
  | routine (r : Routine Op)
  /-- The hand-off queue of the given number. -/
  | queue (key : Nat)

/-- The application's part of a stream. -/
inductive Handler
  /-- Nobody; an output stream emits silence. -/
  | none
  /-- Fill output views. -/
  | render (server : Server Action)
  /-- Drain input views. -/
  | capture (server : Server Query)

/-- The number of the queue that serves, if one does. -/
def Server.queueKey? {Op : Type} : Server Op → Option Nat
  | routine _ => .none
  | queue key => some key

namespace Handler

/-- Whether the handler can serve a stream of the given direction. -/
def accepts : Handler → Direction → Bool
  | none, _ => true
  | render _, .output => true
  | capture _, .input => true
  | _, _ => false

/-- The number of the queue whose callback's end the handler is, if it is one. -/
def queueKey? : Handler → Option Nat
  | none => .none
  | render server => server.queueKey?
  | capture server => server.queueKey?

/-- The debug text of a handler. -/
def debugText : Handler → String
  | none => "None"
  | render _ => "Render"
  | capture _ => "Capture"

end Handler

end PcmStream
