/-
  Programs: what the application does during one callback.

  A program is a tree: it either ends, or carries out one operation and continues depending on the
  reply.  A callback may therefore read before it writes, stop at an error or go on after it, and
  still every run of it is finite.  The operations are a parameter: a program for playback is built
  from actions, one for capture from queries only.

  A run is judged by its `Ending`.  `produced` is what an output callback makes of it: how many
  leading frames of the view hold audio.
-/
import PcmStream.View.Action
import PcmStream.Callback.Error

namespace PcmStream

/-- How the application's part of a callback ends. -/
inductive Ending
  /-- Every frame of the view was dealt with. -/
  | all
  /-- The given number of frames was dealt with. -/
  | frames (n : Nat)
  /-- The application gave up with an error. -/
  | error (e : CallbackError)
  /-- The application crashed. -/
  | crash
  deriving DecidableEq, Repr

/-- The number of leading frames that hold audio after the ending of an output callback.  An ending
with more frames than the view has counts as all of them; an error or a crash as none. -/
def Ending.produced (frames : Nat) : Ending → Nat
  | all => frames
  | .frames n => min n frames
  | error _ => 0
  | crash => 0

/-- A program of operations on a view. -/
inductive Program (Op : Type) : Type
  /-- End the callback. -/
  | finish (e : Ending)
  /-- Carry out an operation and continue with its reply. -/
  | step (op : Op) (next : Reply → Program Op)

/-- What a run of a program shows: the replies in order, and how it ended. -/
structure Run where
  /-- The reply of each operation carried out. -/
  replies : List Reply
  /-- How the run ended. -/
  ending : Ending
  deriving Repr

namespace Program

/-- The program that carries out operations in order; the first error ends it, and otherwise it ends
as given. -/
def ofList {Op : Type} (ending : Ending) : List Op → Program Op
  | [] => .finish ending
  | op :: ops => .step op fun reply =>
    match reply with
    | .ok _ => ofList ending ops
    | .error e => .finish (.error (.view e))

/-- Run a program for playback; answers what it shows and the memory afterwards. -/
def render (v : View) : Program Action → Memory → Run × Memory
  | finish e, m => (⟨[], e⟩, m)
  | step a next, m =>
    let (reply, m) := a.run v m
    let (run, m) := (next reply).render v m
    (⟨reply :: run.replies, run.ending⟩, m)

/-- Run a program for capture; it cannot change the memory. -/
def capture (v : View) (m : Memory) : Program Query → Run
  | finish e => ⟨[], e⟩
  | step q next =>
    let reply := q.answer v m
    let run := (next reply).capture v m
    ⟨reply :: run.replies, run.ending⟩

end Program

/-- A routine: the program of every callback in turn.  The program of a callback may depend on all
replies of the earlier ones, which is how the application keeps state from one to the next. -/
structure Routine (Op : Type) where
  /-- The program of the next callback, given the replies of the earlier ones, oldest first. -/
  next : List (List Reply) → Program Op
  /-- The replies of the callbacks so far, oldest first. -/
  past : List (List Reply) := []

/-- A callback written down beforehand: operations and an ending. -/
structure Call (Op : Type) where
  /-- The operations to carry out. -/
  ops : List Op := []
  /-- How the callback ends if no operation fails. -/
  ending : Ending := .all
  deriving Repr

namespace Routine

variable {Op : Type}

/-- The program of the next callback. -/
def program (r : Routine Op) : Program Op := r.next r.past

/-- The routine after a callback with the given replies. -/
def remember (r : Routine Op) (replies : List Reply) : Routine Op :=
  { r with past := r.past ++ [replies] }

/-- The routine of a script: the calls in turn, and the last of them over and over after that.  An
empty script does nothing. -/
def ofScript (calls : List (Call Op)) : Routine Op where
  next past :=
    let call := (calls[past.length]? <|> calls.getLast?).getD {}
    .ofList call.ending call.ops

end Routine

end PcmStream
