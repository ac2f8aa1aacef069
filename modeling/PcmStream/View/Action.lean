/-
  What a callback can do to a view, as data.

  A `Query` looks at a view and an `Action` may also change its memory; each is answered with a
  value or with the error of the access.  Keeping the operations as data is what lets a handler be
  any program of them (`Handler.Program`): the same program can be run against two layouts and its
  answers compared, and a handler for captured audio, which is only given queries, cannot change
  memory by construction.

  `shape` tells what every layout shares, `info` also whether samples are interleaved.  A program
  that never asks for `info` cannot tell layouts apart.
-/
import PcmStream.View.Basic

namespace PcmStream

/-- What two views of the same audio share, whatever their layout. -/
structure Shape where
  /-- The number of frames. -/
  frames : Nat
  /-- The number of channels. -/
  channels : Nat
  /-- The format of every sample. -/
  format : SampleFormat
  deriving DecidableEq, Repr

/-- The description of a view. -/
structure ViewInfo where
  /-- What does not depend on the layout. -/
  shape : Shape
  /-- Whether samples are interleaved in a single buffer. -/
  interleaved : Bool
  deriving DecidableEq, Repr

namespace View

/-- The frames, channels and format of a view. -/
def shape (v : View) : Shape := ⟨v.frames, v.channels, v.format⟩

/-- The description of a view. -/
def info (v : View) : ViewInfo := ⟨v.shape, v.isInterleaved⟩

/-- Write samples of consecutive values in frame order, `n` of them, the first one with the value
`start + i` as the `i`-th sample of the view.  The first error ends the loop; what was written
before it stays. -/
def ramp (v : View) (type : SampleFormat) (start : Int) :
    Nat → Nat → Memory → Except ViewError Unit × Memory
  | _, 0, m => (.ok (), m)
  | i, n + 1, m =>
    match v.write m (i % v.channels) (i / v.channels) (Sample.ofCount type (start + i)) with
    | (.ok (), m) => v.ramp type start (i + 1) n m
    | (.error e, m) => (.error e, m)

end View

/-- Operations that leave the memory of a view as it is. -/
inductive Query
  /-- Ask for the frames, channels and format. -/
  | shape
  /-- Ask for the whole description, including the layout. -/
  | info
  /-- Read one sample. -/
  | read (type : SampleFormat) (channel frame : Nat)
  /-- Copy the view out over the start of a list of samples. -/
  | copyTo (type : SampleFormat) (target : List (Sample type))
  deriving Repr

/-- Operations on a view. -/
inductive Action
  /-- Look at the view. -/
  | query (q : Query)
  /-- Write one sample. -/
  | write (type : SampleFormat) (channel frame : Nat) (s : Sample type)
  /-- Copy interleaved samples into the view. -/
  | copyFrom (type : SampleFormat) (source : List (Sample type))
  /-- Zero the whole declared memory. -/
  | silence
  /-- Zero everything from a frame on. -/
  | silenceFrom (frame : Nat)
  /-- Write a test ramp: consecutive values in frame order over the given number of frames. -/
  | ramp (type : SampleFormat) (frames : Nat) (start : Int)
  deriving Repr

/-- The value an operation is answered with. -/
inductive Answer
  /-- The operation was carried out and has no value. -/
  | done
  /-- The frames, channels and format. -/
  | shape (s : Shape)
  /-- The whole description. -/
  | info (i : ViewInfo)
  /-- The sample read. -/
  | sample (type : SampleFormat) (s : Sample type)
  /-- The number of frames copied into the view. -/
  | copied (frames : Nat)
  /-- The number of frames copied out, and the list they were copied over. -/
  | copiedOut (frames : Nat) (type : SampleFormat) (samples : List (Sample type))
  deriving DecidableEq, Repr

/-- An answered operation: a value, or the error of the access. -/
abbrev Reply : Type := Except ViewError Answer

namespace Query

/-- Answer a query on a view. -/
def answer (v : View) (m : Memory) : Query → Reply
  | shape => .ok (.shape v.shape)
  | info => .ok (.info v.info)
  | read type channel frame => (v.read m type channel frame).map (.sample type)
  | copyTo type target => (v.copyTo m target).map fun r => .copiedOut r.1 type r.2

end Query

namespace Action

/-- Carry out an operation on a view; answers the reply and the memory afterwards. -/
def run (v : View) (m : Memory) : Action → Reply × Memory
  | query q => (q.answer v m, m)
  | write _ channel frame s =>
    let (r, m) := v.write m channel frame s
    (r.map fun _ => .done, m)
  | copyFrom _ source =>
    let (r, m) := v.copyFrom m source
    (r.map .copied, m)
  | silence => (.ok .done, v.silence m)
  | silenceFrom frame => (.ok .done, v.silenceFrom m frame)
  | ramp type frames start =>
    let (r, m) := v.ramp type start 0 (frames * v.channels) m
    (r.map fun _ => .done, m)

/-- A query leaves the memory as it is. -/
@[simp] theorem run_query_memory (v : View) (m : Memory) (q : Query) :
    (run v m (.query q)).2 = m := rfl

end Action

end PcmStream
