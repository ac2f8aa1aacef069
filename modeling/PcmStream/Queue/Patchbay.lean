/-
  The patchbay: all hand-off queues of a session, each known by a number.

  The two ends of a queue belong to different parties, the application and a stream's callback, and
  both outlive the other at times: samples written before the stream was closed can still be read
  afterwards.  So the queues are kept here and an end is just the number of its queue.  A number is
  never given out twice, and whether the other end of a queue still exists is a question of whether
  anybody holds that number.
-/
import PcmStream.Queue.Basic

namespace PcmStream

/-- A queue together with the type of its samples. -/
structure AnyQueue where
  /-- The type of the samples. -/
  type : SampleFormat
  /-- The queue. -/
  queue : Queue type
  deriving Repr

/-- All queues of a session; the number of a queue is its position. -/
structure Patchbay where
  /-- The queues in the order in which they were made. -/
  queues : List AnyQueue := []
  deriving Repr

namespace Patchbay

/-- Add a queue; answers its number. -/
def add (p : Patchbay) (q : AnyQueue) : Nat × Patchbay :=
  (p.queues.length, ⟨p.queues ++ [q]⟩)

/-- The queue of a number. -/
def queue? (p : Patchbay) (key : Nat) : Option AnyQueue := p.queues[key]?

/-- Replace the queue of a number. -/
def put (p : Patchbay) (key : Nat) (q : AnyQueue) : Patchbay := ⟨p.queues.set key q⟩

/-! ## Looking up after a change -/

@[simp] theorem queue?_add_same (p : Patchbay) (q : AnyQueue) :
    (p.add q).2.queue? (p.add q).1 = some q := by
  simp [add, queue?]

theorem queue?_put_same (p : Patchbay) {key : Nat} {old : AnyQueue} (q : AnyQueue)
    (h : p.queue? key = some old) : (p.put key q).queue? key = some q := by
  have hlt : key < p.queues.length := (List.getElem?_eq_some_iff.mp h).1
  simp [put, queue?, hlt]

theorem queue?_put_of_ne (p : Patchbay) {key other : Nat} (q : AnyQueue) (h : key ≠ other) :
    (p.put key q).queue? other = p.queue? other := by
  simp [put, queue?, h]

end Patchbay

end PcmStream
