/-
  Hand-off queues in single steps.

  The two ends of a queue belong to two threads, so a call at one end is not over in one go: the
  other end may use the queue in between.  A call meets the other end at three kinds of steps only,
  and each of these is done at once: it looks how many samples can be moved right now, it pushes one
  sample, or it pops one.  Everything else that a call does, it does to memory of its own.

  `Steps` is a call cut at these places.  It is one type for both ends, since they go about it in the
  same way: look once, round down to whole frames, move that many samples one by one, and give up
  early if a sample cannot be moved after all.

    write    looks for room,              pushes the samples of a list
    capture  checks the view, looks,      pushes the samples of a view
    render   checks the view, looks for samples, pops them into a view
    read     looks for samples,           pops them into a list

  Every move says for which channel it is meant.  Nothing depends on that; it is what the call would
  take the sample for, by its place in the list or in the view.

  `Traffic` is both ends at work.  A schedule begins calls and carries out single steps of either
  end, in any order, and each end keeps a record of what it moved and of the calls that are over.
-/
import PcmStream.Queue.Basic

namespace PcmStream

namespace Queue

variable {type : SampleFormat}

/-- Push one sample, if there is room for it. -/
def push (q : Queue type) (s : Sample type) : Option (Queue type) :=
  if q.samples.length < q.capacity then some { q with samples := q.samples ++ [s] } else none

/-- Pop the oldest sample, if there is one. -/
def pop (q : Queue type) : Option (Sample type × Queue type) :=
  match q.samples with
  | [] => none
  | s :: rest => some (s, { q with samples := rest })

end Queue

/-! ## Calls -/

/-- A call at one end of a queue, step by step.  For each sample that it moves it hands something
over, the sample itself or nothing, and is handed something back. -/
inductive Steps (Given Taken Answer : Type) : Type
  /-- The call is over. -/
  | answer (a : Answer)
  /-- Look how many samples can be moved right now. -/
  | look (next : Nat → Steps Given Taken Answer)
  /-- Move one sample, meant for the given channel.  Nothing is handed back if that fails. -/
  | move (channel : Nat) (given : Given) (next : Option Taken → Steps Given Taken Answer)

/-- A call at the producing end. -/
inductive ProducerCall (type : SampleFormat)
  /-- Write samples. -/
  | write (source : List (Sample type))
  /-- Capture a view. -/
  | capture (v : View) (m : Memory)

/-- The answer to a `ProducerCall`. -/
inductive ProducerAnswer
  /-- The number of samples written. -/
  | written (count : Nat)
  /-- The result of capturing. -/
  | captured (result : Except CallbackError Unit)
  deriving Repr

/-- A call at the consuming end. -/
inductive ConsumerCall (type : SampleFormat)
  /-- Render into a view. -/
  | render (v : View) (m : Memory)
  /-- Read over a list. -/
  | read (target : List (Sample type))

/-- The answer to a `ConsumerCall`. -/
inductive ConsumerAnswer (type : SampleFormat)
  /-- The result of rendering, and the memory. -/
  | rendered (result : Except CallbackError Nat) (m : Memory)
  /-- The number of samples read, and the list. -/
  | read (count : Nat) (target : List (Sample type))
  deriving Repr

/-- The steps of a call at the producing end. -/
abbrev ProducerSteps (type : SampleFormat) : Type := Steps (Sample type) Unit ProducerAnswer

/-- The steps of a call at the consuming end. -/
abbrev ConsumerSteps (type : SampleFormat) : Type := Steps Unit (Sample type) (ConsumerAnswer type)

namespace ProducerCall

variable {type : SampleFormat}

/-- Push samples in order, the first of them as the `i`-th one of the call. -/
def pushAll (channels : Nat) (a : ProducerAnswer) : Nat → List (Sample type) → ProducerSteps type
  | _, [] => .answer a
  | i, s :: ss =>
    .move (i % channels) s fun
      | some () => pushAll channels a (i + 1) ss
      | none => .answer a

/-- Push `n` samples of a view in frame order, the first of them its `i`-th one. -/
def pushView (v : View) (m : Memory) (result : Except CallbackError Unit) :
    Nat → Nat → ProducerSteps type
  | _, 0 => .answer (.captured result)
  | i, n + 1 =>
    match v.read m type (i % v.channels) (i / v.channels) with
    | .error e => .answer (.captured (.error (.view e)))
    | .ok s =>
      .move (i % v.channels) s fun
        | some () => pushView v m result (i + 1) n
        | none => .answer (.captured (.error .notReady))

/-- The steps of a call.  Of the queue only its channels are used here, which never change. -/
def steps (q : Queue type) : ProducerCall type → ProducerSteps type
  | write source =>
    .look fun room =>
      let count := min (source.length / q.channels * q.channels) (room / q.channels * q.channels)
      pushAll q.channels (.written count) 0 (source.take count)
  | capture v m =>
    match q.check v with
    | .error e => .answer (.captured (.error (.view e)))
    | .ok () =>
      .look fun room =>
        let frames := min v.frames (room / q.channels)
        pushView v m (if frames < v.frames then .error .notReady else .ok ()) 0
          (frames * q.channels)

end ProducerCall

namespace ConsumerCall

variable {type : SampleFormat}

/-- Pop `n` samples into a view in frame order, the first of them as its `i`-th one. -/
def popView (v : View) (frames : Nat) : Nat → Nat → Memory → ConsumerSteps type
  | _, 0, m => .answer (.rendered (.ok frames) m)
  | i, n + 1, m =>
    .move (i % v.channels) () fun
      | some s =>
        match v.write m (i % v.channels) (i / v.channels) s with
        | (.ok (), m) => popView v frames (i + 1) n m
        | (.error e, m) => .answer (.rendered (.error (.view e)) m)
      | none => .answer (.rendered (.error .notReady) m)

/-- Pop `n` samples over the elements of a list, from its `i`-th one on. -/
def popAll (channels : Nat) : Nat → Nat → List (Sample type) → ConsumerSteps type
  | i, 0, target => .answer (.read i target)
  | i, n + 1, target =>
    .move (i % channels) () fun
      | some s => popAll channels (i + 1) n (target.set i s)
      | none => .answer (.read i target)

/-- The steps of a call.  Of the queue only its channels are used here, which never change. -/
def steps (q : Queue type) : ConsumerCall type → ConsumerSteps type
  | render v m =>
    match q.check v with
    | .error e => .answer (.rendered (.error (.view e)) m)
    | .ok () =>
      .look fun queued =>
        let frames := min v.frames (queued / q.channels)
        popView v frames 0 (frames * q.channels) m
  | read target =>
    .look fun queued =>
      let count := min (target.length / q.channels * q.channels)
        (queued / q.channels * q.channels)
      popAll q.channels 0 count target

end ConsumerCall

/-! ## Calls left alone -/

/-- What a call at the producing end comes to: the operation of the queue. -/
def ProducerCall.perform {type : SampleFormat} (q : Queue type) :
    ProducerCall type → ProducerAnswer × Queue type
  | write source =>
    let (count, q) := q.write source
    (.written count, q)
  | capture v m =>
    let (result, q) := q.capture v m
    (.captured result, q)

/-- What a call at the consuming end comes to. -/
def ConsumerCall.perform {type : SampleFormat} (q : Queue type) :
    ConsumerCall type → ConsumerAnswer type × Queue type
  | render v m =>
    let (result, m, q) := q.render v m
    (.rendered result m, q)
  | read target =>
    let (count, target, q) := q.read target
    (.read count target, q)

namespace Queue

variable {type : SampleFormat} {Answer : Type}

/-- Carry out all steps of a call at the producing end, with nobody at the other end. -/
def produce : Queue type → Steps (Sample type) Unit Answer → Answer × Queue type
  | q, .answer a => (a, q)
  | q, .look next => produce q (next q.room)
  | q, .move _ s next =>
    match q.push s with
    | some q => produce q (next (some ()))
    | none => produce q (next none)

/-- Carry out all steps of a call at the consuming end, with nobody at the other end. -/
def consume : Queue type → Steps Unit (Sample type) Answer → Answer × Queue type
  | q, .answer a => (a, q)
  | q, .look next => consume q (next q.samples.length)
  | q, .move _ _ next =>
    match q.pop with
    | some (s, q) => consume q (next (some s))
    | none => consume q (next none)

end Queue

/-! ## Both ends at work -/

namespace Queue

variable {type : SampleFormat}

/-- What a step of the producing end does that moves a sample: it pushes the sample handed over. -/
def moveIn (q : Queue type) (s : Sample type) : Option (Unit × Sample type × Queue type) :=
  (q.push s).map fun q => ((), s, q)

/-- What a step of the consuming end does that moves a sample: it pops one and hands it back. -/
def moveOut (q : Queue type) (_ : Unit) : Option (Sample type × Sample type × Queue type) :=
  q.pop.map fun popped => (popped.1, popped.1, popped.2)

end Queue

/-- A call that is over. -/
structure Finished (Answer : Type) where
  /-- The number of samples that the end had moved before the call. -/
  start : Nat
  /-- The number of samples that the call moved. -/
  count : Nat
  /-- What the call answered. -/
  answer : Answer
  deriving Repr

/-- A call under way. -/
structure Underway (Given Taken Answer : Type) where
  /-- The number of samples that the end had moved before the call. -/
  start : Nat
  /-- What is left of the call. -/
  rest : Steps Given Taken Answer

/-- One end of a queue at work. -/
structure Party (type : SampleFormat) (Given Taken Answer : Type) where
  /-- Every sample moved so far and the channel it was meant for, oldest first. -/
  moved : List (Nat × Sample type) := []
  /-- The number of times that a sample could not be moved. -/
  refused : Nat := 0
  /-- The call under way, if there is one. -/
  call : Option (Underway Given Taken Answer) := none
  /-- The calls that are over, oldest first. -/
  finished : List (Finished Answer) := []

namespace Party

variable {type : SampleFormat} {Given Taken Answer : Type}

/-- Begin a call, unless one is under way. -/
def enter (p : Party type Given Taken Answer) (steps : Steps Given Taken Answer) :
    Party type Given Taken Answer :=
  match p.call with
  | some _ => p
  | none => { p with call := some ⟨p.moved.length, steps⟩ }

/-- Carry out the next step of the call under way.  `slots` is what a look shows, and `move` moves
one sample: it answers what the call is handed back, the sample, and the queue afterwards. -/
def step (p : Party type Given Taken Answer) (q : Queue type) (slots : Nat)
    (move : Given → Option (Taken × Sample type × Queue type)) :
    Party type Given Taken Answer × Queue type :=
  match p.call with
  | none => (p, q)
  | some ⟨start, .answer a⟩ =>
    ({ p with
        call := none
        finished := p.finished ++ [⟨start, p.moved.length - start, a⟩] }, q)
  | some ⟨start, .look next⟩ => ({ p with call := some ⟨start, next slots⟩ }, q)
  | some ⟨start, .move channel given next⟩ =>
    match move given with
    | some (taken, s, q) =>
      ({ p with
          moved := p.moved ++ [(channel, s)]
          call := some ⟨start, next (some taken)⟩ }, q)
    | none =>
      ({ p with refused := p.refused + 1, call := some ⟨start, next none⟩ }, q)

end Party

/-- A queue and its two ends at work. -/
structure Traffic (type : SampleFormat) where
  /-- The queue. -/
  queue : Queue type
  /-- The producing end. -/
  producer : Party type (Sample type) Unit ProducerAnswer := {}
  /-- The consuming end. -/
  consumer : Party type Unit (Sample type) (ConsumerAnswer type) := {}

/-- What happens next: an end begins a call, or carries out one step of it. -/
inductive TrafficStep (type : SampleFormat)
  /-- The producing end begins a call. -/
  | produce (call : ProducerCall type)
  /-- The consuming end begins a call. -/
  | consume (call : ConsumerCall type)
  /-- The producing end carries out one step. -/
  | producer
  /-- The consuming end carries out one step. -/
  | consumer

namespace Traffic

variable {type : SampleFormat}

/-- What happens next.  An end whose call is not over begins no other, and one that has no call under
way has no step to carry out. -/
def run (t : Traffic type) : TrafficStep type → Traffic type
  | .produce call => { t with producer := t.producer.enter (call.steps t.queue) }
  | .consume call => { t with consumer := t.consumer.enter (call.steps t.queue) }
  | .producer =>
    let (producer, queue) := t.producer.step t.queue t.queue.room t.queue.moveIn
    { t with producer, queue }
  | .consumer =>
    let (consumer, queue) := t.consumer.step t.queue t.queue.samples.length t.queue.moveOut
    { t with consumer, queue }

/-- Everything that a schedule says, in order. -/
def runAll (t : Traffic type) (schedule : List (TrafficStep type)) : Traffic type :=
  schedule.foldl run t

end Traffic

end PcmStream
