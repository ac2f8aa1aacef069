/-
  No torn frames: whatever the two ends of a queue do in between each other's steps, samples are
  handed over in whole frames.

  A call looks once and moves samples afterwards, and what it saw may be out of date by then, or may
  have been a count in the middle of a frame of the other end.  Two facts make this harmless.

  * What a look shows is a promise.  The other end only ever adds to it: popping makes room, and
    pushing makes samples.  So as many samples as were seen can still be moved (`Party.Framed.mono`).
  * Each end rounds what it sees down to whole frames of its own.  So it moves whole frames, and
    begins every call at a whole frame, wherever the other end happens to be.

  `Steps.Framed` is what a call owes after its look, and `Steps.Opening` what it owes before; all
  four calls keep to it.  `Party.Framed` carries that through the steps of one end and is the same
  for both.  `Traffic.Framed` puts the ends together, and `never_torn` is what follows.
-/
import PcmStream.Proofs.Queue.Steps

namespace PcmStream

/-! ## What a call owes -/

section Steps

variable {Given Taken Answer : Type} {channels : Nat} {tells : Nat → Answer → Prop}

/-- The call has moved `i` samples and moves `n` more, if none is refused, each of them for the
channel that its place in the call says.  With the last of them whole frames are moved, and the
answer fits the number of samples. -/
inductive Steps.Framed (channels : Nat) (tells : Nat → Answer → Prop) :
    Nat → Nat → Steps Given Taken Answer → Prop
  /-- All samples are moved. -/
  | answer {i : Nat} {a : Answer} (hi : channels ∣ i) (ha : tells i a) :
      Framed channels tells i 0 (.answer a)
  /-- The next sample is moved. -/
  | move {i n : Nat} {given : Given} {next : Option Taken → Steps Given Taken Answer}
      (h : ∀ taken, Framed channels tells (i + 1) n (next (some taken))) :
      Framed channels tells i (n + 1) (.move (i % channels) given next)

/-- The call has not looked yet, and will move no more than it sees; or it moves nothing at all. -/
inductive Steps.Opening (channels : Nat) (tells : Nat → Answer → Prop) :
    Steps Given Taken Answer → Prop
  /-- The call is over before it began. -/
  | answer {a : Answer} (ha : tells 0 a) : Opening channels tells (.answer a)
  /-- It looks. -/
  | look {next : Nat → Steps Given Taken Answer}
      (h : ∀ slots, ∃ n, n ≤ slots ∧ (next slots).Framed channels tells 0 n) :
      Opening channels tells (.look next)

end Steps

/-- What the answer of a producing call says of the number of samples moved: it is that number, or
nothing was moved because the view does not fit the queue. -/
def ProducerAnswer.Tells (count : Nat) : ProducerAnswer → Prop
  | written n => n = count
  | captured (.error (.view _)) => count = 0
  | captured _ => True

/-- What the answer of a consuming call says of the number of samples moved: it is that number, or
that number of frames, or nothing was moved because the view does not fit the queue. -/
def ConsumerAnswer.Tells {type : SampleFormat} (channels count : Nat) :
    ConsumerAnswer type → Prop
  | rendered (.ok frames) _ => frames * channels = count
  | rendered (.error (.view _)) _ => count = 0
  | rendered (.error _) _ => False
  | read n _ => n = count

namespace ProducerCall

variable {type : SampleFormat}

theorem framed_pushAll {channels : Nat} {a : ProducerAnswer} (i : Nat) (ss : List (Sample type))
    (hwhole : channels ∣ i + ss.length) (ha : a.Tells (i + ss.length)) :
    (pushAll channels a i ss).Framed channels ProducerAnswer.Tells i ss.length := by
  induction ss generalizing i with
  | nil => exact .answer hwhole ha
  | cons s ss ih =>
    rw [List.length_cons] at hwhole ha
    have hnext : i + 1 + ss.length = i + (ss.length + 1) := by omega
    refine .move fun _ => ?_
    exact ih (i + 1) (by rwa [hnext]) (by rwa [hnext])

theorem framed_pushView {v : View} {m : Memory} {result : Except CallbackError Unit}
    (ht : type = v.format) (i n : Nat) (hin : i + n ≤ v.frames * v.channels)
    (hwhole : v.channels ∣ i + n) (ha : (ProducerAnswer.captured result).Tells (i + n)) :
    (pushView v m result i n : ProducerSteps type).Framed v.channels ProducerAnswer.Tells i n := by
  subst ht
  induction n generalizing i with
  | zero => exact .answer hwhole ha
  | succ n ih =>
    have hcheck := v.check_place (i := i) (by omega)
    have hnext : i + 1 + n = i + (n + 1) := by omega
    rw [pushView, v.read_of_check m hcheck]
    refine .move fun _ => ?_
    exact ih (i + 1) (by omega) (by rwa [hnext]) (by rwa [hnext])

/-- Before its look every producing call owes no more than it will see. -/
theorem opening_steps (q : Queue type) (call : ProducerCall type) :
    (call.steps q).Opening q.channels ProducerAnswer.Tells := by
  cases call with
  | write source =>
    refine .look fun room => ?_
    have hle : min (source.length / q.channels * q.channels) (room / q.channels * q.channels) ≤
        source.length :=
      Nat.le_trans (Nat.min_le_left ..) (Nat.div_mul_le_self ..)
    have hroom : min (source.length / q.channels * q.channels) (room / q.channels * q.channels) ≤
        room :=
      Nat.le_trans (Nat.min_le_right ..) (Nat.div_mul_le_self ..)
    have hwhole : q.channels ∣
        min (source.length / q.channels * q.channels) (room / q.channels * q.channels) := by
      rw [Nat.mul_min_mul_right]
      exact Nat.dvd_mul_left ..
    -- Nothing but these three facts matters of the number of samples.
    generalize min (source.length / q.channels * q.channels) (room / q.channels * q.channels) =
      count at hle hroom hwhole
    have hlength : (source.take count).length = count := by
      rw [List.length_take, Nat.min_eq_left hle]
    refine ⟨count, hroom, ?_⟩
    have hframed : (pushAll q.channels (.written count) 0 (source.take count)).Framed q.channels
        ProducerAnswer.Tells 0 (source.take count).length := by
      refine framed_pushAll 0 (source.take count) ?_ ?_
      · rwa [Nat.zero_add, hlength]
      · rw [Nat.zero_add, hlength]
        rfl
    rwa [hlength] at hframed
  | capture v m =>
    rw [steps]
    cases hcheck : q.check v with
    | error e => exact .answer rfl
    | ok =>
      obtain ⟨ht, hc⟩ := (q.check_eq_ok_iff v).mp hcheck
      refine .look fun room => ⟨min v.frames (room / q.channels) * q.channels, ?_, ?_⟩
      · exact Nat.mul_le_of_le_div _ _ _ (Nat.min_le_right ..)
      · simp only [hc]
        refine framed_pushView ht 0 _ ?_ ?_ ?_
        · rw [Nat.zero_add]
          exact Nat.mul_le_mul_right _ (Nat.min_le_left ..)
        · rw [Nat.zero_add]
          exact Nat.dvd_mul_left ..
        · split <;> trivial

end ProducerCall

namespace ConsumerCall

variable {type : SampleFormat}

theorem framed_popView {v : View} {frames : Nat} (ht : type = v.format) (i n : Nat) (m : Memory)
    (hin : i + n ≤ v.frames * v.channels) (hcount : frames * v.channels = i + n) :
    (popView v frames i n m : ConsumerSteps type).Framed v.channels
      (ConsumerAnswer.Tells v.channels) i n := by
  subst ht
  induction n generalizing i m with
  | zero =>
    have hwhole : v.channels ∣ frames * v.channels := Nat.dvd_mul_left ..
    rw [hcount] at hwhole
    exact .answer hwhole hcount
  | succ n ih =>
    have hcheck := v.check_place (i := i) (by omega)
    refine .move fun s => ?_
    simp only [v.write_of_check m s hcheck]
    exact ih (i + 1) _ (by omega) (by omega)

theorem framed_popAll {channels : Nat} (i n : Nat) (target : List (Sample type))
    (hwhole : channels ∣ i + n) :
    (popAll channels i n target).Framed channels (ConsumerAnswer.Tells channels) i n := by
  induction n generalizing i target with
  | zero => exact .answer hwhole rfl
  | succ n ih =>
    have hnext : i + 1 + n = i + (n + 1) := by omega
    refine .move fun s => ?_
    exact ih (i + 1) _ (by rwa [hnext])

/-- Before its look every consuming call owes no more than it will see. -/
theorem opening_steps (q : Queue type) (call : ConsumerCall type) :
    (call.steps q).Opening q.channels (ConsumerAnswer.Tells q.channels) := by
  cases call with
  | render v m =>
    rw [steps]
    cases hcheck : q.check v with
    | error e => exact .answer rfl
    | ok =>
      obtain ⟨ht, hc⟩ := (q.check_eq_ok_iff v).mp hcheck
      refine .look fun queued => ⟨min v.frames (queued / q.channels) * q.channels, ?_, ?_⟩
      · exact Nat.mul_le_of_le_div _ _ _ (Nat.min_le_right ..)
      · simp only [hc]
        refine framed_popView ht 0 _ m ?_ (Nat.zero_add _).symm
        rw [Nat.zero_add]
        exact Nat.mul_le_mul_right _ (Nat.min_le_left ..)
  | read target =>
    refine .look fun queued => ⟨_, ?_, framed_popAll 0 _ target ?_⟩
    · exact Nat.le_trans (Nat.min_le_right ..) (Nat.div_mul_le_self ..)
    · rw [Nat.zero_add, Nat.mul_min_mul_right]
      exact Nat.dvd_mul_left ..

end ConsumerCall

/-! ## One end -/

section Party

variable {type : SampleFormat} {Given Taken Answer : Type} {channels slots : Nat}
  {tells : Nat → Answer → Prop}

/-- A call under way began at a whole frame.  It has not looked, or it still owes no more than there
are slots. -/
def Underway.Framed (channels : Nat) (tells : Nat → Answer → Prop) (slots moved : Nat)
    (c : Underway Given Taken Answer) : Prop :=
  channels ∣ c.start ∧ c.start ≤ moved ∧
    (c.start = moved ∧ c.rest.Opening channels tells ∨
      ∃ n, n ≤ slots ∧ c.rest.Framed channels tells (moved - c.start) n)

/-- An end that was never refused anything and has moved whole frames, but for the call under way,
when `slots` more samples can be moved. -/
structure Party.Framed (channels : Nat) (tells : Nat → Answer → Prop) (slots : Nat)
    (p : Party type Given Taken Answer) : Prop where
  /-- Nothing was refused. -/
  refused : p.refused = 0
  /-- The channels take turns. -/
  meant : p.moved.map (·.1) = (List.range p.moved.length).map (· % channels)
  /-- Calls that are over moved whole frames, from a whole frame on, and answered accordingly. -/
  finished : ∀ call ∈ p.finished,
    channels ∣ call.start ∧ channels ∣ call.count ∧ tells call.count call.answer
  /-- Without a call the end is at a whole frame. -/
  idle : p.call = none → channels ∣ p.moved.length
  /-- With one it will be. -/
  busy : ∀ c, p.call = some c → c.Framed channels tells slots p.moved.length

/-- Beginning a call moves nothing. -/
theorem Party.moved_enter (p : Party type Given Taken Answer) (steps : Steps Given Taken Answer) :
    (p.enter steps).moved = p.moved := by
  rw [enter]
  split <;> rfl

namespace Party.Framed

variable {p : Party type Given Taken Answer}

/-- More slots do no harm: what was seen to be possible stays so. -/
theorem mono {slots' : Nat} (h : p.Framed channels tells slots) (hle : slots ≤ slots') :
    p.Framed channels tells slots' where
  refused := h.refused
  meant := h.meant
  finished := h.finished
  idle := h.idle
  busy c hc := by
    obtain ⟨hstart, hmoved, hrest⟩ := h.busy c hc
    refine ⟨hstart, hmoved, ?_⟩
    rcases hrest with hopening | ⟨n, hn, hframed⟩
    · exact .inl hopening
    · exact .inr ⟨n, Nat.le_trans hn hle, hframed⟩

theorem enter (h : p.Framed channels tells slots) {steps : Steps Given Taken Answer}
    (hsteps : steps.Opening channels tells) : (p.enter steps).Framed channels tells slots := by
  rw [Party.enter]
  cases hc : p.call with
  | some c => exact h
  | none =>
    exact {
      refused := h.refused
      meant := h.meant
      finished := h.finished
      idle := nofun
      busy := fun c hc' => by
        cases hc'
        exact ⟨h.idle hc, Nat.le_refl _, .inl ⟨rfl, hsteps⟩⟩ }

/-- A call that answers has moved what it owed, so the end is at a whole frame. -/
theorem answered (h : p.Framed channels tells slots) {start : Nat} {a : Answer}
    (hc : p.call = some ⟨start, .answer a⟩) :
    ({ p with
        call := none
        finished := p.finished ++ [⟨start, p.moved.length - start, a⟩] } :
      Party type Given Taken Answer).Framed channels tells slots := by
  obtain ⟨hstart, hmoved, hrest⟩ := h.busy _ hc
  simp only at hstart hmoved hrest
  -- It is over before its look, having moved nothing, or after it, owing nothing.
  have hover : channels ∣ p.moved.length - start ∧ tells (p.moved.length - start) a := by
    rcases hrest with ⟨heq, hopening⟩ | ⟨n, -, hframed⟩
    · cases hopening with
      | answer ha =>
        have hzero : p.moved.length - start = 0 := by omega
        rw [hzero]
        exact ⟨Nat.dvd_zero _, ha⟩
    · cases hframed with
      | answer hi ha => exact ⟨hi, ha⟩
  refine ⟨h.refused, h.meant, ?_, ?_, nofun⟩
  · intro call hcall
    rcases List.mem_append.mp hcall with hold | hnew
    · exact h.finished call hold
    · rw [List.mem_singleton] at hnew
      subst hnew
      exact ⟨hstart, hover⟩
  · intro _
    have hsum : start + (p.moved.length - start) = p.moved.length := by omega
    show channels ∣ p.moved.length
    rw [← hsum]
    exact Nat.dvd_add hstart hover.1

/-- A call that looks owes no more than it sees. -/
theorem looked (h : p.Framed channels tells slots) {start : Nat}
    {next : Nat → Steps Given Taken Answer} (hc : p.call = some ⟨start, .look next⟩) :
    ({ p with call := some ⟨start, next slots⟩ } :
      Party type Given Taken Answer).Framed channels tells slots := by
  obtain ⟨hstart, hmoved, hrest⟩ := h.busy _ hc
  simp only at hstart hmoved hrest
  refine ⟨h.refused, h.meant, h.finished, nofun, ?_⟩
  intro c hc'
  cases hc'
  rcases hrest with ⟨heq, hopening⟩ | ⟨n, -, hframed⟩
  · cases hopening with
    | look hlook =>
      obtain ⟨n, hn, hframed⟩ := hlook slots
      have hzero : p.moved.length - start = 0 := by omega
      refine ⟨hstart, hmoved, .inr ⟨n, hn, ?_⟩⟩
      show (next slots).Framed channels tells (p.moved.length - start) n
      rw [hzero]
      exact hframed
  · cases hframed

/-- A call that moves a sample is owed a slot for it. -/
theorem owed (h : p.Framed channels tells slots) {start channel : Nat} {given : Given}
    {next : Option Taken → Steps Given Taken Answer}
    (hc : p.call = some ⟨start, .move channel given next⟩) : 0 < slots := by
  obtain ⟨-, -, hrest⟩ := h.busy _ hc
  simp only at hrest
  rcases hrest with ⟨-, hopening⟩ | ⟨n, hn, hframed⟩
  · cases hopening
  · cases hframed
    omega

/-- Once the sample is moved, the call owes one less. -/
theorem moved_one (h : p.Framed channels tells slots) {start channel : Nat} {given : Given}
    {next : Option Taken → Steps Given Taken Answer}
    (hc : p.call = some ⟨start, .move channel given next⟩) (taken : Taken) (s : Sample type) :
    ({ p with
        moved := p.moved ++ [(channel, s)]
        call := some ⟨start, next (some taken)⟩ } :
      Party type Given Taken Answer).Framed channels tells (slots - 1) := by
  obtain ⟨hstart, hmoved, hrest⟩ := h.busy _ hc
  simp only at hstart hmoved hrest
  have hlength : (p.moved ++ [(channel, s)]).length = p.moved.length + 1 := by
    rw [List.length_append, List.length_singleton]
  rcases hrest with ⟨-, hopening⟩ | ⟨n, hn, hframed⟩
  · cases hopening
  · cases hframed with
    | @move i n given next hnext =>
      refine ⟨h.refused, ?_, h.finished, nofun, ?_⟩
      · -- The call began at a whole frame, so its place in the call says whose turn it is.
        have hchannel : (p.moved.length - start) % channels = p.moved.length % channels := by
          obtain ⟨k, rfl⟩ := hstart
          have hmod := Nat.add_mul_mod_self_left (p.moved.length - channels * k) channels k
          rw [Nat.sub_add_cancel hmoved] at hmod
          exact hmod.symm
        show (p.moved ++ [(_, s)]).map _ = _
        rw [hlength, List.range_succ, List.map_append, List.map_append, h.meant, hchannel]
        rfl
      · intro c hc'
        cases hc'
        have hplace : p.moved.length + 1 - start = p.moved.length - start + 1 := by omega
        rw [hlength]
        refine ⟨hstart, ?_, .inr ⟨n, by omega, ?_⟩⟩
        · show start ≤ p.moved.length + 1
          omega
        · show (next (some taken)).Framed channels tells (p.moved.length + 1 - start) n
          rw [hplace]
          exact hnext taken

/-- A step moves a sample, which takes up one of the slots, or it changes nothing but the call.  It
is enough that samples can be moved while there are slots. -/
theorem step (h : p.Framed channels tells slots) (q : Queue type)
    {move : Given → Option (Taken × Sample type × Queue type)}
    (hmove : 0 < slots → ∀ given, (move given).isSome = true) :
    let r := p.step q slots move
    (r.2 = q ∧ r.1.moved = p.moved ∧ r.1.Framed channels tells slots) ∨
    ∃ channel given taken s, move given = some (taken, s, r.2) ∧
      r.1.moved = p.moved ++ [(channel, s)] ∧ r.1.Framed channels tells (slots - 1) := by
  intro r
  have hr : r = p.step q slots move := rfl
  rw [Party.step] at hr
  cases hc : p.call with
  | none =>
    rw [hc] at hr
    rw [hr]
    exact .inl ⟨rfl, rfl, h⟩
  | some c =>
    rw [hc] at hr
    obtain ⟨start, rest⟩ := c
    cases rest with
    | answer a =>
      rw [hr]
      exact .inl ⟨rfl, rfl, h.answered hc⟩
    | look next =>
      rw [hr]
      exact .inl ⟨rfl, rfl, h.looked hc⟩
    | move channel given next =>
      obtain ⟨⟨taken, s, q'⟩, hmoves⟩ :=
        Option.isSome_iff_exists.mp (hmove (h.owed hc) given)
      simp only [hmoves] at hr
      rw [hr]
      exact .inr ⟨channel, given, taken, s, hmoves, rfl, h.moved_one hc taken s⟩

end Party.Framed

end Party

/-! ## Both ends -/

variable {type : SampleFormat}

/-- Both ends move whole frames, the producing end while there is room and the consuming end while
there are samples, and what was pushed is what was popped and then what is queued. -/
structure Traffic.Framed (t : Traffic type) : Prop where
  /-- The producing end. -/
  producer : t.producer.Framed t.queue.channels ProducerAnswer.Tells t.queue.room
  /-- The consuming end. -/
  consumer : t.consumer.Framed t.queue.channels (ConsumerAnswer.Tells t.queue.channels)
    t.queue.samples.length
  /-- First in, first out. -/
  inOrder : t.producer.moved.map (·.2) = t.consumer.moved.map (·.2) ++ t.queue.samples

namespace Traffic

/-- An empty queue that nobody has used. -/
theorem Framed.fresh (q : Queue type) (h : q.samples = []) : Framed { queue := q } where
  producer := ⟨rfl, rfl, nofun, fun _ => Nat.dvd_zero _, nofun⟩
  consumer := ⟨rfl, rfl, nofun, fun _ => Nat.dvd_zero _, nofun⟩
  inOrder := by
    rw [h]
    rfl

/-- A step of the producing end takes up room, and adds to what the other end may have seen. -/
theorem Framed.producer_step {t : Traffic type} (h : t.Framed) :
    (t.run .producer).Framed ∧ (t.run .producer).queue.channels = t.queue.channels := by
  have hstep := h.producer.step t.queue fun hroom s => t.queue.isSome_moveIn s hroom
  generalize hr : t.producer.step t.queue t.queue.room t.queue.moveIn = r at hstep
  have hrun : t.run .producer = { t with producer := r.1, queue := r.2 } := by
    rw [← hr]
    rfl
  rw [hrun]
  rcases hstep with ⟨hqueue, hmoved, hframed⟩ | ⟨channel, given, taken, s, hmove, hmoved, hframed⟩
  · rw [hqueue]
    refine ⟨⟨hframed, h.consumer, ?_⟩, rfl⟩
    show r.1.moved.map _ = _
    rw [hmoved]
    exact h.inOrder
  · -- One slot of the room is used up, which is the one that was owed.
    obtain ⟨hsamples, hchannels, hroom⟩ := Queue.of_moveIn hmove
    refine ⟨⟨?_, ?_, ?_⟩, hchannels⟩
    · show r.1.Framed r.2.channels _ r.2.room
      rw [hchannels]
      exact hframed.mono hroom
    · show t.consumer.Framed r.2.channels (ConsumerAnswer.Tells r.2.channels) r.2.samples.length
      rw [hchannels, hsamples, List.length_append]
      exact h.consumer.mono (Nat.le_add_right ..)
    · show r.1.moved.map _ = t.consumer.moved.map _ ++ r.2.samples
      rw [hmoved, hsamples, List.map_append, h.inOrder, List.append_assoc]
      rfl

/-- A step of the consuming end takes a sample, and its slot adds to what the other end may have
seen. -/
theorem Framed.consumer_step {t : Traffic type} (h : t.Framed) :
    (t.run .consumer).Framed ∧ (t.run .consumer).queue.channels = t.queue.channels := by
  have hstep := h.consumer.step t.queue fun hsamples _ => t.queue.isSome_moveOut hsamples
  generalize hr : t.consumer.step t.queue t.queue.samples.length t.queue.moveOut = r at hstep
  have hrun : t.run .consumer = { t with consumer := r.1, queue := r.2 } := by
    rw [← hr]
    rfl
  rw [hrun]
  rcases hstep with ⟨hqueue, hmoved, hframed⟩ | ⟨channel, given, taken, s, hmove, hmoved, hframed⟩
  · rw [hqueue]
    refine ⟨⟨h.producer, hframed, ?_⟩, rfl⟩
    show _ = r.1.moved.map _ ++ _
    rw [hmoved]
    exact h.inOrder
  · -- One sample less is queued, which is the one that was owed.
    obtain ⟨hsamples, hchannels, hroom⟩ := Queue.of_moveOut hmove
    refine ⟨⟨?_, ?_, ?_⟩, hchannels⟩
    · show t.producer.Framed r.2.channels _ r.2.room
      rw [hchannels]
      exact h.producer.mono hroom
    · show r.1.Framed r.2.channels (ConsumerAnswer.Tells r.2.channels) r.2.samples.length
      rw [hchannels]
      have hlength : t.queue.samples.length - 1 = r.2.samples.length := by
        rw [hsamples, List.length_cons, Nat.add_sub_cancel]
      rwa [hlength] at hframed
    · show _ = r.1.moved.map _ ++ r.2.samples
      rw [hmoved, List.map_append, h.inOrder, hsamples, List.append_assoc]
      rfl

/-- Whatever happens next, frames stay whole. -/
theorem Framed.run {t : Traffic type} (h : t.Framed) (next : TrafficStep type) :
    (t.run next).Framed ∧ (t.run next).queue.channels = t.queue.channels := by
  cases next with
  | produce call =>
    refine ⟨⟨h.producer.enter (call.opening_steps t.queue), h.consumer, ?_⟩, rfl⟩
    show (t.producer.enter _).moved.map _ = _
    rw [Party.moved_enter]
    exact h.inOrder
  | consume call =>
    refine ⟨⟨h.producer, h.consumer.enter (call.opening_steps t.queue), ?_⟩, rfl⟩
    show _ = (t.consumer.enter _).moved.map _ ++ _
    rw [Party.moved_enter]
    exact h.inOrder
  | producer => exact h.producer_step
  | consumer => exact h.consumer_step

/-- Nor does anything a schedule says. -/
theorem Framed.runAll {t : Traffic type} (h : t.Framed) (schedule : List (TrafficStep type)) :
    (t.runAll schedule).Framed ∧ (t.runAll schedule).queue.channels = t.queue.channels := by
  induction schedule generalizing t with
  | nil => exact ⟨h, rfl⟩
  | cons next schedule ih =>
    obtain ⟨hnext, hchannels⟩ := h.run next
    obtain ⟨hlater, hsame⟩ := ih hnext
    exact ⟨hlater, hsame.trans hchannels⟩

/-- Two records in which the channels take turns agree as far as their samples do. -/
theorem isPrefix_of_meant {channels : Nat} {popped pushed : List (Nat × Sample type)}
    {rest : List (Sample type)} (hsamples : pushed.map (·.2) = popped.map (·.2) ++ rest)
    (hpopped : popped.map (·.1) = (List.range popped.length).map (· % channels))
    (hpushed : pushed.map (·.1) = (List.range pushed.length).map (· % channels)) :
    popped <+: pushed := by
  have hlength : popped.length + rest.length = pushed.length := by
    have h := congrArg List.length hsamples
    rw [List.length_append, List.length_map, List.length_map] at h
    exact h.symm
  have hchannel : ∀ (l : List (Nat × Sample type)) (i : Nat) (hi : i < l.length),
      l.map (·.1) = (List.range l.length).map (· % channels) → l[i].1 = i % channels := by
    intro l i hi h
    have hget := congrArg (·[i]?) h
    simpa [hi] using hget
  rw [List.prefix_iff_eq_take]
  apply List.ext_getElem
  · rw [List.length_take]
    omega
  · intro i hi hi'
    have hlt : i < pushed.length := by omega
    rw [List.getElem_take]
    have hsample : popped[i].2 = pushed[i].2 := by
      have hget := congrArg (·[i]?) hsamples
      simpa [hi, hlt, List.getElem?_append_left] using hget.symm
    exact Prod.ext ((hchannel popped i hi hpopped).trans (hchannel pushed i hlt hpushed).symm)
      hsample

/-- No torn frames.  Whatever a schedule makes of the two ends of a queue, nothing that a look has
promised is ever refused.  What was popped is the first part of what was pushed, each sample meant
for the same channel at both ends, and the rest is queued.  Every call that is over moved whole
frames, as many as it answers, and every call began at a whole frame. -/
theorem never_torn (type : SampleFormat) (channels frames : Nat)
    (schedule : List (TrafficStep type)) :
    let t := ({ queue := .make type channels frames } : Traffic type).runAll schedule
    let width := max channels 1
    t.queue.channels = width ∧
    t.producer.refused = 0 ∧ t.consumer.refused = 0 ∧
    t.consumer.moved <+: t.producer.moved ∧
    t.producer.moved.map (·.2) = t.consumer.moved.map (·.2) ++ t.queue.samples ∧
    (∀ call ∈ t.producer.finished,
      width ∣ call.start ∧ width ∣ call.count ∧ call.answer.Tells call.count) ∧
    (∀ call ∈ t.consumer.finished,
      width ∣ call.start ∧ width ∣ call.count ∧ call.answer.Tells width call.count) ∧
    (∀ call, t.producer.call = some call → width ∣ call.start) ∧
    (∀ call, t.consumer.call = some call → width ∣ call.start) := by
  intro t width
  obtain ⟨hframed, hsame⟩ := (Framed.fresh (.make type channels frames) rfl).runAll schedule
  have hwidth : t.queue.channels = width := hsame
  have hproducer : t.producer.Framed width ProducerAnswer.Tells t.queue.room := by
    have h := hframed.producer
    rwa [hsame] at h
  have hconsumer : t.consumer.Framed width (ConsumerAnswer.Tells width) t.queue.samples.length := by
    have h := hframed.consumer
    rwa [hsame] at h
  refine ⟨hwidth, hproducer.refused, hconsumer.refused, ?_, hframed.inOrder, hproducer.finished,
    hconsumer.finished, ?_, ?_⟩
  · exact isPrefix_of_meant hframed.inOrder hconsumer.meant hproducer.meant
  · intro call hcall
    exact (hproducer.busy call hcall).1
  · intro call hcall
    exact (hconsumer.busy call hcall).1

/-- The consuming end looks while the producing end is in the middle of a frame. -/
example :
    let t := ({ queue := .make .i16 2 2 } : Traffic .i16).runAll
      [.produce (.write [1, 2, 3, 4]), .producer, .producer, .producer, .producer,
        .consume (.read [0, 0, 0, 0]), .consumer, .consumer, .consumer, .consumer]
    t.consumer.moved = [(0, 1), (1, 2)] ∧ t.consumer.finished.map (·.count) = [2] ∧
      t.queue.samples = [3] := by decide

end Traffic

end PcmStream
