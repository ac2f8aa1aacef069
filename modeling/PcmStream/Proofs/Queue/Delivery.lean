/-
  Deliveries under any schedule: every whole frame is queued, once and in order.

  A delivery tries again and again until less than one frame is left, and meanwhile the consumer does
  what it likes.  A schedule says what, so a statement about all schedules is one about everything
  that the consumer can do between two attempts.

  1. Invariant — `Progress`: the first `k` frames of the list were queued behind what the queue held,
     and what the consumer rendered came off the front of the two.  Steps of the consumer keep `k`, an
     attempt adds to it, so it holds at every moment of a run (`progress_of_mem_moments`).
  2. End — a delivery that is over has queued all whole frames, whatever `k` was meanwhile.  So what
     was rendered in the end is the same for all schedules (`Progress.eq_of_isOver`, `Progress.emptied`).
  3. Measure — the frames left.  An attempt that does not sleep takes at least one off, so of all
     attempts no more than that do not sleep (`length_tries_le`).  With a consumer that renders before
     every attempt none does, and everything is delivered (`complete_delivers`).
-/
import PcmStream.Proofs.Queue.Frames
import PcmStream.Queue.Delivery

namespace PcmStream

namespace Delivery

variable {type : SampleFormat} {d : Delivery type}

/-! ## What happens in a run -/

/-- The delivery as each attempt of the producer finds it.  The last one may find that the consumer
has left. -/
def tries : List (List ConsumerStep) → Delivery type → List (Delivery type)
  | [], _ => []
  | steps :: schedule, d =>
    if d.isOver then []
    else
      let found := steps.foldl consume d
      found :: if found.connected then tries schedule found.attempt else []

/-- Every moment of a run: before it, and after each step of the consumer and each attempt. -/
def moments : List (List ConsumerStep) → Delivery type → List (Delivery type)
  | [], d => [d]
  | steps :: schedule, d =>
    if d.isOver then [d]
    else
      let found := steps.foldl consume d
      steps.scanl consume d ++ if found.connected then moments schedule found.attempt else []

/-- The number of samples that an attempt queues. -/
def queued (d : Delivery type) : Nat := (d.queue.write d.rest).1

/-- Whether the producer sleeps after an attempt, since it queued nothing. -/
def sleeps (d : Delivery type) : Bool := d.connected && d.queued == 0

theorem isOver_iff : d.isOver = true ↔ d.rest.length < d.queue.channels := by
  rw [isOver, decide_eq_true_iff]

theorem not_isOver_iff : d.isOver = false ↔ d.queue.channels ≤ d.rest.length := by
  rw [isOver, decide_eq_false_iff_not, Nat.not_lt]

/-! ## Steps of the consumer -/

@[simp] theorem rest_consume (d : Delivery type) (step : ConsumerStep) :
    (d.consume step).rest = d.rest := by
  cases step with
  | leave => rfl
  | render frames =>
    rw [consume]
    split <;> rfl

@[simp] theorem channels_consume (d : Delivery type) (step : ConsumerStep) :
    (d.consume step).queue.channels = d.queue.channels := by
  cases step with
  | leave => rfl
  | render frames =>
    rw [consume]
    split <;> rfl

@[simp] theorem connected_render (d : Delivery type) (block : Nat) :
    (d.consume (.render block)).connected = d.connected := by
  rw [consume]
  split <;> rfl

/-- A consumer that is there takes a block off the front of the queue. -/
theorem consume_render (hd : d.connected = true) (block : Nat) :
    d.consume (.render block) = { d with
      queue := (d.queue.take block).2, rendered := d.rendered ++ (d.queue.take block).1 } := by
  rw [consume, if_pos hd]

/-- One that has left does nothing any more. -/
theorem consume_of_gone (hd : d.connected = false) (block : Nat) :
    d.consume (.render block) = d := by
  rw [consume, if_neg (Bool.eq_false_iff.mp hd)]

theorem queue_render (hd : d.connected = true) (block : Nat) :
    (d.consume (.render block)).queue = (d.queue.take block).2 := by
  rw [consume_render hd]

/-- What the steps of the consumer leave for the producer. -/
theorem foldl_consume (d : Delivery type) (steps : List ConsumerStep) :
    (steps.foldl consume d).rest = d.rest ∧
      (steps.foldl consume d).queue.channels = d.queue.channels := by
  induction steps generalizing d with
  | nil => exact ⟨rfl, rfl⟩
  | cons step steps ih =>
    obtain ⟨hrest, hchannels⟩ := ih (d.consume step)
    exact ⟨hrest.trans (d.rest_consume step), hchannels.trans (d.channels_consume step)⟩

/-- The consumer is gone only if it was before or if it leaves. -/
theorem connected_or_leave (steps : List ConsumerStep)
    (h : (steps.foldl consume d).connected = false) : d.connected = false ∨ .leave ∈ steps := by
  induction steps generalizing d with
  | nil => exact .inl h
  | cons step steps ih =>
    rcases ih h with hstep | hleave
    · cases step with
      | leave => exact .inr List.mem_cons_self
      | render frames => exact .inl ((d.connected_render frames).symm.trans hstep)
    · exact .inr (List.mem_cons_of_mem _ hleave)

/-- Rendering a view that fits is such a step: what it stores in the view is what is rendered. -/
theorem render_consume (hd : d.connected = true) {v : View} (hv : d.queue.Fitting v) (m : Memory) :
    let after := d.consume (.render v.frames)
    ∃ n taken, d.queue.render v m = (.ok n, v.storeFrom 0 taken m, after.queue) ∧
      after.rendered = d.rendered ++ taken := by
  have hsame : d.queue.take (min v.frames d.queue.queuedFrames) = d.queue.take v.frames := by
    rw [Queue.take, Queue.take, Queue.available, Queue.available, Nat.min_assoc, Nat.min_self]
  intro after
  have hafter : after = _ := consume_render hd v.frames
  refine ⟨min v.frames d.queue.queuedFrames, (d.queue.take v.frames).1, ?_, by rw [hafter]⟩
  rw [Queue.render_of_fitting hv, hsame, hafter]

/-! ## Attempts -/

/-- An attempt queues whole frames, as many as are left and as there is room for. -/
theorem queued_eq (d : Delivery type) :
    d.queued = min (d.rest.length / d.queue.channels) d.queue.freeFrames * d.queue.channels := rfl

theorem rest_attempt (d : Delivery type) : d.attempt.rest = d.rest.drop d.queued := rfl

/-- An attempt with a whole frame left queues nothing exactly if there is no room for a frame, and
otherwise a frame at least. -/
theorem queued_cases (h : d.isOver = false) :
    (d.queued = 0 ↔ d.queue.room < d.queue.channels) ∧
      (d.queued ≠ 0 → d.queue.channels ≤ d.queued) := by
  have hpos := d.queue.channels_pos
  have hleft : 0 < d.rest.length / d.queue.channels := Nat.div_pos (not_isOver_iff.mp h) hpos
  have hfree : d.queue.freeFrames = 0 ↔ d.queue.room < d.queue.channels := by
    rw [Queue.freeFrames, Nat.div_eq_zero_iff]
    omega
  rw [queued_eq, ← hfree]
  refine ⟨?_, fun hne => ?_⟩
  · rw [Nat.mul_eq_zero]
    omega
  · exact Nat.le_mul_of_pos_left _ (Nat.pos_of_ne_zero fun h0 => hne (by rw [h0, Nat.zero_mul]))

/-! ## How far a delivery has come -/

/-- The first `k` frames of the list `source` were queued behind `held`, and the consumer has rendered
whole frames off the front. -/
structure Progress (held source : List (Sample type)) (channels k : Nat) (d : Delivery type) :
    Prop where
  /-- The channels stay. -/
  channels_eq : d.queue.channels = channels
  /-- The list has so many whole frames. -/
  whole : k * channels ≤ source.length
  /-- The others are left. -/
  rest_eq : d.rest = source.drop (k * channels)
  /-- What was rendered and what is queued is what was there and what was queued since. -/
  conserved : d.rendered ++ d.queue.samples = held ++ source.take (k * channels)
  /-- Nothing but whole frames was rendered. -/
  rendered_whole : channels ∣ d.rendered.length

namespace Progress

variable {held source : List (Sample type)} {channels k : Nat}

/-- A step of the consumer queues nothing. -/
theorem consume (h : Progress held source channels k d) (step : ConsumerStep) :
    Progress held source channels k (d.consume step) := by
  cases step with
  | leave => exact ⟨h.channels_eq, h.whole, h.rest_eq, h.conserved, h.rendered_whole⟩
  | render frames =>
    cases hd : d.connected with
    | false =>
      rw [consume_of_gone hd]
      exact h
    | true =>
      rw [consume_render hd]
      refine ⟨h.channels_eq, h.whole, h.rest_eq, ?_, ?_⟩
      · show (d.rendered ++ (d.queue.take frames).1) ++ (d.queue.take frames).2.samples = _
        rw [List.append_assoc, d.queue.samples_take, h.conserved]
      · show channels ∣ (d.rendered ++ (d.queue.take frames).1).length
        rw [List.length_append, Queue.length_take, Queue.available, h.channels_eq]
        exact Nat.dvd_add h.rendered_whole (Nat.dvd_mul_left ..)

/-- Nor do several of them. -/
theorem foldl_consume (h : Progress held source channels k d) (steps : List ConsumerStep) :
    Progress held source channels k (steps.foldl Delivery.consume d) := by
  induction steps generalizing d with
  | nil => exact h
  | cons step steps ih => exact ih (h.consume step)

/-- This holds while they are carried out, too. -/
theorem of_mem_scanl (h : Progress held source channels k d) {steps : List ConsumerStep}
    {e : Delivery type} (he : e ∈ steps.scanl Delivery.consume d) :
    Progress held source channels k e := by
  induction steps generalizing d with
  | nil =>
    rw [List.scanl_nil, List.mem_singleton] at he
    exact he ▸ h
  | cons step steps ih =>
    rw [List.scanl_cons, List.mem_cons] at he
    rcases he with rfl | he
    · exact h
    · exact ih (h.consume step) he

/-- An attempt queues the next frames. -/
theorem attempt (h : Progress held source channels k d) :
    ∃ k', Progress held source channels k' d.attempt := by
  obtain ⟨more, hmore⟩ : ∃ more, d.queued = more * channels := by
    rw [queued_eq, h.channels_eq]
    exact ⟨_, rfl⟩
  have hle : d.queued ≤ d.rest.length := d.queue.accepted_le _
  have hrest := h.rest_eq
  have hwhole := h.whole
  have hsum : (k + more) * channels = k * channels + more * channels := Nat.add_mul ..
  rw [hmore, hrest, List.length_drop] at hle
  refine ⟨k + more, h.channels_eq, by omega, ?_, ?_, h.rendered_whole⟩
  · rw [rest_attempt, hmore, hrest, List.drop_drop, hsum]
  · show d.rendered ++ (d.queue.samples ++ d.rest.take d.queued) = _
    rw [← List.append_assoc, h.conserved, hmore, hrest, hsum, List.take_add, List.append_assoc]

/-- A delivery that is over has queued every whole frame. -/
theorem eq_of_isOver (h : Progress held source channels k d) (hover : d.isOver = true) :
    k = source.length / channels := by
  have hwhole := h.whole
  rw [isOver_iff, h.channels_eq, h.rest_eq, List.length_drop] at hover
  refine (Nat.div_eq_of_lt_le hwhole ?_).symm
  rw [Nat.add_mul, Nat.one_mul]
  omega

end Progress

/-- Nothing is queued at first. -/
theorem progress_zero (q : Queue type) (source : List (Sample type)) (connected : Bool) :
    Progress q.samples source q.channels 0 { queue := q, rest := source, connected } := by
  refine ⟨rfl, by omega, by rw [Nat.zero_mul, List.drop_zero], ?_, Nat.dvd_zero _⟩
  rw [Nat.zero_mul, List.take_zero, List.append_nil]
  rfl

/-! ## Runs -/

section Runs

variable {held source : List (Sample type)} {channels k : Nat}

/-- At every moment of a run some first frames of the list are queued. -/
theorem progress_of_mem_moments (h : Progress held source channels k d)
    {schedule : List (List ConsumerStep)} {e : Delivery type} (he : e ∈ d.moments schedule) :
    ∃ k', Progress held source channels k' e := by
  induction schedule generalizing d k with
  | nil =>
    rw [moments, List.mem_singleton] at he
    exact ⟨k, he ▸ h⟩
  | cons steps schedule ih =>
    rw [moments] at he
    split at he
    · exact ⟨k, List.mem_singleton.mp he ▸ h⟩
    · rcases List.mem_append.mp he with he | he
      · exact ⟨k, h.of_mem_scanl he⟩
      · split at he
        · obtain ⟨k', hattempt⟩ := (h.foldl_consume steps).attempt
          exact ih hattempt he
        · cases he

/-- The steps of the consumer end with the last of the moments that they go through. -/
theorem foldl_mem_scanl (d : Delivery type) (steps : List ConsumerStep) :
    steps.foldl consume d ∈ steps.scanl consume d := by
  induction steps generalizing d with
  | nil => exact List.mem_singleton_self d
  | cons step steps ih =>
    rw [List.scanl_cons]
    exact List.mem_cons_of_mem _ (ih (d.consume step))

/-- So does a run. -/
theorem run_mem_moments (d : Delivery type) (schedule : List (List ConsumerStep)) :
    (d.run schedule).2 ∈ d.moments schedule := by
  fun_induction run schedule d with
  | case1 d => exact List.mem_singleton_self d
  | case2 steps schedule d hover =>
    rw [moments, if_pos hover]
    exact List.mem_singleton_self d
  | case3 steps schedule d hover found hfound ih =>
    rw [moments, if_neg hover]
    exact List.mem_append_right _ (by rwa [if_pos hfound])
  | case4 steps schedule d hover found hfound =>
    rw [moments, if_neg hover]
    exact List.mem_append_left _ (d.foldl_mem_scanl steps)

/-! ## How a run ends -/

/-- With less than one frame to queue a delivery is over at once. -/
theorem run_of_isOver (h : d.isOver = true) (schedule : List (List ConsumerStep)) :
    d.run schedule = (.delivered, d) := by
  cases schedule with
  | nil => rw [run, if_pos h]
  | cons steps schedule => rw [run, if_pos h]

/-- A delivery that has succeeded is over, and its consumer is still there if it was at first. -/
theorem over_of_delivered {schedule : List (List ConsumerStep)}
    (h : (d.run schedule).1 = .delivered) :
    (d.run schedule).2.isOver = true ∧
      (d.connected = true → (d.run schedule).2.connected = true) := by
  fun_induction run schedule d with
  | case1 d =>
    split at h
    · next hover => exact ⟨hover, id⟩
    · cases h
  | case2 steps schedule d hover => exact ⟨hover, id⟩
  | case3 steps schedule d hover found hfound ih =>
    obtain ⟨hend, hconnected⟩ := ih h
    exact ⟨hend, fun _ => hconnected hfound⟩
  | case4 steps schedule d hover found hfound => cases h

/-- What the first attempt finds, and what the later ones do. -/
theorem tries_of_connected {steps : List ConsumerStep} {schedule : List (List ConsumerStep)}
    (h : ¬ d.isOver = true) (hfound : (steps.foldl consume d).connected = true) :
    d.tries (steps :: schedule) =
      steps.foldl consume d :: (steps.foldl consume d).attempt.tries schedule := by
  rw [tries, if_neg h]
  exact congrArg _ (if_pos hfound)

/-- After an attempt that finds the consumer gone there are no others. -/
theorem tries_of_gone {steps : List ConsumerStep} {schedule : List (List ConsumerStep)}
    (h : ¬ d.isOver = true) (hfound : ¬ (steps.foldl consume d).connected = true) :
    d.tries (steps :: schedule) = [steps.foldl consume d] := by
  rw [tries, if_neg h]
  exact congrArg _ (if_neg hfound)

/-- A delivery fails exactly if an attempt finds that the consumer has left. -/
theorem disconnected_iff {schedule : List (List ConsumerStep)} :
    (d.run schedule).1 = .disconnected ↔ ∃ e ∈ d.tries schedule, e.connected = false := by
  fun_induction run schedule d with
  | case1 d =>
    rw [tries]
    refine ⟨fun h => ?_, nofun⟩
    split at h <;> cases h
  | case2 steps schedule d hover =>
    rw [tries, if_pos hover]
    exact ⟨nofun, nofun⟩
  | case3 steps schedule d hover found hfound ih =>
    have htries : d.tries (steps :: schedule) = found :: found.attempt.tries schedule :=
      tries_of_connected hover hfound
    rw [htries, ih]
    simp only [List.mem_cons, exists_eq_or_imp, hfound, Bool.true_eq_false, false_or]
  | case4 steps schedule d hover found hfound =>
    rw [tries_of_gone hover hfound]
    exact ⟨fun _ => ⟨found, List.mem_cons_self, Bool.eq_false_iff.mpr hfound⟩, fun _ => rfl⟩

/-- The consumer was gone before or leaves, then. -/
theorem leave_of_disconnected {schedule : List (List ConsumerStep)}
    (h : (d.run schedule).1 = .disconnected) :
    d.connected = false ∨ ∃ steps ∈ schedule, .leave ∈ steps := by
  fun_induction run schedule d with
  | case1 d => split at h <;> cases h
  | case2 steps schedule d hover => cases h
  | case3 steps schedule d hover found hfound ih =>
    rcases ih h with hgone | ⟨steps', hmem, hleave⟩
    · exact absurd (hfound.symm.trans hgone) nofun
    · exact .inr ⟨steps', List.mem_cons_of_mem _ hmem, hleave⟩
  | case4 steps schedule d hover found hfound =>
    rcases connected_or_leave steps (Bool.eq_false_iff.mpr hfound) with hgone | hleave
    · exact .inl hgone
    · exact .inr ⟨steps, List.mem_cons_self, hleave⟩

/-- What was queued then are all whole frames. -/
theorem Progress.delivered (h : Progress held source channels k d)
    {schedule : List (List ConsumerStep)} (hdelivered : (d.run schedule).1 = .delivered) :
    Progress held source channels (source.length / channels) (d.run schedule).2 := by
  obtain ⟨k', hk'⟩ := progress_of_mem_moments h (d.run_mem_moments schedule)
  exact hk'.eq_of_isOver (over_of_delivered hdelivered).1 ▸ hk'

/-! ## Attempts of a run -/

theorem isOver_foldl_consume (d : Delivery type) (steps : List ConsumerStep) :
    (steps.foldl consume d).isOver = d.isOver := by
  rw [isOver, isOver, (d.foldl_consume steps).1, (d.foldl_consume steps).2]

/-- An attempt is made only with a whole frame left, and changes no channels. -/
theorem of_mem_tries {schedule : List (List ConsumerStep)} {e : Delivery type}
    (he : e ∈ d.tries schedule) : e.isOver = false ∧ e.queue.channels = d.queue.channels := by
  fun_induction tries schedule d with
  | case1 d => cases he
  | case2 steps schedule d hover => cases he
  | case3 steps schedule d hover found ih =>
    have hchannels : found.queue.channels = d.queue.channels := (d.foldl_consume steps).2
    rcases List.mem_cons.mp he with rfl | he
    · exact ⟨(d.isOver_foldl_consume steps).trans (Bool.eq_false_iff.mpr hover), hchannels⟩
    · split at he
      · exact (ih he).imp_right fun h => h.trans hchannels
      · cases he

/-- The producer sleeps only if there was no room for a frame, and queues one at least otherwise. -/
theorem attempt_of_mem_tries {schedule : List (List ConsumerStep)} {e : Delivery type}
    (he : e ∈ d.tries schedule) :
    d.queue.channels ≤ e.rest.length ∧
      (e.sleeps = true → e.queue.room < d.queue.channels) ∧
      (e.connected = true → e.sleeps = false → d.queue.channels ≤ e.queued) := by
  obtain ⟨hover, hchannels⟩ := of_mem_tries he
  obtain ⟨hnone, hsome⟩ := queued_cases hover
  rw [← hchannels]
  refine ⟨not_isOver_iff.mp hover, fun hs => ?_, fun hc hs => hsome fun h0 => ?_⟩
  · rw [sleeps, Bool.and_eq_true, beq_iff_eq] at hs
    exact hnone.mp hs.2
  · rw [sleeps, hc, h0] at hs
    cases hs

/-- The number of whole frames left to queue. -/
def framesLeft (d : Delivery type) : Nat := d.rest.length / d.queue.channels

theorem framesLeft_pos (h : d.isOver = false) : 0 < d.framesLeft :=
  Nat.div_pos (not_isOver_iff.mp h) d.queue.channels_pos

theorem framesLeft_foldl_consume (d : Delivery type) (steps : List ConsumerStep) :
    (steps.foldl consume d).framesLeft = d.framesLeft := by
  rw [framesLeft, framesLeft, (d.foldl_consume steps).1, (d.foldl_consume steps).2]

/-- An attempt takes off the frames that it queues. -/
theorem framesLeft_attempt (d : Delivery type) :
    d.attempt.framesLeft = d.framesLeft - min d.framesLeft d.queue.freeFrames := by
  show (d.rest.drop d.queued).length / d.queue.channels = _
  rw [List.length_drop, queued_eq, Nat.mul_comm, Nat.sub_mul_div]
  rfl

/-- That is one at least, unless the producer sleeps then. -/
theorem framesLeft_attempt_add_one_le (hd : d.connected = true) :
    d.attempt.framesLeft + 1 ≤ d.framesLeft + if d.sleeps then 1 else 0 := by
  rw [framesLeft_attempt]
  cases hs : d.sleeps with
  | true =>
    rw [if_pos rfl]
    omega
  | false =>
    have hqueued : d.queued ≠ 0 := by
      rw [sleeps, hd, Bool.true_and] at hs
      exact beq_eq_false_iff_ne.mp hs
    have hsome : min d.framesLeft d.queue.freeFrames ≠ 0 := fun h0 =>
      hqueued (show min d.framesLeft _ * d.queue.channels = 0 by rw [h0, Nat.zero_mul])
    rw [if_neg Bool.false_ne_true]
    omega

/-- Of all attempts no more do not sleep than there are frames to queue, and fewer if frames are left
in the end. -/
theorem length_tries_le (d : Delivery type) (schedule : List (List ConsumerStep)) :
    (d.tries schedule).length ≤ (d.tries schedule).countP sleeps + d.framesLeft ∧
      ((d.run schedule).1 = .waiting → (d.tries schedule).length = schedule.length ∧
        schedule.length < (d.tries schedule).countP sleeps + d.framesLeft) := by
  fun_induction run schedule d with
  | case1 d =>
    refine ⟨Nat.zero_le _, fun h => ⟨rfl, ?_⟩⟩
    split at h
    · cases h
    · next hover => exact Nat.lt_add_left _ (framesLeft_pos (Bool.eq_false_iff.mpr hover))
  | case2 steps schedule d hover =>
    rw [tries, if_pos hover]
    exact ⟨Nat.zero_le _, nofun⟩
  | case3 steps schedule d hover found hfound ih =>
    have htries : d.tries (steps :: schedule) = found :: found.attempt.tries schedule :=
      tries_of_connected hover hfound
    have hspent := framesLeft_attempt_add_one_le hfound
    have hleft : found.framesLeft = d.framesLeft := d.framesLeft_foldl_consume steps
    obtain ⟨hle, hwaiting⟩ := ih
    rw [htries, List.length_cons, List.countP_cons, List.length_cons]
    refine ⟨by omega, fun h => ?_⟩
    obtain ⟨hlength, hlt⟩ := hwaiting h
    exact ⟨by omega, by omega⟩
  | case4 steps schedule d hover found hfound =>
    have hpos := framesLeft_pos (Bool.eq_false_iff.mpr hover)
    rw [tries_of_gone hover hfound]
    refine ⟨?_, nofun⟩
    rw [List.length_singleton]
    omega

/-- If every attempt finds room for a frame, there are no more of them than frames, and a schedule for
so many does not end before the delivery. -/
theorem length_tries_le_of_room {schedule : List (List ConsumerStep)}
    (hroom : ∀ e ∈ d.tries schedule, d.queue.channels ≤ e.queue.room) :
    (d.tries schedule).length ≤ d.framesLeft ∧
      (d.framesLeft ≤ schedule.length → (d.run schedule).1 ≠ .waiting) := by
  obtain ⟨htries, hwaiting⟩ := d.length_tries_le schedule
  have hnone : (d.tries schedule).countP sleeps = 0 := by
    rw [List.countP_eq_zero]
    intro e he hs
    have hlt := (attempt_of_mem_tries he).2.1 hs
    have hle := hroom e he
    omega
  rw [hnone, Nat.zero_add] at htries hwaiting
  refine ⟨htries, fun hlong hw => ?_⟩
  have hlt := (hwaiting hw).2
  omega

/-! ## Rendering until the queue is empty -/

/-- Rendering again and again queues nothing. -/
theorem Progress.drain (h : Progress held source channels k d) (block n : Nat) :
    Progress held source channels k (d.drain block n) := by
  induction n generalizing d with
  | zero => exact h
  | succ n ih => exact ih (h.consume (.render block))

/-- It takes off a block each time, as long as there are any. -/
theorem queuedFrames_drain (hd : d.connected = true) (block n : Nat) :
    (d.drain block n).queue.queuedFrames = d.queue.queuedFrames - n * block := by
  induction n generalizing d with
  | zero => rw [Nat.zero_mul, Nat.sub_zero, Delivery.drain]
  | succ n ih =>
    rw [Delivery.drain, ih ((d.connected_render block).trans hd), queue_render hd,
      Queue.queuedFrames_take, Nat.add_one_mul]
    omega

/-- Without frames in the queue everything queued was rendered, if there were whole frames in the
queue to begin with. -/
theorem Progress.rendered_eq (h : Progress held source channels k d)
    (hempty : d.queue.queuedFrames = 0) :
    d.queue.samples.length < channels ∧
      (channels ∣ held.length → d.rendered = held ++ source.take (k * channels)) := by
  have hshort : d.queue.samples.length < channels := by
    have hpos := d.queue.channels_pos
    rw [Queue.queuedFrames, Nat.div_eq_zero_iff] at hempty
    rw [← h.channels_eq]
    omega
  refine ⟨hshort, fun hheld => ?_⟩
  have hlength := congrArg List.length h.conserved
  rw [List.length_append, List.length_append, List.length_take, Nat.min_eq_left h.whole] at hlength
  have hwhole : channels ∣ d.queue.samples.length :=
    (Nat.dvd_add_right h.rendered_whole).mp (hlength ▸ Nat.dvd_add hheld (Nat.dvd_mul_left ..))
  have hnil := List.length_eq_zero_iff.mp (Nat.eq_zero_of_dvd_of_lt hwhole hshort)
  have hconserved := h.conserved
  rwa [hnil, List.append_nil] at hconserved

/-- A consumer that is there and renders often enough empties the queue. -/
theorem Progress.emptied (h : Progress held source channels k d) (hd : d.connected = true)
    {block n : Nat} (hblock : 0 < block) (hn : d.queue.queuedFrames ≤ n) :
    Progress held source channels k (d.drain block n) ∧
      (d.drain block n).queue.samples.length < channels ∧
      (channels ∣ held.length →
        (d.drain block n).rendered = held ++ source.take (k * channels)) := by
  have hempty : (d.drain block n).queue.queuedFrames = 0 := by
    rw [queuedFrames_drain hd, Nat.sub_eq_zero_iff_le]
    exact Nat.le_trans hn (Nat.le_mul_of_pos_right n hblock)
  exact ⟨h.drain block n, (h.drain block n).rendered_eq hempty⟩

/-! ## Consumers that render before every attempt -/

/-- Then every attempt finds room for a frame. -/
theorem channels_le_room_of_rendering (hd : d.connected = true) (hq : d.queue.Regular)
    (hframes : 0 < d.queue.frames) {block : Nat} (hblock : 0 < block) {n : Nat} {e : Delivery type}
    (he : e ∈ d.tries (List.replicate n [.render block])) : d.queue.channels ≤ e.queue.room := by
  induction n generalizing d with
  | zero => cases he
  | succ n ih =>
    let found := d.consume (.render block)
    have hfound : found.connected = true := (d.connected_render block).trans hd
    have hqueue : found.queue = (d.queue.take block).2 := queue_render hd block
    rw [List.replicate_succ, tries, List.foldl_cons, List.foldl_nil] at he
    split at he
    · cases he
    · rcases List.mem_cons.mp he with rfl | he
      · rw [queue_render hd]
        exact hq.channels_le_room_take hframes hblock
      · rw [if_pos hfound] at he
        have hregular : found.queue.Regular := hqueue ▸ hq.take block
        have hframes' : 0 < found.queue.frames := hqueue ▸ hframes
        have hroom := ih (d := found.attempt) hfound (hregular.write found.rest) hframes' he
        exact Nat.le_trans (Nat.le_of_eq (d.channels_consume _).symm) hroom

/-- Such a delivery succeeds, and what was queued before and all whole frames are rendered, whatever
the block is. -/
theorem complete_delivers {q : Queue type} (hq : q.Regular) (hframes : 0 < q.frames)
    (source : List (Sample type)) {block : Nat} (hblock : 0 < block) :
    let done := ({ queue := q, rest := source } : Delivery type).complete block
    done.1 = .delivered ∧ done.2.queue.samples = [] ∧
      done.2.rendered = q.samples ++ source.take (source.length / q.channels * q.channels) := by
  intro done
  let d : Delivery type := { queue := q, rest := source }
  let schedule := List.replicate (source.length + 1) [ConsumerStep.render block]
  have hattempts : d.framesLeft ≤ schedule.length := by
    rw [List.length_replicate]
    exact Nat.le_succ_of_le (Nat.div_le_self ..)
  have hwaiting : (d.run schedule).1 ≠ .waiting :=
    (length_tries_le_of_room fun e he =>
      channels_le_room_of_rendering rfl hq hframes hblock he).2 hattempts
  have hdisconnected : (d.run schedule).1 ≠ .disconnected := fun h => by
    rcases leave_of_disconnected h with hgone | ⟨steps, hmem, hleave⟩
    · cases hgone
    · rw [List.eq_of_mem_replicate hmem] at hleave
      cases List.mem_singleton.mp hleave
  have hdelivered : (d.run schedule).1 = .delivered := by
    cases hstatus : (d.run schedule).1 with
    | delivered => rfl
    | disconnected => exact absurd hstatus hdisconnected
    | waiting => exact absurd hstatus hwaiting
  have hlast := (progress_zero q source true).delivered hdelivered
  obtain ⟨hdrained, hshort, hrendered⟩ := hlast.emptied ((over_of_delivered hdelivered).2 rfl)
    hblock (Nat.div_le_self ..)
  have hall := hrendered hq.whole
  refine ⟨hdelivered, ?_, hall⟩
  -- Rendering all of it leaves nothing.
  have hconserved := hdrained.conserved
  rw [hall] at hconserved
  exact List.append_right_eq_self.mp hconserved

end Runs

/-- A delivery queues every whole frame of a list under any schedule of its consumer.  At every moment
some first frames of the list are queued behind what was queued before, in order.  If it succeeds,
these are all whole frames, and a consumer that was there and goes on until the queue is empty has
rendered them all, whatever the schedule and its blocks were.  It fails exactly if an attempt finds
that the consumer has left, and it does not try with less than one frame left, so it always succeeds
then.

After an attempt the producer sleeps only if there was no room for a frame, and any other attempt
queues one at least.  So of all attempts no more do not sleep than there are frames; and if every
attempt finds room for a frame, there are no more than that at all, after which the delivery is
done. -/
theorem whole_frames_delivered (q : Queue type) (source : List (Sample type)) (connected : Bool)
    (schedule : List (List ConsumerStep)) :
    let d : Delivery type := { queue := q, rest := source, connected }
    let status := (d.run schedule).1
    let last := (d.run schedule).2
    let frames := source.length / q.channels
    (∀ e ∈ d.moments schedule, ∃ k, Progress q.samples source q.channels k e) ∧
    last ∈ d.moments schedule ∧
    (status = .delivered → Progress q.samples source q.channels frames last ∧
      (connected = true → ∀ block, 0 < block → ∀ n, last.queue.queuedFrames ≤ n →
        let emptied := last.drain block n
        Progress q.samples source q.channels frames emptied ∧
        emptied.queue.samples.length < q.channels ∧
        (q.channels ∣ q.samples.length →
          emptied.rendered = q.samples ++ source.take (frames * q.channels)))) ∧
    (status = .disconnected ↔ ∃ e ∈ d.tries schedule, e.connected = false) ∧
    (status = .disconnected → connected = false ∨ ∃ steps ∈ schedule, .leave ∈ steps) ∧
    (source.length < q.channels → status = .delivered) ∧
    (∀ e ∈ d.tries schedule, q.channels ≤ e.rest.length ∧
      (e.sleeps = true → e.queue.room < q.channels) ∧
      (e.connected = true → e.sleeps = false → q.channels ≤ e.queued)) ∧
    (d.tries schedule).length ≤ (d.tries schedule).countP sleeps + frames ∧
    ((∀ e ∈ d.tries schedule, q.channels ≤ e.queue.room) →
      (d.tries schedule).length ≤ frames ∧
        (frames ≤ schedule.length → status ≠ .waiting)) := by
  intro d status last frames
  have hfresh := progress_zero q source connected
  refine ⟨fun e he => progress_of_mem_moments hfresh he, d.run_mem_moments schedule, fun h => ?_,
    disconnected_iff, leave_of_disconnected, fun h => ?_, fun e he => attempt_of_mem_tries he,
    (d.length_tries_le schedule).1, length_tries_le_of_room⟩
  · have hlast := hfresh.delivered h
    refine ⟨hlast, fun hconnected block hblock n hn => ?_⟩
    exact hlast.emptied ((over_of_delivered h).2 hconnected) hblock hn
  · show (d.run schedule).1 = .delivered
    rw [run_of_isOver (isOver_iff.mpr h)]

end Delivery

end PcmStream
