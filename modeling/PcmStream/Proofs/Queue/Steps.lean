/-
  Hand-off queues in single steps: what a single sample does, and what the steps of a call come to.

  A call that nobody disturbs does what the operation of the queue does: `produce_steps` and
  `consume_steps` say so for the four calls.  So `Steps` cuts each operation into its steps without
  adding to it or leaving anything out, and what is proved of the steps is about the operations.

  The early ends of a call, where a sample cannot be moved after all, have no counterpart among the
  operations.  They are not reached here, since a call moves no more samples than it saw.
-/
import PcmStream.Queue.Steps
import PcmStream.Proofs.Queue.Frames

namespace PcmStream

/-! ## Single samples -/

namespace Queue

variable {type : SampleFormat}

/-- Where there is room a sample can be pushed. -/
theorem push_of_room (q : Queue type) (s : Sample type) (h : 0 < q.room) :
    q.push s = some { q with samples := q.samples ++ [s] } := by
  have hlt : q.samples.length < q.capacity := by
    unfold room at h
    omega
  rw [push, if_pos hlt]

/-- Where there are samples one can be popped. -/
theorem isSome_pop (q : Queue type) (h : 0 < q.samples.length) : q.pop.isSome = true := by
  cases hs : q.samples with
  | nil =>
    rw [hs] at h
    cases h
  | cons s rest => simp only [pop, hs, Option.isSome_some]

/-- A sample that can be pushed goes to the end of the others and takes up one slot. -/
theorem of_push {q q' : Queue type} {s : Sample type} (h : q.push s = some q') :
    q'.samples = q.samples ++ [s] ∧ q'.channels = q.channels ∧ q.room - 1 ≤ q'.room := by
  rw [push] at h
  split at h
  · cases h
    refine ⟨rfl, rfl, ?_⟩
    show q.capacity - q.samples.length - 1 ≤ q.capacity - (q.samples ++ [s]).length
    rw [List.length_append, List.length_singleton]
    omega
  · cases h

/-- A sample that is popped was the first one and leaves its slot free. -/
theorem of_pop {q q' : Queue type} {s : Sample type} (h : q.pop = some (s, q')) :
    q.samples = s :: q'.samples ∧ q'.channels = q.channels ∧ q.room ≤ q'.room := by
  rw [pop] at h
  split at h
  · cases h
  · next s' rest hs =>
    cases h
    refine ⟨hs, rfl, ?_⟩
    show q.capacity - q.samples.length ≤ q.capacity - rest.length
    rw [hs, List.length_cons]
    omega

theorem isSome_moveIn (q : Queue type) (s : Sample type) (h : 0 < q.room) :
    (q.moveIn s).isSome = true := by
  rw [moveIn, q.push_of_room s h]
  rfl

theorem isSome_moveOut (q : Queue type) (h : 0 < q.samples.length) :
    (q.moveOut ()).isSome = true := by
  rw [moveOut, Option.isSome_map]
  exact q.isSome_pop h

theorem of_moveIn {q q' : Queue type} {given s : Sample type} {taken : Unit}
    (h : q.moveIn given = some (taken, s, q')) :
    q'.samples = q.samples ++ [s] ∧ q'.channels = q.channels ∧ q.room - 1 ≤ q'.room := by
  obtain ⟨pushed, hpush, heq⟩ := Option.map_eq_some_iff.mp h
  cases heq
  exact of_push hpush

theorem of_moveOut {q q' : Queue type} {s taken : Sample type} {given : Unit}
    (h : q.moveOut given = some (taken, s, q')) :
    q.samples = s :: q'.samples ∧ q'.channels = q.channels ∧ q.room ≤ q'.room := by
  obtain ⟨popped, hpop, heq⟩ := Option.map_eq_some_iff.mp h
  cases heq
  exact of_pop hpop

/-! ## Calls that nobody disturbs -/

variable {q : Queue type}

/-- Samples of a list for which there is room are pushed one after the other. -/
theorem produce_pushAll {channels : Nat} {a : ProducerAnswer} (i : Nat) (ss : List (Sample type))
    (hroom : ss.length ≤ q.room) :
    q.produce (ProducerCall.pushAll channels a i ss) =
      (a, { q with samples := q.samples ++ ss }) := by
  induction ss generalizing q i with
  | nil =>
    rw [List.append_nil]
    rfl
  | cons s ss ih =>
    rw [List.length_cons] at hroom
    have hpush := q.push_of_room s (by omega)
    have hleft := (of_push hpush).2.2
    rw [ProducerCall.pushAll, produce, hpush]
    simp only
    rw [ih (i + 1) (by omega), List.append_assoc]
    rfl

/-- So are those of a view, if all of them can be read. -/
theorem produce_pushView {v : View} {m : Memory} {result : Except CallbackError Unit} (i n : Nat)
    {ss : List (Sample type)} (hcollect : v.collect m type i n = .ok ss) (hroom : n ≤ q.room) :
    q.produce (ProducerCall.pushView v m result i n) =
      (.captured result, { q with samples := q.samples ++ ss }) := by
  induction n generalizing q i ss with
  | zero =>
    cases hcollect
    rw [List.append_nil]
    rfl
  | succ n ih =>
    rw [View.collect] at hcollect
    split at hcollect
    · next s rest hread hrest =>
      cases hcollect
      have hpush := q.push_of_room s (by omega)
      have hleft := (of_push hpush).2.2
      rw [ProducerCall.pushView, hread]
      simp only [produce, hpush]
      rw [ih (i + 1) hrest (by omega), List.append_assoc]
      rfl
    · cases hcollect
    · cases hcollect

/-- Samples that are queued are popped one after the other into a view, if all of them can be
written. -/
theorem consume_popView {v : View} {frames : Nat} (i n : Nat) {m m' : Memory}
    (hplace : v.place i (q.samples.take n) m = (.ok (), m')) (hn : n ≤ q.samples.length) :
    q.consume (ConsumerCall.popView v frames i n m) =
      (.rendered (.ok frames) m', { q with samples := q.samples.drop n }) := by
  induction n generalizing q i m with
  | zero =>
    cases hplace
    rfl
  | succ n ih =>
    cases hs : q.samples with
    | nil =>
      rw [hs] at hn
      cases hn
    | cons s rest =>
      have hpop : q.pop = some (s, { q with samples := rest }) := by
        simp only [pop, hs]
      rw [hs, List.take_succ_cons, View.place] at hplace
      rw [hs, List.length_cons] at hn
      rw [ConsumerCall.popView, consume, hpop]
      split at hplace
      · next m₁ hwrite =>
        simp only [hwrite]
        exact ih (q := { q with samples := rest }) (i + 1) hplace (by
          show n ≤ rest.length
          omega)
      · cases hplace

/-- Or over the elements of a list. -/
theorem consume_popAll {channels : Nat} (i n : Nat) (target : List (Sample type))
    (hn : n ≤ q.samples.length) (hin : i + n ≤ target.length) :
    q.consume (ConsumerCall.popAll channels i n target) =
      (.read (i + n) (target.take i ++ (q.samples.take n ++ target.drop (i + n))),
        { q with samples := q.samples.drop n }) := by
  induction n generalizing q i target with
  | zero =>
    rw [List.take_zero, List.nil_append, Nat.add_zero, List.take_append_drop]
    rfl
  | succ n ih =>
    cases hs : q.samples with
    | nil =>
      rw [hs] at hn
      cases hn
    | cons s rest =>
      have hpop : q.pop = some (s, { q with samples := rest }) := by
        simp only [pop, hs]
      rw [hs, List.length_cons] at hn
      have hnext : i + 1 + n = i + (n + 1) := by omega
      -- The sample popped now is the last of those that are in place, and the rest is untouched.
      have htake : (target.set i s).take (i + 1) = target.take i ++ [s] := by
        rw [List.take_succ_eq_append_getElem (by rw [List.length_set]; omega),
          List.take_set_of_le (Nat.le_refl i), List.getElem_set_self]
      have hdrop : (target.set i s).drop (i + (n + 1)) = target.drop (i + (n + 1)) :=
        List.drop_set_of_lt (by omega)
      rw [ConsumerCall.popAll, consume, hpop]
      simp only
      rw [ih (q := { q with samples := rest }) (i + 1) (target.set i s) (by
        show n ≤ rest.length
        omega) (by rw [List.length_set]; omega), hnext, htake, hdrop, List.append_assoc]
      rfl

/-- A producing call that nobody disturbs does what the operation of the queue does. -/
theorem produce_steps (q : Queue type) (call : ProducerCall type) :
    q.produce (call.steps q) = call.perform q := by
  cases call with
  | write source =>
    have hcount : min (source.length / q.channels * q.channels) (q.room / q.channels * q.channels) =
        q.accepted source.length := Nat.mul_min_mul_right ..
    rw [ProducerCall.steps, produce]
    simp only [hcount]
    refine produce_pushAll 0 _ ?_
    rw [List.length_take]
    exact Nat.le_trans (Nat.min_le_left ..) (q.accepted_le_room _)
  | capture v m =>
    by_cases hv : q.Fitting v
    · have hcheck := (q.check_eq_ok_iff v).mpr hv
      have hcollect := collect_of_fitting hv m
      have hroom : min v.frames q.freeFrames * q.channels ≤ q.room :=
        Nat.mul_le_of_le_div _ _ _ (Nat.min_le_right ..)
      -- The steps read the view as they go, the operation reads it first; it is the same list.
      simp only [ProducerCall.steps, ProducerCall.perform, Queue.capture, hcheck, hcollect]
      exact produce_pushView 0 _ hcollect hroom
    · obtain ⟨e, he⟩ := exists_check_eq_error hv
      simp only [ProducerCall.steps, ProducerCall.perform, Queue.capture, he, produce]

/-- So does a consuming call. -/
theorem consume_steps (q : Queue type) (call : ConsumerCall type) :
    q.consume (call.steps q) = call.perform q := by
  cases call with
  | render v m =>
    by_cases hv : q.Fitting v
    · have hcheck := (q.check_eq_ok_iff v).mpr hv
      have havailable : q.available (min v.frames q.queuedFrames) =
          min v.frames q.queuedFrames * q.channels := available_eq (Nat.min_le_right ..)
      have hqueued := q.available_le (min v.frames q.queuedFrames)
      have hplace := place_of_fitting hv m
      rw [havailable] at hqueued
      rw [ConsumerCall.perform, render_of_fitting hv]
      simp only [ConsumerCall.steps, hcheck]
      simp only [take, havailable] at hplace ⊢
      exact consume_popView 0 _ hplace hqueued
    · obtain ⟨e, he⟩ := exists_check_eq_error hv
      simp only [ConsumerCall.steps, ConsumerCall.perform, Queue.render, he, consume]
  | read target =>
    have hcount : min (target.length / q.channels * q.channels)
        (q.samples.length / q.channels * q.channels) = q.available (target.length / q.channels) :=
      Nat.mul_min_mul_right ..
    have htarget : q.available (target.length / q.channels) ≤ target.length :=
      Nat.mul_le_of_le_div _ _ _ (Nat.min_le_left ..)
    rw [ConsumerCall.steps, consume]
    simp only [hcount]
    rw [consume_popAll 0 _ target (q.available_le _) (by omega), Nat.zero_add, List.take_zero,
      List.nil_append, ConsumerCall.perform]
    have hlength := q.length_take (target.length / q.channels)
    simp only [read, hlength]
    rfl

end Queue

end PcmStream
