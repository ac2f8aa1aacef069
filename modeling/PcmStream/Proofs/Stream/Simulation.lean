/-
  Streams over devices that cannot be told apart.

  A stream only works with the answers of its device.  Two streams that differ in their devices, and
  whose devices are related by a simulation, therefore go through every operation alike: the same
  result, the same events, and again two streams of this kind (`Stream.Alike`, `Outcome.Alike`).
-/
import PcmStream.Proofs.Device.Simulation
import PcmStream.Stream.Basic

namespace PcmStream

variable {σ τ : Type} {R : σ → τ → Prop} {admits : Handler → Prop}

/-! ## Streams that differ in their devices -/

/-- Two streams that differ in their devices. -/
inductive Stream.Alike (R : σ → τ → Prop) : Stream σ → Stream τ → Prop
  /-- With everything else as given. -/
  | intro {d : σ} {d' : τ} (h : R d d') (direction : Direction) (config : StreamConfig)
      (state : State) (stats : Stats) :
      Alike R ⟨d, direction, config, state, stats⟩ ⟨d', direction, config, state, stats⟩

/-- Two outcomes that differ in the devices of their streams. -/
inductive Outcome.Alike (R : σ → τ → Prop) : Outcome σ → Outcome τ → Prop
  /-- With the given result and events. -/
  | intro {s : Stream σ} {s' : Stream τ} (result : Except StreamError Unit) (log : List Event)
      (h : s.Alike R s') : Alike R ⟨result, s, log⟩ ⟨result, s', log⟩

/-- The devices of two such streams. -/
theorem Stream.Alike.device {s : Stream σ} {s' : Stream τ} (h : s.Alike R s') :
    R s.device s'.device := by
  cases h with
  | intro h => exact h

/-- The common result and events, and the streams. -/
theorem Outcome.Alike.exists {o : Outcome σ} {o' : Outcome τ} (h : o.Alike R o') :
    ∃ result log s s', o = ⟨result, s, log⟩ ∧ o' = ⟨result, s', log⟩ ∧ s.Alike R s' := by
  cases h with
  | intro result log h => exact ⟨result, log, _, _, rfl, rfl, h⟩

/-- Two openings that differ in the devices. -/
inductive Opened.Alike (R : σ → τ → Prop) : Opened σ → Opened τ → Prop
  /-- Both succeeded. -/
  | ok {s : Stream σ} {s' : Stream τ} (log : List Event) (h : s.Alike R s') :
      Alike R (.ok s log) (.ok s' log)
  /-- Both failed. -/
  | failed {d : σ} {d' : τ} (error : StreamError) (log : List Event) (h : R d d') :
      Alike R (.failed error d log) (.failed error d' log)

/-- The common result and events, and the streams or the devices. -/
theorem Opened.Alike.exists {o : Opened σ} {o' : Opened τ} (h : o.Alike R o') :
    (∃ log s s', o = .ok s log ∧ o' = .ok s' log ∧ s.Alike R s') ∨
      ∃ error log d d', o = .failed error d log ∧ o' = .failed error d' log ∧ R d d' := by
  cases h with
  | ok log h => exact .inl ⟨log, _, _, rfl, rfl, h⟩
  | failed error log h => exact .inr ⟨error, log, _, _, rfl, rfl, h⟩

/-! ## Operations -/

namespace Device.Simulation

variable [Device σ] [Device τ] {s : Stream σ} {s' : Stream τ}

theorem negotiate (S : Simulation R admits) {d : σ} {d' : τ} (requested : StreamConfig)
    (h : R d d') : Agree R (Stream.negotiate requested d) (Stream.negotiate requested d') := by
  obtain ⟨access, d₁, d₁', hx, hy, h₁⟩ := (S.perform h .parameters trivial).exists
  rw [Stream.negotiate, Stream.negotiate, hx, hy]
  cases access with
  | error status => exact .intro _ h₁
  | ok =>
    obtain ⟨settled, d₂, d₂', hx, hy, h₂⟩ := (S.toSimulation.run requested h₁).exists
    simp only [hx, hy]
    cases settled with
    | error e => exact .intro _ h₂
    | ok config => exact .intro _ h₂

/-- Streams are configured alike with a handler that the devices may be handed. -/
theorem configure (S : Simulation R admits) (h : s.Alike R s') (requested : StreamConfig)
    {handler : Handler} (hhandler : admits handler) (options : Options) :
    (s.configure requested handler options).Alike R (s'.configure requested handler options) := by
  obtain ⟨hdevice, direction, config, state, stats⟩ := h
  rw [Stream.configure, Stream.configure]
  by_cases hs : state ≠ .created
  · rw [if_pos hs, if_pos hs]
    exact .intro _ _ (.intro hdevice ..)
  rw [if_neg hs, if_neg hs]
  by_cases hh : ¬ handler.accepts direction
  · rw [if_pos hh, if_pos hh]
    exact .intro _ _ (.intro hdevice ..)
  rw [if_neg hh, if_neg hh]
  obtain ⟨acquired, d₁, d₁', hx, hy, h₁⟩ :=
    (S.perform hdevice (.acquire direction options) trivial).exists
  simp only [hx, hy]
  cases acquired with
  | error status => exact .intro _ _ (.intro h₁ ..)
  | ok =>
    obtain ⟨settled, d₂, d₂', hx, hy, h₂⟩ := (S.negotiate requested h₁).exists
    simp only [hx, hy]
    cases settled with
    | error e =>
      obtain ⟨released, d₃, d₃', hx, hy, h₃⟩ := (S.perform h₂ .dispose trivial).exists
      simp only [hx, hy]
      cases released with
      | error status => exact .intro _ _ (.intro h₃ ..)
      | ok => exact .intro _ _ (.intro h₃ ..)
    | ok settled =>
      let callback : Callback :=
        { direction, config := settled, handler, preclear := options.preclear }
      obtain ⟨registered, d₃, d₃', hx, hy, h₃⟩ :=
        (S.perform h₂ (.register callback) hhandler).exists
      simp only [Stream.callback, callback, hx, hy]
      cases registered with
      | error status => exact .intro _ _ (.intro h₃ ..)
      | ok => exact .intro _ _ (.intro h₃ ..)

theorem start (S : Simulation R admits) (h : s.Alike R s') : s.start.Alike R s'.start := by
  obtain ⟨hdevice, direction, config, state, stats⟩ := h
  rw [Stream.start, Stream.start]
  obtain ⟨started, d, d', hx, hy, hd⟩ := (S.perform hdevice .start trivial).exists
  simp only [hx, hy]
  cases state with
  | created => exact .intro _ _ (.intro hdevice ..)
  | started => exact .intro _ _ (.intro hdevice ..)
  | closed => exact .intro _ _ (.intro hdevice ..)
  | configured => cases started <;> exact .intro _ _ (.intro hd ..)
  | stopped => cases started <;> exact .intro _ _ (.intro hd ..)

theorem stop (S : Simulation R admits) (h : s.Alike R s') : s.stop.Alike R s'.stop := by
  obtain ⟨hdevice, direction, config, state, stats⟩ := h
  rw [Stream.stop, Stream.stop]
  obtain ⟨stopped, d, d', hx, hy, hd⟩ := (S.perform hdevice .stop trivial).exists
  simp only [hx, hy]
  cases state with
  | created => exact .intro _ _ (.intro hdevice ..)
  | configured => exact .intro _ _ (.intro hdevice ..)
  | stopped => exact .intro _ _ (.intro hdevice ..)
  | closed => exact .intro _ _ (.intro hdevice ..)
  | started => cases stopped <;> exact .intro _ _ (.intro hd ..)

theorem cleanUp (S : Simulation R admits) (h : s.Alike R s') : Agree R s.cleanUp s'.cleanUp := by
  obtain ⟨hdevice, direction, config, state, stats⟩ := h
  rw [Stream.cleanUp, Stream.cleanUp]
  by_cases hs : state = .started
  · obtain ⟨halted, d₁, d₁', hx, hy, h₁⟩ := (S.perform hdevice .stop trivial).exists
    obtain ⟨torn, d₂, d₂', hx₂, hy₂, h₂⟩ := (S.perform h₁ .tearDown trivial).exists
    obtain ⟨released, d₃, d₃', hx₃, hy₃, h₃⟩ := (S.perform h₂ .dispose trivial).exists
    simp only [if_pos hs, hx, hy, hx₂, hy₂, hx₃, hy₃]
    exact .intro _ h₃
  · obtain ⟨torn, d₂, d₂', hx₂, hy₂, h₂⟩ := (S.perform hdevice .tearDown trivial).exists
    obtain ⟨released, d₃, d₃', hx₃, hy₃, h₃⟩ := (S.perform h₂ .dispose trivial).exists
    simp only [if_neg hs, hx₂, hy₂, hx₃, hy₃]
    exact .intro _ h₃

theorem close (S : Simulation R admits) (h : s.Alike R s') : s.close.Alike R s'.close := by
  obtain ⟨outcomes, d, d', hx, hy, hd⟩ := (S.cleanUp h).exists
  obtain ⟨hdevice, direction, config, state, stats⟩ := h
  rw [Stream.close, Stream.close]
  simp only [hx, hy]
  cases state with
  | created => exact .intro _ _ (.intro hdevice ..)
  | closed => exact .intro _ _ (.intro hdevice ..)
  | configured => exact .intro _ _ (.intro hd ..)
  | started => exact .intro _ _ (.intro hd ..)
  | stopped => exact .intro _ _ (.intro hd ..)

/-- Dropped streams leave related devices behind, and note the same events. -/
theorem drop (S : Simulation R admits) (h : s.Alike R s') :
    R s.drop.1 s'.drop.1 ∧ s.drop.2 = s'.drop.2 := by
  obtain ⟨result, log, t, t', hx, hy, ht⟩ := (S.close h).exists
  obtain ⟨hdevice, direction, config, state, stats⟩ := h
  rw [Stream.drop, Stream.drop]
  cases state with
  | closed => exact ⟨hdevice, rfl⟩
  | _ =>
    simp only [hx, hy]
    cases result with
    | error e => exact ⟨ht.device, rfl⟩
    | ok => exact ⟨ht.device, rfl⟩

/-- Streams of related devices open alike. -/
theorem «open» (S : Simulation R admits) {d : σ} {d' : τ} (h : R d d') (direction : Direction)
    (requested : StreamConfig) {handler : Handler} (hhandler : admits handler)
    (options : Options) :
    (Stream.open d direction requested handler options).Alike R
      (Stream.open d' direction requested handler options) := by
  have hnew : ({ device := d, direction } : Stream σ).Alike R { device := d', direction } :=
    .intro h ..
  obtain ⟨result, log, s, s', hx, hy, hs⟩ := (S.configure hnew requested hhandler options).exists
  rw [Stream.open, Stream.open]
  simp only [hx, hy]
  cases result with
  | ok => exact .ok log hs
  | error e =>
    obtain ⟨hdevice, hlog⟩ := S.drop hs
    simp only [hlog]
    exact .failed e _ hdevice

end Device.Simulation

end PcmStream
