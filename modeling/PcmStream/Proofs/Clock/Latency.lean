/-
  Sizing a buffer for a latency.

  A latency is rounded down to microseconds and counted in whole frames, and the frames of the buffer
  last some whole nanoseconds again.  Counted in nanoseconds the rounded latency takes the way there
  and back that an offset between two streams takes (`latencyFrames_eq`), so what is known of that way
  tells how long the buffer lasts:

  * no longer than the latency (`bufferDuration_le`), provided that the latency has a frame: neither
    the buffer nor the period is ever empty, and one frame may last longer than the latency;
  * shorter by less than a frame, a nanosecond and what is lost with the microseconds
    (`lt_bufferDuration_add`), as long as neither the frames nor the nanoseconds saturate.

  The machine computes all of it in words, with no product that does not fit (`ClockWord.sizes?_eq`).
-/
import PcmStream.Proofs.Clock.Alignment

namespace PcmStream

/-- One frame, rounded up, is at most a nanosecond longer than rounded down. -/
theorem frameNanos_le {rate : Nat} (hrate : 0 < rate) :
    frameNanos rate ≤ nanosPerSecond / rate + 1 := by
  unfold frameNanos
  calc (nanosPerSecond + rate - 1) / rate
      ≤ (nanosPerSecond + rate) / rate := Nat.div_le_div_right (Nat.sub_le _ _)
    _ = nanosPerSecond / rate + 1 := Nat.add_div_right _ hrate

namespace Duration

/-- The whole microseconds of a duration are no longer than the duration. -/
theorem micros_mul_le (d : Duration) : d.micros * 1000 ≤ d.nanos := Nat.div_mul_le_self _ _

/-- They are shorter by less than a microsecond. -/
theorem lt_micros_mul_add (d : Duration) : d.nanos < d.micros * 1000 + 1000 :=
  Nat.lt_div_mul_add (by decide)

end Duration

namespace StreamConfig

variable {c : StreamConfig} {latency : Duration}

/-! ## Frames for a latency -/

/-- Frames are counted as those of the nanoseconds in whole microseconds. -/
theorem latencyFrames_eq (c : StreamConfig) (latency : Duration) :
    c.latencyFrames latency = latency.micros * 1000 * c.rate / nanosPerSecond := by
  have hsecond : nanosPerSecond = 1000 * 1000000 := rfl
  rw [latencyFrames, hsecond, Nat.mul_comm latency.micros 1000, Nat.mul_assoc,
    Nat.mul_div_mul_left _ _ (by decide)]

/-- A longer latency has no fewer frames, and neither has a higher rate. -/
theorem latencyFrames_mono {c' : StreamConfig} {latency' : Duration} (hrate : c.rate ≤ c'.rate)
    (hlatency : latency.nanos ≤ latency'.nanos) :
    c.latencyFrames latency ≤ c'.latencyFrames latency' := by
  have hmicros : latency.micros ≤ latency'.micros := Nat.div_le_div_right hlatency
  exact Nat.div_le_div_right (Nat.mul_le_mul hmicros hrate)

/-- Up to one frame for each nanosecond there are no more frames than nanoseconds. -/
theorem latencyFrames_le (hrate : c.rate ≤ nanosPerSecond) :
    c.latencyFrames latency ≤ latency.nanos := by
  rw [latencyFrames_eq]
  apply Nat.div_le_of_le_mul
  rw [Nat.mul_comm nanosPerSecond]
  exact Nat.mul_le_mul latency.micros_mul_le hrate

/-- The frames of a latency do not last longer than the latency. -/
theorem lasting_le (c : StreamConfig) (latency : Duration) :
    c.latencyFrames latency * nanosPerSecond / c.rate ≤ latency.nanos := by
  rw [latencyFrames_eq]
  exact Nat.le_trans (there_and_back_le _ _) latency.micros_mul_le

/-- More frames do not last shorter. -/
theorem framesToDuration_mono (c : StreamConfig) {m n : Nat} (h : m ≤ n) :
    (c.framesToDuration m).nanos ≤ (c.framesToDuration n).nanos := by
  rw [nanos_framesToDuration, nanos_framesToDuration]
  have hle : m * nanosPerSecond / c.rate ≤ n * nanosPerSecond / c.rate :=
    Nat.div_le_div_right (Nat.mul_le_mul_right _ h)
  omega

/-! ## The sizes -/

theorem rate_withLatency (c : StreamConfig) (latency : Duration) :
    (c.withLatency latency).rate = c.rate := rfl

theorem bufferSize_withLatency (c : StreamConfig) (latency : Duration) :
    (c.withLatency latency).bufferSize = max (min (c.latencyFrames latency) maxWord) 1 := rfl

theorem periodSize_withLatency (c : StreamConfig) (latency : Duration) :
    (c.withLatency latency).periodSize = max ((c.withLatency latency).bufferSize / 4) 1 := rfl

/-- A longer latency has no smaller buffer, and neither has a higher rate. -/
theorem bufferSize_mono {c' : StreamConfig} {latency' : Duration} (hrate : c.rate ≤ c'.rate)
    (hlatency : latency.nanos ≤ latency'.nanos) :
    (c.withLatency latency).bufferSize ≤ (c'.withLatency latency').bufferSize := by
  have hmono := latencyFrames_mono hrate hlatency
  rw [bufferSize_withLatency, bufferSize_withLatency]
  omega

/-- A period is not empty and not larger than the buffer. -/
theorem periodSize_le (c : StreamConfig) (latency : Duration) :
    1 ≤ (c.withLatency latency).periodSize ∧
      (c.withLatency latency).periodSize ≤ (c.withLatency latency).bufferSize := by
  have hbuffer := c.bufferSize_withLatency latency
  have hperiod := c.periodSize_withLatency latency
  omega

/-- A period is a quarter of a buffer of four frames or more. -/
theorem periodSize_eq (hfour : 4 ≤ (c.withLatency latency).bufferSize) :
    (c.withLatency latency).periodSize = (c.withLatency latency).bufferSize / 4 := by
  have hperiod := c.periodSize_withLatency latency
  omega

/-- A buffer for a latency of at least one frame does not last longer than the latency. -/
theorem bufferDuration_le (hframes : 1 ≤ c.latencyFrames latency) :
    (c.withLatency latency).bufferDuration.nanos ≤ latency.nanos := by
  have hsize : (c.withLatency latency).bufferSize ≤ c.latencyFrames latency := by
    rw [bufferSize_withLatency]
    omega
  calc (c.withLatency latency).bufferDuration.nanos
      = (c.framesToDuration (c.withLatency latency).bufferSize).nanos := rfl
    _ ≤ (c.framesToDuration (c.latencyFrames latency)).nanos := c.framesToDuration_mono hsize
    _ = min (c.latencyFrames latency * nanosPerSecond / c.rate) maxWord :=
        c.nanos_framesToDuration _
    _ ≤ c.latencyFrames latency * nanosPerSecond / c.rate := Nat.min_le_left _ _
    _ ≤ latency.nanos := c.lasting_le latency

/-- Where nothing saturates the buffer lasts as long as the frames of the latency. -/
theorem bufferDuration_eq (hframes : 1 ≤ c.latencyFrames latency)
    (hrate : c.rate ≤ nanosPerSecond) (hlatency : latency.nanos ≤ maxWord) :
    (c.withLatency latency).bufferDuration.nanos =
      c.latencyFrames latency * nanosPerSecond / c.rate := by
  have hfew : c.latencyFrames latency ≤ latency.nanos := latencyFrames_le hrate
  have hsize : (c.withLatency latency).bufferSize = c.latencyFrames latency := by
    rw [bufferSize_withLatency]
    omega
  have hlasting : c.latencyFrames latency * nanosPerSecond / c.rate ≤ maxWord :=
    Nat.le_trans (c.lasting_le latency) hlatency
  rw [bufferDuration, hsize]
  exact (c.nanos_framesToDuration _).trans (Nat.min_eq_left hlasting)

/-- What is missing is less than a frame, a nanosecond and a microsecond, as long as nothing
saturates. -/
theorem lt_bufferDuration_add (hframes : 1 ≤ c.latencyFrames latency) (hpos : 0 < c.rate)
    (hrate : c.rate ≤ nanosPerSecond) (hlatency : latency.nanos ≤ maxWord) :
    latency.nanos <
      (c.withLatency latency).bufferDuration.nanos + (nanosPerSecond / c.rate + 1001) := by
  have hback := le_there_and_back (latency.micros * 1000) hpos
  rw [← latencyFrames_eq, ← bufferDuration_eq hframes hrate hlatency] at hback
  have hframe := frameNanos_le hpos
  calc latency.nanos
      < latency.micros * 1000 + 1000 := latency.lt_micros_mul_add
    _ ≤ (c.withLatency latency).bufferDuration.nanos + frameNanos c.rate + 1000 :=
        Nat.add_le_add_right hback _
    _ ≤ (c.withLatency latency).bufferDuration.nanos + (nanosPerSecond / c.rate + 1) + 1000 :=
        Nat.add_le_add_right (Nat.add_le_add_left hframe _) _
    _ = (c.withLatency latency).bufferDuration.nanos + (nanosPerSecond / c.rate + 1001) := by
        rw [Nat.add_assoc, Nat.add_assoc]

end StreamConfig

/-! ## The sizes in words -/

namespace ClockWord

/-- The whole microseconds of a number of seconds and further nanoseconds. -/
def micros? (secs : UInt64) (nanos : UInt32) : Option Nat := do
  let whole ← unsignedWide? (secs.toNat * 1000000)
  unsignedWide? (whole + nanos.toNat / 1000)

/-- The sizes of the buffer and of the period for a latency. -/
def sizes? (rate : UInt32) (secs : UInt64) (nanos : UInt32) : Option (UInt64 × UInt64) := do
  let micros ← micros? secs nanos
  let product ← unsignedWide? (micros * rate.toNat)
  let bufferSize := max (narrow (product / 1000000)) 1
  return (bufferSize, max (bufferSize / 4) 1)

/-- The larger of two words is that of the larger number. -/
theorem toNat_max (a b : UInt64) : (max a b).toNat = max a.toNat b.toNat := by
  show (if a ≤ b then b else a).toNat = _
  split
  · next hle =>
    rw [UInt64.le_iff_toNat_le] at hle
    omega
  · next hgt =>
    rw [UInt64.le_iff_toNat_le] at hgt
    omega

theorem micros?_eq (secs : UInt64) (nanos : UInt32) :
    micros? secs nanos = some (Duration.ofParts secs.toNat nanos.toNat).micros := by
  have hsecs := secs.toNat_lt
  have hnanos := nanos.toNat_lt
  have hmicros : (Duration.ofParts secs.toNat nanos.toNat).micros =
      secs.toNat * 1000000 + nanos.toNat / 1000 := by
    show (secs.toNat * 1000000000 + nanos.toNat) / 1000 = _
    omega
  have hwhole : unsignedWide? (secs.toNat * 1000000) = some (secs.toNat * 1000000) :=
    unsignedWide?_eq_some (by omega)
  rw [micros?, hwhole, Option.bind_eq_bind, Option.bind_some, hmicros]
  exact unsignedWide?_eq_some (by omega)

/-- The microseconds of a latency have less than 84 bits, so there are enough left for a rate. -/
theorem unsignedWide?_product (rate : UInt32) (secs : UInt64) (nanos : UInt32) :
    unsignedWide? ((Duration.ofParts secs.toNat nanos.toNat).micros * rate.toNat) =
      some ((Duration.ofParts secs.toNat nanos.toNat).micros * rate.toNat) := by
  have hsecs := secs.toNat_lt
  have hnanos := nanos.toNat_lt
  have hrate := rate.toNat_lt
  have hmicros : (Duration.ofParts secs.toNat nanos.toNat).micros ≤ 2 ^ 84 := by
    show (secs.toNat * 1000000000 + nanos.toNat) / 1000 ≤ 2 ^ 84
    omega
  have hproduct := Nat.mul_le_mul hmicros (Nat.le_of_lt hrate)
  exact unsignedWide?_eq_some (by omega)

/-- The machine has sizes for every latency, and they are those of the configuration. -/
theorem sizes?_eq (config : StreamConfig) (rate : UInt32) (secs : UInt64) (nanos : UInt32)
    (hrate : config.rate = rate.toNat) :
    let sized := config.withLatency (.ofParts secs.toNat nanos.toNat)
    ∃ bufferSize periodSize, sizes? rate secs nanos = some (bufferSize, periodSize) ∧
      bufferSize.toNat = sized.bufferSize ∧ periodSize.toNat = sized.periodSize := by
  intro sized
  let frames := config.latencyFrames (.ofParts secs.toNat nanos.toNat)
  have hsizes : sizes? rate secs nanos =
      some (max (narrow frames) 1, max (max (narrow frames) 1 / 4) 1) := by
    rw [sizes?, micros?_eq, Option.bind_eq_bind, Option.bind_some, unsignedWide?_product,
      Option.bind_some, ← hrate]
    rfl
  have hbuffer : (max (narrow frames) 1).toNat = sized.bufferSize := by
    rw [toNat_max, toNat_narrow]
    rfl
  refine ⟨_, _, hsizes, hbuffer, ?_⟩
  rw [toNat_max, UInt64.toNat_div, hbuffer]
  rfl

/-- The nanoseconds of some frames at the rate of a configuration. -/
theorem durationNanos?_of_rate (config : StreamConfig) {rate : UInt32} (frames : UInt64)
    (hrate : config.rate = rate.toNat) :
    (durationNanos? rate frames).map UInt64.toNat =
      some (config.framesToDuration frames.toNat).nanos := by
  rw [durationNanos?_eq config, StreamConfig.nanos_framesToDuration,
    StreamConfig.nanos_framesToDuration, hrate]

end ClockWord

/-! ## The latency is respected -/

namespace StreamConfig

/-- Sizing for a latency changes the two sizes and nothing else.  The period is a quarter of the
buffer, but neither is empty, and a longer latency or a higher rate has no smaller buffer.  A buffer
for a latency of at least one frame lasts no longer than the latency, and no shorter than by one
frame and what is lost with the microseconds.  The machine computes these sizes and durations
without a result that does not fit its word. -/
theorem latency_respected (c : StreamConfig) (latency : Duration) :
    let sized := c.withLatency latency
    sized = { c with bufferSize := sized.bufferSize, periodSize := sized.periodSize } ∧
      (1 ≤ sized.periodSize ∧ sized.periodSize ≤ sized.bufferSize ∧
        (4 ≤ sized.bufferSize → sized.periodSize = sized.bufferSize / 4)) ∧
      (∀ (rate' : Nat) (latency' : Duration),
        c.rate ≤ rate' → latency.nanos ≤ latency'.nanos →
          sized.bufferSize ≤ ({ c with rate := rate' }.withLatency latency').bufferSize) ∧
      (0 < c.rate → 1 ≤ latency.micros * c.rate / 1000000 →
        sized.bufferDuration.nanos ≤ latency.nanos ∧
          sized.periodDuration.nanos ≤ sized.bufferDuration.nanos ∧
          (c.rate ≤ nanosPerSecond → latency.nanos ≤ maxWord →
            latency.nanos - sized.bufferDuration.nanos < nanosPerSecond / c.rate + 1001)) ∧
      (∀ (rate : UInt32) (secs : UInt64) (nanos : UInt32),
        c.rate = rate.toNat → latency = .ofParts secs.toNat nanos.toNat →
          ∃ bufferSize periodSize,
            ClockWord.sizes? rate secs nanos = some (bufferSize, periodSize) ∧
              bufferSize.toNat = sized.bufferSize ∧ periodSize.toNat = sized.periodSize ∧
              (ClockWord.durationNanos? rate bufferSize).map UInt64.toNat =
                some sized.bufferDuration.nanos ∧
              (ClockWord.durationNanos? rate periodSize).map UInt64.toNat =
                some sized.periodDuration.nanos) := by
  intro sized
  obtain ⟨hpositive, hwithin⟩ := c.periodSize_le latency
  refine ⟨rfl, ⟨hpositive, hwithin, ?_⟩, ?_, ?_, ?_⟩
  · exact periodSize_eq
  · intro rate' latency' hrate hlatency
    exact bufferSize_mono hrate hlatency
  · intro hpos hframes
    refine ⟨bufferDuration_le hframes, framesToDuration_mono _ hwithin, ?_⟩
    intro hrate hlatency
    have hlt := lt_bufferDuration_add hframes hpos hrate hlatency
    exact Nat.sub_lt_left_of_lt_add (bufferDuration_le hframes) hlt
  · rintro rate secs nanos hrate rfl
    obtain ⟨bufferSize, periodSize, hsizes, hbuffer, hperiod⟩ :=
      ClockWord.sizes?_eq c rate secs nanos hrate
    have hsized : sized.rate = rate.toNat := (c.rate_withLatency _).trans hrate
    refine ⟨bufferSize, periodSize, hsizes, hbuffer, hperiod, ?_, ?_⟩
    · rw [ClockWord.durationNanos?_of_rate sized _ hsized, hbuffer]
      rfl
    · rw [ClockWord.durationNanos?_of_rate sized _ hsized, hperiod]
      rfl

/-- A latency that no whole number of microseconds or frames makes up: 54 frames fit into it, which
last for 1224489 nanoseconds. -/
theorem latency_respected_oddLatency :
    let c : StreamConfig := {}
    let latency : Duration := .ofParts 0 1234567
    let sized := c.withLatency latency
    (0 < c.rate ∧ 1 ≤ latency.micros * c.rate / 1000000 ∧ c.rate ≤ nanosPerSecond ∧
        latency.nanos ≤ maxWord ∧ 4 ≤ sized.bufferSize) ∧
      sized.periodSize = sized.bufferSize / 4 ∧
      sized.bufferSize ≤ ({ c with rate := 48000 }.withLatency ⟨2000000⟩).bufferSize ∧
      sized.bufferDuration.nanos ≤ 1234567 ∧
      1234567 - sized.bufferDuration.nanos < nanosPerSecond / 44100 + 1001 ∧
      ∃ bufferSize periodSize,
        ClockWord.sizes? 44100 0 1234567 = some (bufferSize, periodSize) ∧
          bufferSize.toNat = sized.bufferSize ∧ periodSize.toNat = sized.periodSize := by
  intro c latency sized
  have hgiven : 0 < c.rate ∧ 1 ≤ latency.micros * c.rate / 1000000 ∧ c.rate ≤ nanosPerSecond ∧
      latency.nanos ≤ maxWord ∧ 4 ≤ sized.bufferSize := by decide
  obtain ⟨hpos, hframes, hrate, hlatency, hfour⟩ := hgiven
  obtain ⟨-, ⟨-, -, hperiod⟩, hmono, hduration, hwords⟩ := latency_respected c latency
  obtain ⟨hle, -, hnear⟩ := hduration hpos hframes
  obtain ⟨bufferSize, periodSize, hsizes, hbuffer, hquarter, -⟩ :=
    hwords 44100 0 1234567 rfl rfl
  exact ⟨⟨hpos, hframes, hrate, hlatency, hfour⟩, hperiod hfour,
    hmono 48000 ⟨2000000⟩ (by decide) (by decide), hle, hnear hrate hlatency,
    bufferSize, periodSize, hsizes, hbuffer, hquarter⟩

end StreamConfig

end PcmStream
