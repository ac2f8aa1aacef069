/-
  Readings of the device clock.

  A clock reading counts nanoseconds in a 64-bit word.  The largest word is kept free: it is what
  a record holds as long as nothing was recorded (see `StartTimes`), so the largest reading is one
  below it and every constructor saturates there.  The bound is part of the type, and a reading
  can therefore never be mistaken for the free word.

  `addFrames` moves a reading by a signed number of frames.  The shift is truncated toward zero
  and the result saturates at both ends of the clock; a rate of zero gives no shift at all.
-/

namespace PcmStream

/-- Nanoseconds in one second. -/
def nanosPerSecond : Nat := 1000000000

/-- The word that stands for "nothing recorded": the largest 64-bit word. -/
def unrecorded : Nat := 0xffffffffffffffff

/-- A span of time in nanoseconds. -/
structure Duration where
  /-- The length of the span in nanoseconds. -/
  nanos : Nat
  deriving DecidableEq, Repr

namespace Duration

/-- The span of the given whole seconds and further nanoseconds. -/
def ofParts (secs nanos : Nat) : Duration := ⟨secs * nanosPerSecond + nanos⟩

/-- The whole microseconds of the span. -/
def micros (d : Duration) : Nat := d.nanos / 1000

end Duration

/-- A reading of a monotonic device clock. -/
structure Timestamp where
  /-- The reading in nanoseconds. -/
  nanos : Nat
  /-- The word for "nothing recorded" is not a reading. -/
  nanos_lt : nanos < unrecorded
  deriving DecidableEq, Repr

namespace Timestamp

/-- The latest reading of the clock. -/
def latest : Nat := unrecorded - 1

/-- The reading of the given nanoseconds, or the latest one if they are beyond it. -/
def ofNanos (nanos : Nat) : Timestamp :=
  ⟨min nanos latest, by
    have : latest < unrecorded := by decide
    omega⟩

/-- The reading at the given distance from the start of the clock. -/
def ofDuration (d : Duration) : Timestamp := ofNanos d.nanos

/-- The signed nanoseconds taken by a signed number of frames, truncated toward zero. -/
def shiftNanos (frames : Int) (rate : Nat) : Int := (frames * nanosPerSecond).tdiv rate

/-- The reading moved by a signed number of frames at the given rate, saturating at both ends of
the clock.  A rate of zero moves nothing. -/
def addFrames (t : Timestamp) (frames : Int) (rate : Nat) : Timestamp :=
  if rate = 0 then t else ofNanos (t.nanos + shiftNanos frames rate).toNat

/-- Which of two readings is earlier. -/
instance : Ord Timestamp := ⟨fun a b => compare a.nanos b.nanos⟩

@[ext] theorem ext {a b : Timestamp} (h : a.nanos = b.nanos) : a = b := by
  cases a; cases b; cases h; rfl

@[simp] theorem nanos_ofNanos (n : Nat) : (ofNanos n).nanos = min n latest := rfl

/-- A reading made from the nanoseconds of another is that reading. -/
@[simp] theorem ofNanos_nanos (t : Timestamp) : ofNanos t.nanos = t := by
  apply ext
  have := t.nanos_lt
  simp only [nanos_ofNanos, latest]
  omega

theorem addFrames_rate_zero (t : Timestamp) (frames : Int) : t.addFrames frames 0 = t := rfl

example : ((ofNanos 1000000000).addFrames 480 48000).nanos = 1010000000 := by decide
example : ((ofNanos 1000).addFrames (-48000) 48000).nanos = 0 := by decide
example : (ofNanos 0xffffffffffffffff).nanos = 0xfffffffffffffffe := by decide

end Timestamp

end PcmStream
