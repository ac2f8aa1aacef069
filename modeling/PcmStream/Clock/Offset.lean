/-
  The signed time between the first input and the first output of a full-duplex session.

  The difference of two clock readings can be twice as large as a signed 64-bit word, so `between`
  clamps it to that word.  `frames` counts it in frames at a rate, rounded toward zero; the count
  is kept in a signed 64-bit word as well and wraps around in it.
-/
import PcmStream.Clock.Timestamp

namespace PcmStream

/-- The smallest signed 64-bit number. -/
def minSigned : Int := -0x8000000000000000

/-- The largest signed 64-bit number. -/
def maxSigned : Int := 0x7fffffffffffffff

/-- The number of 64-bit words. -/
def wordCount : Nat := 0x10000000000000000

/-- A signed time; positive when output started after input. -/
structure Offset where
  /-- The offset in nanoseconds. -/
  nanos : Int
  deriving DecidableEq, Repr

namespace Offset

/-- The time from the first input to the first output, clamped to a signed 64-bit word. -/
def between (input output : Timestamp) : Offset :=
  ⟨max minSigned (min maxSigned (output.nanos - input.nanos))⟩

/-- Whether output started before input. -/
def isNegative (o : Offset) : Bool := o.nanos < 0

/-- The absolute size of the offset. -/
def magnitude (o : Offset) : Duration := ⟨o.nanos.natAbs⟩

/-- The offset in frames at the given rate before it is narrowed, rounded toward zero. -/
def exactFrames (o : Offset) (rate : Nat) : Int := (o.nanos * rate).tdiv nanosPerSecond

/-- The offset in frames at the given rate, rounded toward zero and narrowed to a signed 64-bit
word by wrapping around. -/
def frames (o : Offset) (rate : Nat) : Int := (o.exactFrames rate).bmod wordCount

example : (between (.ofNanos 1000000) (.ofNanos 11000000)).frames 48000 = 480 := by decide
example : (between (.ofNanos 800) (.ofNanos 500)).nanos = -300 := by decide

end Offset

end PcmStream
