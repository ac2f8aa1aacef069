/-
  Counters of a stream's callback.  They are 64-bit words, nothing but a callback moves them, and
  they only ever grow, up to the point where a word wraps around.
-/

namespace PcmStream

/-- What the callbacks of a stream amount to. -/
structure Stats where
  /-- Frames processed. -/
  frames : UInt64 := 0
  /-- Callbacks issued. -/
  callbacks : UInt64 := 0
  /-- Output callbacks for which the application produced fewer frames than asked for. -/
  underruns : UInt64 := 0
  deriving DecidableEq, Repr

/-- Count one callback of the given number of frames. -/
def Stats.count (s : Stats) (frames : Nat) (underrun : Bool) : Stats where
  frames := s.frames + .ofNat frames
  callbacks := s.callbacks + 1
  underruns := s.underruns + underrun.toUInt64

end PcmStream
