/-
  The two directions in which a stream carries audio.
-/

namespace PcmStream

/-- The direction of a stream. -/
inductive Direction
  /-- Playback: the application renders frames for the device. -/
  | output
  /-- Capture: the application drains frames produced by the device. -/
  | input
  deriving DecidableEq, Repr, Inhabited

namespace Direction

/-- The name of the direction. -/
def name : Direction → String
  | output => "output"
  | input => "input"

/-- The name of the direction as it stands in a debug text. -/
def debugText : Direction → String
  | output => "Output"
  | input => "Input"

end Direction

end PcmStream
