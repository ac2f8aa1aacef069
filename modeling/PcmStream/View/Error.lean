/-
  What can be wrong with an access to a view.

  An access names a sample type, a channel and a frame, and the three are checked in that order.
  The error carries what was asked for and what the view has, so it can be read without the view.
-/
import PcmStream.Sample.Format

namespace PcmStream

/-- Errors raised when accessing a view. -/
inductive ViewError
  /-- The sample type is not the one of the view's format. -/
  | formatMismatch (type format : SampleFormat)
  /-- The channel is not below the number of channels. -/
  | channelOutOfBounds (channel channels : Nat)
  /-- The frame is not below the number of frames. -/
  | frameOutOfBounds (frame frames : Nat)
  deriving DecidableEq, Repr

/-- The text of the error. -/
def ViewError.message : ViewError → String
  | formatMismatch type format =>
    "type `" ++ type.name ++ "` is not appropriate to use with format `" ++ format.name ++ "`"
  | channelOutOfBounds channel channels =>
    "channel " ++ toString channel ++ " out of bounds; channels = " ++ toString channels
  | frameOutOfBounds frame frames =>
    "frame " ++ toString frame ++ " out of bounds; frames = " ++ toString frames

end PcmStream
