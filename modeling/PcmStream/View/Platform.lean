/-
  Views over the buffer lists of a platform.

  A platform hands out a list of buffers, each with a size and a channel count which it may leave
  at zero.  A single buffer is interleaved; several buffers hold one channel each, and only as many
  of them are used as channels were asked for.  Missing channel counts of the buffers in use are
  filled in, and the number of frames is cut down to what fits into all of them.

  The areas of the planar case are kept in a list which the caller provides and may reuse; it is
  replaced if several buffers are mapped, and left alone otherwise.
-/
import PcmStream.View.Basic

namespace PcmStream

/-- The largest channel count a platform buffer can hold. -/
def maxChannelCount : Nat := 0xffffffff

/-- A buffer as handed out by a platform. -/
structure PlatformBuffer where
  /-- Where its data starts. -/
  start : Nat
  /-- The size of its data in bytes. -/
  size : Nat
  /-- The number of interleaved channels; platforms may leave it at zero. -/
  channels : Nat
  deriving DecidableEq, Repr

namespace PlatformBuffer

/-- The buffer with a missing channel count filled in. -/
def withChannels (b : PlatformBuffer) (channels : Nat) : PlatformBuffer :=
  if b.channels = 0 then { b with channels } else b

/-- The buffer as the packed area of one channel. -/
def area (b : PlatformBuffer) (format : SampleFormat) : ChannelArea :=
  ⟨some b.start, format.bytes, b.size⟩

end PlatformBuffer

/-- The outcome of mapping a list of platform buffers. -/
structure Mapping where
  /-- The view, unless the list was empty. -/
  view : Option View
  /-- The buffers with the missing channel counts in use filled in. -/
  buffers : List PlatformBuffer
  /-- The caller's areas afterwards. -/
  areas : List ChannelArea
  deriving Repr

/-- Map a list of platform buffers holding at most `frames` frames of `channels` channels.

In a single buffer a frame of zero bytes fits no frames, which is what division by zero gives. -/
def Mapping.ofBuffers (buffers : List PlatformBuffer) (areas : List ChannelArea)
    (frames channels : Nat) (format : SampleFormat) : Mapping :=
  match buffers with
  | [] => ⟨none, [], areas⟩
  | [buffer] =>
    let buffer := buffer.withChannels (min channels maxChannelCount)
    let fitting := min frames (buffer.size / (buffer.channels * format.bytes))
    ⟨some (.interleaved buffer.start fitting buffer.channels format), [buffer], areas⟩
  | buffers =>
    let used := (buffers.take channels).map (·.withChannels 1)
    let areas := used.map (·.area format)
    let fitting := used.foldl (fun n b => min n (b.size / format.bytes)) frames
    ⟨some (.ofAreas areas fitting format), used ++ buffers.drop channels, areas⟩

example :
    (Mapping.ofBuffers [⟨0, 8, 0⟩, ⟨8, 6, 0⟩, ⟨14, 8, 0⟩] [] 4 2 .i16).view.map
      (fun v => (v.channels, v.frames)) = some (2, 3) := by decide

end PcmStream
