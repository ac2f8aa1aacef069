/-
  Surfaces: a memory together with the view laid over it.

  A `Source` describes how a view comes about: over a slice of samples, over interleaved bytes
  from some offset on, over areas of one memory, or over a list of platform buffers.  `surface`
  puts the bytes into one memory and makes the view.  Platform buffers lie one after the other in
  that memory, so they never overlap, and `parts` remembers where each of them is.
-/
import PcmStream.View.Action
import PcmStream.View.Platform

namespace PcmStream

/-- A buffer of a platform before it is placed in memory. -/
structure BufferContent where
  /-- The channel count the platform filled in. -/
  channels : Nat
  /-- The data. -/
  bytes : List UInt8
  deriving Repr

/-- How a view comes about. -/
inductive Source
  /-- Over a slice of interleaved samples. -/
  | slice (type : SampleFormat) (channels : Nat) (samples : List (Sample type))
  /-- Over interleaved samples that start at an offset. -/
  | interleaved (format : SampleFormat) (frames channels offset : Nat) (bytes : List UInt8)
  /-- Over one area per channel. -/
  | areas (format : SampleFormat) (frames : Nat) (areas : List ChannelArea) (bytes : List UInt8)
  /-- Over a list of platform buffers, with some empty areas left over from an earlier use. -/
  | buffers (format : SampleFormat) (frames channels : Nat) (list : List BufferContent)
      (stale : Nat)
  deriving Repr

/-- A memory with a view over it. -/
structure Surface where
  /-- The view, unless there were no buffers to make one from. -/
  view : Option View
  /-- All bytes. -/
  memory : Memory
  /-- Start and size of each buffer that the memory consists of. -/
  parts : List (Nat × Nat)
  /-- The areas of the view, or those left in the list which was provided for them. -/
  areas : List ChannelArea
  /-- The channel counts of the platform buffers. -/
  channelCounts : List Nat
  deriving Repr

/-- The platform buffers of the given contents, placed one after the other from `start` on. -/
def BufferContent.place (start : Nat) : List BufferContent → List PlatformBuffer
  | [] => []
  | b :: bs => ⟨start, b.bytes.length, b.channels⟩ :: place (start + b.bytes.length) bs

namespace Source

/-- Lay the view over its memory. -/
def surface : Source → Surface
  | slice type channels samples =>
    let bytes := samples.flatMap Sample.toBytes
    { view := some (.ofSamples samples.length channels type)
      memory := .ofList bytes
      parts := [(0, bytes.length)]
      areas := []
      channelCounts := [] }
  | interleaved format frames channels offset bytes =>
    { view := some (.interleaved offset frames channels format)
      memory := .ofList bytes
      parts := [(0, bytes.length)]
      areas := []
      channelCounts := [] }
  | .areas format frames list bytes =>
    { view := some (.ofAreas list frames format)
      memory := .ofList bytes
      parts := [(0, bytes.length)]
      areas := list
      channelCounts := [] }
  | buffers format frames channels list stale =>
    let placed := BufferContent.place 0 list
    let mapping :=
      Mapping.ofBuffers placed (List.replicate stale .empty) frames channels format
    { view := mapping.view
      memory := .ofList (list.flatMap (·.bytes))
      parts := placed.map fun b => (b.start, b.size)
      areas := mapping.areas
      channelCounts := mapping.buffers.map (·.channels) }

end Source

namespace Surface

/-- The bytes of each buffer that the memory consists of. -/
def dump (s : Surface) : List (List UInt8) := s.parts.map fun p => s.memory.load p.1 p.2

/-- Carry out an operation on the view of the surface, if there is one. -/
def run (s : Surface) (a : Action) : Option (Reply × Surface) :=
  s.view.map fun v =>
    let (reply, memory) := a.run v s.memory
    (reply, { s with memory })

end Surface

end PcmStream
