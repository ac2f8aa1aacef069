/-
  Stream configurations: what an application asks for and what a device settles on.

  Sizes are counted in frames, one sample per channel.  Two conversions tie frames to time.
  `withLatency` derives the buffer from a target latency and never gives an empty buffer or an
  empty period; `framesToDuration` goes the other way and saturates at the largest 64-bit word of
  nanoseconds.
-/
import PcmStream.Sample.Format
import PcmStream.Clock.Timestamp

namespace PcmStream

/-- The largest 64-bit word, at which counts of frames and nanoseconds saturate. -/
def maxWord : Nat := 0xffffffffffffffff

/-- A requested or negotiated stream configuration. -/
structure StreamConfig where
  /-- Sample rate in Hz. -/
  rate : Nat := 44100
  /-- The number of channels. -/
  channels : Nat := 2
  /-- The sample format. -/
  format : SampleFormat := .i16
  /-- The size of the device buffer in frames. -/
  bufferSize : Nat := 1024
  /-- The number of frames between successive callbacks. -/
  periodSize : Nat := 256
  deriving DecidableEq, Repr, Inhabited

namespace StreamConfig

/-- The whole frames that fit into a latency at the rate of the configuration; the latency is
rounded down to microseconds first. -/
def latencyFrames (c : StreamConfig) (latency : Duration) : Nat :=
  latency.micros * c.rate / 1000000

/-- The configuration whose buffer covers the given latency.  The period is a quarter of the
buffer, and neither is ever empty. -/
def withLatency (c : StreamConfig) (latency : Duration) : StreamConfig :=
  let bufferSize := max (min (c.latencyFrames latency) maxWord) 1
  { c with bufferSize, periodSize := max (bufferSize / 4) 1 }

/-- The number of bytes in one frame. -/
def frameBytes (c : StreamConfig) : Nat := c.channels * c.format.bytes

/-- The time taken by a number of frames, saturating at the largest word of nanoseconds.  A rate of
zero takes no time. -/
def framesToDuration (c : StreamConfig) (frames : Nat) : Duration :=
  if c.rate = 0 then ⟨0⟩ else ⟨min (frames * nanosPerSecond / c.rate) maxWord⟩

/-- The time taken by one period. -/
def periodDuration (c : StreamConfig) : Duration := c.framesToDuration c.periodSize

/-- The time taken by the whole device buffer. -/
def bufferDuration (c : StreamConfig) : Duration := c.framesToDuration c.bufferSize

/-- The debug text of a configuration. -/
def debugText (c : StreamConfig) : String :=
  "StreamConfig \x7b rate: " ++ toString c.rate ++ ", channels: " ++ toString c.channels ++
    ", format: " ++ c.format.debugText ++ ", buffer_size: " ++ toString c.bufferSize ++
    ", period_size: " ++ toString c.periodSize ++ " \x7d"

example : (withLatency {} (.ofParts 0 100000000)).bufferSize = 4410 := by decide
example : (withLatency {} ⟨1⟩).periodSize = 1 := by decide
example : ({ channels := 6, format := .i32 } : StreamConfig).frameBytes = 24 := by decide

end StreamConfig

/-- Options that are not part of the hardware configuration. -/
structure Options where
  /-- The name of the device to open; a default device is picked if there is none. -/
  deviceName : Option String := none
  /-- Whether capture buffers are zeroed before the device fills them. -/
  preclear : Bool := false
  deriving DecidableEq, Repr

end PcmStream
