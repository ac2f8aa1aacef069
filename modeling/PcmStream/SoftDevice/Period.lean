/-
  Periods: the buffer of one callback of a software device.

  Time passes for a software device only when it is told to `tick`.  A tick of a running device
  makes a period buffer, has the callback process it, and hands the buffer out for inspection.

  Output buffers are filled with a byte that is not silence beforehand, so that frames which nobody
  wrote stand out.  Input buffers are filled with as many whole frames as are waiting; what they do
  not cover is the same byte, or zero if the stream asked for that.

  A device that is planar lays the samples of one channel next to each other, any other one the
  samples of one frame.
-/
import PcmStream.SoftDevice.Basic

namespace PcmStream

/-- The byte that fills what nobody wrote. -/
def garbage : UInt8 := 0xaa

/-- The buffer of one callback. -/
structure Period where
  /-- The bytes. -/
  memory : Memory
  /-- The number of frames. -/
  frames : Nat
  /-- The number of channels. -/
  channels : Nat
  /-- The format of every sample. -/
  format : SampleFormat
  /-- Whether the samples of one channel lie next to each other. -/
  planar : Bool
  deriving DecidableEq, Repr

namespace Period

/-- A period all of whose bytes are equal. -/
def blank (frames : Nat) (config : StreamConfig) (planar : Bool) (b : UInt8) : Period where
  memory := .filled (frames * config.channels * config.format.bytes) b
  frames := frames
  channels := config.channels
  format := config.format
  planar := planar

/-- Where the sample of a channel and frame lies. -/
def offset (p : Period) (channel frame : Nat) : Nat :=
  if p.planar then (channel * p.frames + frame) * p.format.bytes
  else (frame * p.channels + channel) * p.format.bytes

/-- The view over the period that the callback is handed. -/
def view (p : Period) : View :=
  if p.planar then
    let size := p.frames * p.format.bytes
    .ofAreas ((List.range p.channels).map fun c => ⟨some (c * size), p.format.bytes, size⟩)
      p.frames p.format
  else .interleaved 0 p.frames p.channels p.format

/-- Put `n` samples into the period in frame order, the first of them as its `i`-th one, taking the
bytes of each off the front of a byte string. -/
def deposit (p : Period) : Nat → Nat → List UInt8 → Period
  | _, 0, _ => p
  | i, n + 1, bytes =>
    let start := p.offset (i % p.channels) (i / p.channels)
    let width := p.format.bytes
    deposit { p with memory := p.memory.store start (bytes.take width) } (i + 1) n
      (bytes.drop width)

/-- The sample of a channel and frame, if they exist and the type is that of the period. -/
def sample? (p : Period) (type : SampleFormat) (channel frame : Nat) : Option (Sample type) :=
  if type ≠ p.format ∨ p.channels ≤ channel ∨ p.frames ≤ frame then none
  else some (p.memory.loadSample type (p.offset channel frame))

/-- The samples of one channel; none if there is no such channel or the type is another one.  A period
without channels may have any number of frames, so the channel is looked for first. -/
def channel (p : Period) (type : SampleFormat) (channel : Nat) : List (Sample type) :=
  if type ≠ p.format ∨ p.channels ≤ channel then []
  else (List.range p.frames).map fun frame => p.memory.loadSample type (p.offset channel frame)

/-- The samples of a channel are those that can be looked at one by one. -/
theorem getElem?_channel (p : Period) (type : SampleFormat) (channel frame : Nat) :
    (p.channel type channel)[frame]? = p.sample? type channel frame := by
  by_cases h : type ≠ p.format ∨ p.channels ≤ channel
  · have h' : type ≠ p.format ∨ p.channels ≤ channel ∨ p.frames ≤ frame := by
      rcases h with h | h
      · exact .inl h
      · exact .inr (.inl h)
    rw [Period.channel, sample?, if_pos h, if_pos h', List.getElem?_nil]
  · by_cases hf : p.frames ≤ frame
    · rw [Period.channel, sample?, if_neg h, if_pos (.inr (.inr hf)), List.getElem?_map,
        List.getElem?_eq_none (by simpa using hf), Option.map_none]
    · have hlt : frame < p.frames := by omega
      have h' : ¬ (type ≠ p.format ∨ p.channels ≤ channel ∨ p.frames ≤ frame) := by
        rintro (ht | hc | hle)
        · exact h (.inl ht)
        · exact h (.inr hc)
        · exact hf hle
      rw [Period.channel, sample?, if_neg h, if_neg h', List.getElem?_map,
        List.getElem?_range hlt, Option.map_some]

end Period

/-- What a tick leaves behind. -/
structure Ticked where
  /-- The period as the callback left it. -/
  period : Period
  /-- The device afterwards. -/
  device : SoftDevice
  /-- What the callback shares with the controlling side. -/
  context : Context
  /-- What the application's routine did, if a routine serves the stream. -/
  record : Option CallbackRecord

namespace SoftDevice

/-- The byte a period is filled with before a callback. -/
def filler (c : Callback) : UInt8 :=
  if c.direction = .input ∧ c.preclear then 0 else garbage

/-- The number of whole frames that a tick of the callback takes from the waiting input. -/
def takenFrames (d : SoftDevice) (c : Callback) (frames : Nat) : Nat :=
  if c.direction = .input then min frames (d.input.length / c.config.frameBytes) else 0

/-- The period handed to a callback, and the input that is still waiting then. -/
def makePeriod (d : SoftDevice) (c : Callback) (frames : Nat) : Period × List UInt8 :=
  let taken := d.takenFrames c frames
  let blank := Period.blank frames c.config d.capabilities.planar (filler c)
  (blank.deposit 0 (taken * c.config.channels) d.input,
    d.input.drop (taken * c.config.frameBytes))

/-- Issue one callback of the given number of frames, if the device is running. -/
def tick (d : SoftDevice) (frames : Nat) (time : Timestamp) (context : Context) : Option Ticked :=
  match d.running, d.callback with
  | true, some c =>
    let (period, input) := d.makePeriod c frames
    let p := c.process period.view period.memory time context
    some
      { period := { period with memory := p.memory }
        device := { d with callback := some p.callback, input }
        context := p.context
        record := p.record }
  | _, _ => none

end SoftDevice

end PcmStream
