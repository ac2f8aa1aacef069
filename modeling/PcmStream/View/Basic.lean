/-
  Views: one callback's memory as a matrix of samples, channel by frame.

  A view says where the sample of each channel and frame lies; it owns no memory.  Two layouts
  occur.  In the interleaved one all channels of a frame follow each other from one base.  In the
  other every channel has an *area* of its own: a base, a step between consecutive samples and a
  declared length in bytes.  Areas may overlap and may have any step.

  `address` is the only place that knows how a cell `(channel, frame)` is found, and reading,
  writing and the two bulk copies are built on it:

  * `read`, `write` check type, channel and frame, in this order, and touch one cell;
  * `copyFrom`, `copyTo` check the type once and then move whole frames, frame by frame, without
    looking at bounds again;
  * `place`, `collect` move samples in the same order through `write` and `read`, one check each.

  Silencing works on bytes instead.  `silence` zeroes everything that the view declares.
  `silenceFrom k` zeroes the frames from `k` on: the tail of the declared bytes where samples are
  packed, and sample by sample where they are not.
-/
import PcmStream.Memory
import PcmStream.View.Error

namespace PcmStream

/-- The memory of a single channel. -/
structure ChannelArea where
  /-- Where the channel starts, or nothing for an area that describes no memory. -/
  base : Option Nat
  /-- The number of bytes between two consecutive samples. -/
  step : Nat
  /-- The declared length in bytes. -/
  length : Nat
  deriving DecidableEq, Repr, Inhabited

namespace ChannelArea

/-- The area that describes no memory. -/
def empty : ChannelArea := ⟨none, 0, 0⟩

/-- The address of the first byte. -/
def start (a : ChannelArea) : Nat := a.base.getD 0

/-- Whether the area declares no bytes. -/
def isEmpty (a : ChannelArea) : Bool := a.length == 0

end ChannelArea

/-- Where the samples of a view lie. -/
inductive Layout
  /-- All channels of a frame follow each other, from `base` on; `length` bytes are declared. -/
  | interleaved (base length : Nat)
  /-- Every channel has an area of its own. -/
  | areas (list : List ChannelArea)
  deriving DecidableEq, Repr

/-- One callback's worth of samples. -/
structure View where
  /-- Where the samples lie. -/
  layout : Layout
  /-- The number of frames. -/
  frames : Nat
  /-- The number of channels. -/
  channels : Nat
  /-- The format of every sample. -/
  format : SampleFormat
  deriving DecidableEq, Repr

namespace View

/-! ## Making a view -/

/-- The view over interleaved samples starting at `base`. -/
def interleaved (base frames channels : Nat) (format : SampleFormat) : View where
  layout := .interleaved base (frames * channels * format.bytes)
  frames := frames
  channels := channels
  format := format

/-- The view over one area per channel. -/
def ofAreas (areas : List ChannelArea) (frames : Nat) (format : SampleFormat) : View where
  layout := .areas areas
  frames := frames
  channels := areas.length
  format := format

/-- The view over `count` interleaved samples at the start of memory; samples after the last whole
frame are not part of it.  Division by zero channels gives no frames. -/
def ofSamples (count channels : Nat) (format : SampleFormat) : View :=
  interleaved 0 (count / channels) channels format

/-! ## Cells -/

/-- The area of a channel in a list of areas. -/
def areaOf (areas : List ChannelArea) (channel : Nat) : ChannelArea :=
  areas.getD channel .empty

/-- The address of the sample of a channel and frame. -/
def address (v : View) (channel frame : Nat) : Nat :=
  match v.layout with
  | .interleaved base _ => base + channel * v.format.bytes + frame * (v.channels * v.format.bytes)
  | .areas areas => (areaOf areas channel).start + frame * (areaOf areas channel).step

/-- The address of the `i`-th sample in frame order: frame by frame, and within a frame channel by
channel. -/
def cell (v : View) (i : Nat) : Nat := v.address (i % v.channels) (i / v.channels)

/-- Whether samples are interleaved in a single buffer. -/
def isInterleaved (v : View) : Bool :=
  match v.layout with
  | .interleaved .. => true
  | .areas _ => false

/-! ## Checks -/

/-- Check that the view holds samples of the given type. -/
def checkType (v : View) (type : SampleFormat) : Except ViewError Unit :=
  if type ≠ v.format then .error (.formatMismatch type v.format) else .ok ()

/-- Check an access to one cell: the type, then the channel, then the frame. -/
def check (v : View) (type : SampleFormat) (channel frame : Nat) : Except ViewError Unit :=
  if type ≠ v.format then .error (.formatMismatch type v.format)
  else if v.channels ≤ channel then .error (.channelOutOfBounds channel v.channels)
  else if v.frames ≤ frame then .error (.frameOutOfBounds frame v.frames)
  else .ok ()

/-- An access is allowed exactly if the type is that of the view and channel and frame lie in it. -/
theorem check_eq_ok_iff (v : View) (type : SampleFormat) (channel frame : Nat) :
    v.check type channel frame = .ok () ↔
      type = v.format ∧ channel < v.channels ∧ frame < v.frames := by
  unfold check
  by_cases ht : type = v.format
  · by_cases hc : v.channels ≤ channel
    · simp only [ht, hc, ne_eq, not_true_eq_false, ↓reduceIte, reduceCtorEq, true_and, false_iff]
      omega
    · by_cases hf : v.frames ≤ frame
      · simp [ht, hc, hf]
      · simp only [ht, hc, hf, ne_eq, not_true_eq_false, ↓reduceIte, true_and, true_iff]
        omega
  · simp [ht]

/-! ## Single samples -/

/-- Read the sample of a channel and frame. -/
def read (v : View) (m : Memory) (type : SampleFormat) (channel frame : Nat) :
    Except ViewError (Sample type) :=
  match v.check type channel frame with
  | .ok () => .ok (m.loadSample type (v.address channel frame))
  | .error e => .error e

/-- Write the sample of a channel and frame; answers the memory afterwards, which is the same one if
the access is not allowed. -/
def write {type : SampleFormat} (v : View) (m : Memory) (channel frame : Nat) (s : Sample type) :
    Except ViewError Unit × Memory :=
  match v.check type channel frame with
  | .ok () => (.ok (), m.storeSample (v.address channel frame) s)
  | .error e => (.error e, m)

/-! ## Bulk copies -/

/-- The number of whole frames among `count` samples that the view takes. -/
def copyFrames (v : View) (count : Nat) : Nat := min v.frames (count / v.channels)

/-- Store samples in frame order, the first of them as the `i`-th sample of the view. -/
def storeFrom {type : SampleFormat} (v : View) : Nat → List (Sample type) → Memory → Memory
  | _, [], m => m
  | i, s :: ss, m => v.storeFrom (i + 1) ss (m.storeSample (v.cell i) s)

/-- Copy interleaved samples into the view; answers the number of frames copied, and the memory
afterwards. -/
def copyFrom {type : SampleFormat} (v : View) (m : Memory) (source : List (Sample type)) :
    Except ViewError Nat × Memory :=
  match v.checkType type with
  | .error e => (.error e, m)
  | .ok () =>
    let frames := v.copyFrames source.length
    (.ok frames, v.storeFrom 0 (source.take (frames * v.channels)) m)

/-- Copy the view out over the start of a list of interleaved samples; answers the number of frames
copied and the list. -/
def copyTo {type : SampleFormat} (v : View) (m : Memory) (target : List (Sample type)) :
    Except ViewError (Nat × List (Sample type)) :=
  match v.checkType type with
  | .error e => .error e
  | .ok () =>
    let frames := v.copyFrames target.length
    let count := frames * v.channels
    .ok (frames, (List.range count).map (fun i => m.loadSample type (v.cell i)) ++ target.drop count)

/-! ## Checked loops -/

/-- Write samples one by one in frame order, the first of them as the `i`-th sample of the view.
The first error ends the loop; what was written before it stays. -/
def place {type : SampleFormat} (v : View) :
    Nat → List (Sample type) → Memory → Except ViewError Unit × Memory
  | _, [], m => (.ok (), m)
  | i, s :: ss, m =>
    match v.write m (i % v.channels) (i / v.channels) s with
    | (.ok (), m) => v.place (i + 1) ss m
    | (.error e, m) => (.error e, m)

/-- Read `n` samples one by one in frame order, the first of them as the `i`-th sample of the view.
The first error ends the loop. -/
def collect (v : View) (m : Memory) (type : SampleFormat) :
    Nat → Nat → Except ViewError (List (Sample type))
  | _, 0 => .ok []
  | i, n + 1 =>
    match v.read m type (i % v.channels) (i / v.channels), v.collect m type (i + 1) n with
    | .ok s, .ok ss => .ok (s :: ss)
    | .error e, _ => .error e
    | _, .error e => .error e

/-! ## Silence -/

/-- Zero every channel for its full declared length. -/
def silence (v : View) (m : Memory) : Memory :=
  match v.layout with
  | .interleaved base length => m.fill base length 0
  | .areas areas => areas.foldl (fun m a => m.fill a.start a.length 0) m

/-- Zero one area from a frame on.  Packed samples are zeroed up to the declared end of the area;
otherwise each sample up to the last frame is zeroed and the bytes between samples are kept. -/
def silenceArea (v : View) (frame : Nat) (m : Memory) (a : ChannelArea) : Memory :=
  let bytes := v.format.bytes
  if a.step = bytes then m.fill (a.start + frame * bytes) (a.length - frame * bytes) 0
  else
    (List.range' frame (v.frames - frame)).foldl
      (fun m n => m.fill (a.start + n * a.step) bytes 0) m

/-- Zero every channel from a frame until the end of the view. -/
def silenceFrom (v : View) (m : Memory) (frame : Nat) : Memory :=
  if v.frames ≤ frame then m
  else if frame = 0 then v.silence m
  else
    match v.layout with
    | .interleaved base length =>
      let offset := frame * v.channels * v.format.bytes
      m.fill (base + offset) (length - offset) 0
    | .areas areas => areas.foldl (v.silenceArea frame) m

/-! ## First consequences -/

@[simp] theorem size_storeFrom {type : SampleFormat} (v : View) (i : Nat)
    (ss : List (Sample type)) (m : Memory) : (v.storeFrom i ss m).size = m.size := by
  induction ss generalizing i m with
  | nil => rfl
  | cons s ss ih => rw [storeFrom, ih, Memory.size_storeSample]

/-- An allowed write stores one sample and nothing else. -/
theorem write_of_check {type : SampleFormat} {v : View} {channel frame : Nat} (m : Memory)
    (s : Sample type) (h : v.check type channel frame = .ok ()) :
    v.write m channel frame s = (.ok (), m.storeSample (v.address channel frame) s) := by
  rw [write, h]

/-- A refused write changes nothing. -/
theorem write_of_check_error {type : SampleFormat} {v : View} {channel frame : Nat} {e : ViewError}
    (m : Memory) (s : Sample type) (h : v.check type channel frame = .error e) :
    v.write m channel frame s = (.error e, m) := by
  rw [write, h]

/-- An allowed read loads one sample. -/
theorem read_of_check {type : SampleFormat} {v : View} {channel frame : Nat} (m : Memory)
    (h : v.check type channel frame = .ok ()) :
    v.read m type channel frame = .ok (m.loadSample type (v.address channel frame)) := by
  rw [read, h]

/-- Nothing is silenced from the end of the view on. -/
theorem silenceFrom_of_le (v : View) (m : Memory) {frame : Nat} (h : v.frames ≤ frame) :
    v.silenceFrom m frame = m := by
  rw [silenceFrom, if_pos h]

example : (interleaved 0 3 2 .i8).silenceFrom (.filled 6 7) 1 = ⟨#[7, 7, 0, 0, 0, 0]⟩ := by decide

end View

end PcmStream
