/-
  Samples as words.

  A sample of format `f` is a bit pattern of the width of `f`.  Copies between memory, queues and
  views move patterns unchanged, so NaN payloads and the sign of zero survive; only at the edges
  of the program is a pattern read as a number (`number`) or made from one (`ofNumber`, `ofCount`).

  In memory a sample is the little-endian string of its pattern.  `ofBytes_toBytes` and
  `toBytes_ofBytes` say that the two readings determine each other.
-/
import PcmStream.LittleEndian
import PcmStream.Sample.Format
import PcmStream.Sample.Single

namespace PcmStream

/-- A sample of the given format: a bit pattern of its width. -/
abbrev Sample (f : SampleFormat) : Type := BitVec (8 * f.bytes)

namespace Sample

variable {f : SampleFormat}

/-- The silent sample. -/
def silent (f : SampleFormat) : Sample f := 0#(8 * f.bytes)

/-! ## Samples in memory -/

/-- The bytes of a sample, least significant first. -/
def toBytes (s : Sample f) : List UInt8 := LittleEndian.digits f.bytes s.toNat

/-- The sample written by a byte string. -/
def ofBytes (f : SampleFormat) (bs : List UInt8) : Sample f :=
  BitVec.ofNat (8 * f.bytes) (LittleEndian.value bs)

@[simp] theorem length_toBytes (s : Sample f) : s.toBytes.length = f.bytes :=
  LittleEndian.length_digits _ _

/-- A sample has as many patterns as there are byte strings of its width. -/
theorem shiftLeft_width (w : Nat) : 1 <<< (8 * w) = LittleEndian.span w := by
  induction w with
  | zero => rfl
  | succ w ih =>
    have h : 8 * (w + 1) = 8 + 8 * w := by omega
    rw [LittleEndian.span, ← ih, h, Nat.one_shiftLeft, Nat.one_shiftLeft, Nat.pow_add]

/-- A sample is one of the patterns of its width. -/
theorem toNat_lt_span (s : Sample f) : s.toNat < LittleEndian.span f.bytes := by
  rw [← shiftLeft_width, Nat.one_shiftLeft]
  exact s.isLt

/-- A stored sample reads back bit for bit. -/
@[simp] theorem ofBytes_toBytes (s : Sample f) : ofBytes f s.toBytes = s := by
  rw [ofBytes, toBytes, LittleEndian.value_digits, Nat.mod_eq_of_lt s.toNat_lt_span,
    BitVec.ofNat_toNat, BitVec.setWidth_eq]

/-- A byte string of the right width is stored unchanged. -/
theorem toBytes_ofBytes (bs : List UInt8) (h : bs.length = f.bytes) :
    (ofBytes f bs).toBytes = bs := by
  have hlt := LittleEndian.value_lt bs
  rw [h, ← shiftLeft_width, Nat.one_shiftLeft] at hlt
  rw [ofBytes, toBytes, BitVec.toNat_ofNat, Nat.mod_eq_of_lt hlt, ← h, LittleEndian.digits_value]

/-- The silent sample is stored as zero bytes. -/
theorem toBytes_silent (f : SampleFormat) : (silent f).toBytes = List.replicate f.bytes 0 := by
  rw [toBytes, silent, BitVec.toNat_ofNat, Nat.zero_mod, LittleEndian.digits_zero]

/-! ## Samples as numbers -/

/-- The number a sample is shown as: its signed value, or the bit pattern of a float. -/
def number (s : Sample f) : Int := if f.isFloat then s.toNat else s.toInt

/-- The sample shown as the given number; a number that does not fit wraps around. -/
def ofNumber (f : SampleFormat) (n : Int) : Sample f := BitVec.ofInt (8 * f.bytes) n

/-- The sample whose value is the given integer: wrapped around in an integer format, rounded to
the nearest representable number in the floating point format. -/
def ofCount : (f : SampleFormat) → Int → Sample f
  | .f32, n => Single.ofInt n
  | .i8, n => ofNumber .i8 n
  | .i16, n => ofNumber .i16 n
  | .i32, n => ofNumber .i32 n

/-- What a sample is shown as determines it. -/
theorem ofNumber_number (s : Sample f) : ofNumber f s.number = s := by
  unfold ofNumber number
  split
  · rw [BitVec.ofInt_natCast, BitVec.ofNat_toNat, BitVec.setWidth_eq]
  · exact BitVec.ofInt_toInt

example : (ofNumber .i8 200).number = -56 := by decide
example : (ofCount .f32 1).number = 1065353216 := by decide

end Sample

end PcmStream
