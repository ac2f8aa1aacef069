/-
  The four sample formats.

  Every format is signed or floating point, so in each of them the all-zeros pattern is silence.
  That single fact is what lets memory be silenced without knowing its format.
-/

namespace PcmStream

/-- The format of a single sample. -/
inductive SampleFormat
  /-- Signed 8-bit integer. -/
  | i8
  /-- Signed 16-bit integer. -/
  | i16
  /-- Signed 32-bit integer. -/
  | i32
  /-- IEEE-754 single precision. -/
  | f32
  deriving DecidableEq, Repr, Inhabited

namespace SampleFormat

/-- The number of bytes taken by one sample. -/
def bytes : SampleFormat → Nat
  | i8 => 1
  | i16 => 2
  | i32 => 4
  | f32 => 4

/-- Whether samples are floating point numbers. -/
def isFloat : SampleFormat → Bool
  | f32 => true
  | _ => false

/-- The name of the format, which is also the name of its sample type. -/
def name : SampleFormat → String
  | i8 => "i8"
  | i16 => "i16"
  | i32 => "i32"
  | f32 => "f32"

/-- The name of the format as it stands in a debug text. -/
def debugText : SampleFormat → String
  | i8 => "I8"
  | i16 => "I16"
  | i32 => "I32"
  | f32 => "F32"

/-- All formats, narrowest first. -/
def all : List SampleFormat := [i8, i16, i32, f32]

/-- The format of the given name. -/
def ofName? (s : String) : Option SampleFormat := all.find? fun f => f.name == s

theorem bytes_pos (f : SampleFormat) : 0 < f.bytes := by cases f <;> decide

theorem mem_all (f : SampleFormat) : f ∈ all := by cases f <;> decide

/-- A name belongs to one format only, and it is found again. -/
theorem ofName?_name (f : SampleFormat) : ofName? f.name = some f := by cases f <;> decide

end SampleFormat

end PcmStream
