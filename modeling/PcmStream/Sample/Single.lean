/-
  Single-precision patterns of integers.

  A sample of the floating point format is moved around as a bit pattern and never computed with,
  with one exception: a test ramp counts upwards, and in the floating point format its integers
  have to be turned into single-precision numbers.  `ofInt` does that in exact integer arithmetic:
  the nearest number with a 24-bit significand, a tie going to the even one.
-/

namespace PcmStream.Single

/-- `n` without its low `k` bits, rounded to the nearest integer; a tie goes to the even one. -/
def roundShift (n k : Nat) : Nat :=
  let unit := 1 <<< k
  let q := n / unit
  let r := 2 * (n % unit)
  if r < unit then q
  else if r = unit then q + q % 2
  else q + 1

/-- The pattern of the single-precision number nearest to the natural number `n`.

The significand is scaled to 24 bits, and its leading bit is added onto the exponent field instead
of being masked out, so that a significand rounded up to the next power of two carries into the
exponent by itself.  What is too large becomes infinity. -/
def ofNat (n : Nat) : Nat :=
  if n = 0 then 0
  else
    let top := n.log2
    let significand := if top ≤ 23 then n <<< (23 - top) else roundShift n (top - 23)
    min (((126 + top) <<< 23) + significand) 0x7f800000

/-- The pattern of the single-precision number nearest to the integer `n`. -/
def ofInt (n : Int) : BitVec 32 :=
  BitVec.ofNat 32 (if n < 0 then 0x80000000 + ofNat n.natAbs else ofNat n.natAbs)

example : ofInt 1 = 0x3f800000 := by decide
example : ofInt (-3) = 0xc0400000 := by decide
example : ofInt 16777217 = 0x4b800000 := by decide
example : ofInt 16777219 = 0x4b800002 := by decide
example : ofInt 0 = 0 := by decide

end PcmStream.Single
