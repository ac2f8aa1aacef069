/-
  Little-endian byte strings: the way a number lies in sample memory.

  `digits w n` writes the low `w` bytes of `n`, least significant first, and `value` reads such a
  string back.  The two are inverse to each other as far as the widths allow:

  * `value_digits`  — writing and reading back keeps `n % span w`, hence `n` itself when it fits;
  * `digits_value`  — reading a string and writing it at its own width gives the string back.

  Samples of every format go through this pair and nothing else, so the two laws are what makes a
  stored sample come back bit for bit.
-/

namespace PcmStream.LittleEndian

/-- The number written by a byte string, least significant byte first. -/
def value : List UInt8 → Nat
  | [] => 0
  | b :: bs => b.toNat + 256 * value bs

/-- The low `w` bytes of `n`, least significant byte first. -/
def digits : Nat → Nat → List UInt8
  | 0, _ => []
  | w + 1, n => UInt8.ofNat n :: digits w (n / 256)

/-- The number of byte strings of width `w`. -/
def span : Nat → Nat
  | 0 => 1
  | w + 1 => 256 * span w

@[simp] theorem length_digits (w n : Nat) : (digits w n).length = w := by
  induction w generalizing n with
  | zero => rfl
  | succ w ih => simp [digits, ih]

/-- Reading back what was written keeps the part of the number that fits. -/
theorem value_digits (w n : Nat) : value (digits w n) = n % span w := by
  induction w generalizing n with
  | zero => simp [digits, value, span, Nat.mod_one]
  | succ w ih =>
    have split : n % span (w + 1) = n % 256 + 256 * (n / 256 % span w) := by
      rw [span, Nat.mod_mul]
    rw [digits, value, ih, UInt8.toNat_ofNat', split]

/-- A byte string never reads as more than its width holds. -/
theorem value_lt (bs : List UInt8) : value bs < span bs.length := by
  induction bs with
  | nil => exact Nat.one_pos
  | cons b bs ih =>
    have hb : b.toNat < 256 := b.toNat_lt
    rw [value, List.length_cons, span]
    omega

/-- Writing the number of a byte string at the string's own width gives the string back. -/
theorem digits_value (bs : List UInt8) : digits bs.length (value bs) = bs := by
  induction bs with
  | nil => rfl
  | cons b bs ih =>
    have hb : b.toNat < 256 := b.toNat_lt
    have hd : (b.toNat + 256 * value bs) / 256 = value bs := by omega
    have hm : UInt8.ofNat (b.toNat + 256 * value bs) = b := by
      apply UInt8.toNat_inj.mp
      rw [UInt8.toNat_ofNat']
      omega
    rw [List.length_cons, value, digits, hd, hm, ih]

/-- Zero is written as zero bytes, whatever the width. -/
theorem digits_zero (w : Nat) : digits w 0 = List.replicate w 0 := by
  induction w with
  | zero => rfl
  | succ w ih => rw [digits, Nat.zero_div, ih]; rfl

example : digits 4 0x3f800000 = [0, 0, 0x80, 0x3f] := by decide
example : value [0x39, 0x30] = 12345 := by decide

end PcmStream.LittleEndian
