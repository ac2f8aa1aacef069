/-
  Byte memory.

  All buffers of one callback lie in one flat memory and are told apart by where they start, so a
  buffer is a start and a length and needs no identity of its own.  A byte outside of the memory
  reads as zero and a store outside of it is dropped; the buffers handed to a callback lie inside.

  Everything is stated through one view, `byte`, which reads a single byte:

  * `byte_store` — a store replaces the bytes it covers and no other byte;
  * `byte_fill`  — so does a fill, by the same byte everywhere;
  * `ext`        — two memories of one size with the same bytes are equal.
-/
import PcmStream.Sample.Word

namespace PcmStream

/-- A flat byte memory. -/
structure Memory where
  /-- The bytes in order of their addresses. -/
  bytes : Array UInt8
  deriving DecidableEq, Repr, Inhabited

namespace Memory

/-- The number of bytes. -/
def size (m : Memory) : Nat := m.bytes.size

/-- The byte at an address; zero outside of the memory. -/
def byte (m : Memory) (i : Nat) : UInt8 := m.bytes.getD i 0

/-- The memory with one byte replaced. -/
def setByte (m : Memory) (i : Nat) (b : UInt8) : Memory := ⟨m.bytes.setIfInBounds i b⟩

/-- The memory of the given bytes. -/
def ofList (bs : List UInt8) : Memory := ⟨bs.toArray⟩

/-- A memory of one byte repeated. -/
def filled (n : Nat) (b : UInt8) : Memory := ⟨Array.replicate n b⟩

/-- Replace the bytes from `start` on by the given ones. -/
def store (m : Memory) (start : Nat) : List UInt8 → Memory
  | [] => m
  | b :: bs => (m.setByte start b).store (start + 1) bs

/-- Replace the `n` bytes from `start` on by one byte repeated. -/
def fill (m : Memory) (start : Nat) : Nat → UInt8 → Memory
  | 0, _ => m
  | n + 1, b => (m.setByte start b).fill (start + 1) n b

/-- The `n` bytes from `start` on. -/
def load (m : Memory) (start n : Nat) : List UInt8 := (List.range' start n).map m.byte

/-! ## What each operation does to the bytes -/

@[simp] theorem size_setByte (m : Memory) (i : Nat) (b : UInt8) : (m.setByte i b).size = m.size := by
  simp [size, setByte]

@[simp] theorem size_store (m : Memory) (start : Nat) (bs : List UInt8) :
    (m.store start bs).size = m.size := by
  induction bs generalizing m start with
  | nil => rfl
  | cons b bs ih => rw [store, ih, size_setByte]

@[simp] theorem size_fill (m : Memory) (start n : Nat) (b : UInt8) :
    (m.fill start n b).size = m.size := by
  induction n generalizing m start with
  | zero => rfl
  | succ n ih => rw [fill, ih, size_setByte]

theorem byte_setByte (m : Memory) (i j : Nat) (b : UInt8) :
    (m.setByte i b).byte j = if i = j ∧ j < m.size then b else m.byte j := by
  simp only [byte, setByte, size, Array.getD_eq_getD_getElem?, Array.getElem?_setIfInBounds]
  by_cases hij : i = j
  · subst hij
    by_cases hi : i < m.bytes.size <;> simp [hi]
  · simp [hij]

/-- A store replaces the bytes it covers, as far as they lie in the memory, and no other byte. -/
theorem byte_store (m : Memory) (start : Nat) (bs : List UInt8) (j : Nat) :
    (m.store start bs).byte j =
      if start ≤ j ∧ j < start + bs.length ∧ j < m.size then bs.getD (j - start) 0
      else m.byte j := by
  induction bs generalizing m start with
  | nil =>
    have h : ¬ (start ≤ j ∧ j < start + ([] : List UInt8).length ∧ j < m.size) := by
      simp only [List.length_nil]
      omega
    rw [store, if_neg h]
  | cons b bs ih =>
    rw [store, ih, size_setByte, byte_setByte, List.length_cons]
    by_cases hj : start = j
    · subst hj
      have hno : ¬ (start + 1 ≤ start ∧ start < start + 1 + bs.length ∧ start < m.size) := by omega
      rw [if_neg hno]
      by_cases hs : start < m.size
      · rw [if_pos ⟨rfl, hs⟩, if_pos ⟨by omega, by omega, hs⟩, Nat.sub_self]
        rfl
      · rw [if_neg (by omega), if_neg (by omega)]
    · rw [if_neg (c := start = j ∧ j < m.size) (by omega)]
      by_cases hin : start + 1 ≤ j ∧ j < start + 1 + bs.length ∧ j < m.size
      · rw [if_pos hin, if_pos ⟨by omega, by omega, hin.2.2⟩]
        have : j - start = (j - (start + 1)) + 1 := by omega
        rw [this, List.getD_cons_succ]
      · rw [if_neg hin, if_neg (by omega)]

/-- A fill replaces the bytes it covers, as far as they lie in the memory, and no other byte. -/
theorem byte_fill (m : Memory) (start n : Nat) (b : UInt8) (j : Nat) :
    (m.fill start n b).byte j =
      if start ≤ j ∧ j < start + n ∧ j < m.size then b else m.byte j := by
  induction n generalizing m start with
  | zero => rw [fill, if_neg (by omega)]
  | succ n ih =>
    rw [fill, ih, size_setByte, byte_setByte]
    by_cases hj : start = j
    · subst hj
      rw [if_neg (by omega)]
      by_cases hs : start < m.size
      · rw [if_pos ⟨rfl, hs⟩, if_pos ⟨by omega, by omega, hs⟩]
      · rw [if_neg (by omega), if_neg (by omega)]
    · rw [if_neg (c := start = j ∧ j < m.size) (by omega)]
      by_cases hin : start + 1 ≤ j ∧ j < start + 1 + n ∧ j < m.size
      · rw [if_pos hin, if_pos ⟨by omega, by omega, hin.2.2⟩]
      · rw [if_neg hin, if_neg (by omega)]

/-- Two memories of one size with the same bytes are equal. -/
theorem ext {m m' : Memory} (hsize : m.size = m'.size) (hbyte : ∀ i, m.byte i = m'.byte i) :
    m = m' := by
  obtain ⟨a⟩ := m
  obtain ⟨a'⟩ := m'
  congr 1
  apply Array.ext hsize
  intro i hi hi'
  simpa [byte, Array.getD_eq_getD_getElem?, hi, hi'] using hbyte i

@[simp] theorem length_load (m : Memory) (start n : Nat) : (m.load start n).length = n := by
  simp [load]

/-- A load depends on the bytes it covers only. -/
theorem load_congr {m m' : Memory} {start n : Nat}
    (h : ∀ j, start ≤ j → j < start + n → m.byte j = m'.byte j) :
    m.load start n = m'.load start n := by
  apply List.map_congr_left
  intro j hj
  obtain ⟨i, hi, rfl⟩ := List.mem_range'.mp hj
  exact h _ (by omega) (by omega)

/-- What was stored inside of the memory is loaded again. -/
theorem load_store_same (m : Memory) (start : Nat) (bs : List UInt8)
    (h : start + bs.length ≤ m.size) : (m.store start bs).load start bs.length = bs := by
  apply List.ext_getElem (by simp)
  intro i hi hi'
  have hcond : start ≤ start + i ∧ start + i < start + bs.length ∧ start + i < m.size := by omega
  simp [load, byte_store, hcond, hi']

/-- A store elsewhere is not seen by a load. -/
theorem load_store_of_disjoint (m : Memory) (start at' n : Nat) (bs : List UInt8)
    (h : at' + n ≤ start ∨ start + bs.length ≤ at') :
    (m.store start bs).load at' n = m.load at' n := by
  apply load_congr
  intro j _ _
  rw [byte_store, if_neg (by omega)]

/-! ## Samples -/

/-- The sample of format `f` that starts at an address. -/
def loadSample (m : Memory) (f : SampleFormat) (start : Nat) : Sample f :=
  Sample.ofBytes f (m.load start f.bytes)

/-- Store a sample from an address on. -/
def storeSample {f : SampleFormat} (m : Memory) (start : Nat) (s : Sample f) : Memory :=
  m.store start s.toBytes

@[simp] theorem size_storeSample {f : SampleFormat} (m : Memory) (start : Nat) (s : Sample f) :
    (m.storeSample start s).size = m.size := size_store ..

/-- A sample stored inside of the memory reads back bit for bit. -/
theorem loadSample_storeSample_same {f : SampleFormat} (m : Memory) (start : Nat) (s : Sample f)
    (h : start + f.bytes ≤ m.size) : (m.storeSample start s).loadSample f start = s := by
  have hload := load_store_same m start s.toBytes (by rw [Sample.length_toBytes]; exact h)
  rw [Sample.length_toBytes] at hload
  rw [loadSample, storeSample, hload, Sample.ofBytes_toBytes]

/-- A sample stored elsewhere does not change what is read here. -/
theorem loadSample_storeSample_of_disjoint {f : SampleFormat} (m : Memory) (start at' : Nat)
    (s : Sample f) (h : at' + f.bytes ≤ start ∨ start + f.bytes ≤ at') :
    (m.storeSample start s).loadSample f at' = m.loadSample f at' := by
  rw [loadSample, storeSample, load_store_of_disjoint, ← loadSample]
  rw [Sample.length_toBytes]
  exact h

example : (Memory.filled 4 0xaa).fill 1 2 0 = ⟨#[0xaa, 0, 0, 0xaa]⟩ := by decide
example : (Memory.filled 4 0).storeSample 2 (Sample.ofNumber .i16 (-2)) = ⟨#[0, 0, 0xfe, 0xff]⟩ := by
  decide

end Memory

end PcmStream
