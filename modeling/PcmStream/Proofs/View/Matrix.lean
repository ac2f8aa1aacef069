/-
  A view is a matrix of samples, channel by frame.

  `View.LaidOver size` lists the ways in which a view comes to lie over a memory of the given size:
  over interleaved bytes, over a slice, over areas of the caller's making, over the buffers of a
  platform.  Each maker asks for something else, but what it comes to is the same: the samples lie in
  the memory and no two of them share a byte (`LaidOver.fits`).

  Reading and writing such a view obeys the laws of a matrix, and no byte is touched but those of the
  sample written.

  1. An access is allowed or refused by its type, channel and frame alone, in this order.
  2. What was written is read back, bit for bit, and every other place reads as before.
  3. Writing back what was just read changes nothing, not even a byte.

  The second law is where the samples have to be apart, and where they have to lie in the memory.  The
  third needs neither: it is about bytes that are replaced by themselves.
-/
import PcmStream.Proofs.View.Platform

namespace PcmStream

/-! ## Bytes stored where they were -/

namespace Memory

/-- Storing the bytes that are there changes nothing. -/
theorem store_load (m : Memory) (start n : Nat) : m.store start (m.load start n) = m := by
  refine ext (size_store ..) fun j => ?_
  rw [byte_store, length_load]
  by_cases hj : start ≤ j ∧ j < start + n ∧ j < m.size
  · have hlt : j - start < (m.load start n).length := by
      rw [length_load]
      omega
    have hplace : start + (j - start) = j := by omega
    rw [if_pos hj, List.getD_eq_getElem?_getD, List.getElem?_eq_getElem hlt, Option.getD_some]
    simp only [load, List.getElem_map, List.getElem_range', Nat.one_mul, hplace]
  · rw [if_neg hj]

/-- Storing the sample that is there changes nothing. -/
theorem storeSample_loadSample (m : Memory) (f : SampleFormat) (start : Nat) :
    m.storeSample start (m.loadSample f start) = m := by
  rw [storeSample, loadSample, Sample.toBytes_ofBytes _ (length_load ..), store_load]

/-- Storing a sample changes no byte but its own. -/
theorem byte_storeSample_of_outside {f : SampleFormat} (m : Memory) {start j : Nat} (s : Sample f)
    (h : ¬ (start ≤ j ∧ j < start + f.bytes)) : (m.storeSample start s).byte j = m.byte j := by
  rw [storeSample, byte_store, Sample.length_toBytes, if_neg fun h' => h ⟨h'.1, h'.2.1⟩]

end Memory

namespace View

open PlatformBuffer

/-! ## Where views come from -/

/-- A view, the way it is laid over a memory of the given size by whoever makes it. -/
inductive LaidOver (size : Nat) : View → Prop
  /-- Over interleaved bytes of the memory. -/
  | interleaved {base frames channels : Nat} {format : SampleFormat}
      (h : base + frames * channels * format.bytes ≤ size) :
      LaidOver size (interleaved base frames channels format)
  /-- Over a slice of samples, whether or not it consists of whole frames. -/
  | ofSamples {count channels : Nat} {format : SampleFormat} (h : count * format.bytes ≤ size) :
      LaidOver size (ofSamples count channels format)
  /-- Over areas whose samples lie in the memory and are apart. -/
  | ofAreas {areas : List ChannelArea} {frames : Nat} {format : SampleFormat}
      (h : (View.ofAreas areas frames format).Fits size) : LaidOver size (ofAreas areas frames format)
  /-- Over buffers of a platform that lie in the memory, each in a part of its own. -/
  | ofBuffers {buffers : List PlatformBuffer} {stale : List ChannelArea} {frames channels : Nat}
      {format : SampleFormat} {v : View} (hseparate : Separate buffers)
      (hinside : ∀ b ∈ buffers, b.start + b.size ≤ size)
      (hview : (Mapping.ofBuffers buffers stale frames channels format).view = some v) :
      LaidOver size v

theorem Fits.mono {v : View} {size size' : Nat} (h : v.Fits size) (hle : size ≤ size') :
    v.Fits size' where
  inside channel hc frame hf := Nat.le_trans (h.inside channel hc frame hf) hle
  apart := h.apart

theorem mem_of_mem_inUse {channels : Nat} {buffers : List PlatformBuffer} {b : PlatformBuffer}
    (h : b ∈ inUse channels buffers) : b ∈ buffers := by
  rcases Mapping.buffers_cases buffers with rfl | ⟨b', rfl⟩ | hlength
  · exact List.mem_of_mem_take h
  · exact h
  · rw [Mapping.inUse_several hlength] at h
    exact List.mem_of_mem_take h

/-- However a view comes about, its samples lie in the memory and no two of them share a byte. -/
theorem LaidOver.fits {v : View} {size : Nat} (h : v.LaidOver size) : v.Fits size := by
  cases h with
  | interleaved h => exact (fits_interleaved ..).mono h
  | @ofSamples count channels format h =>
    -- The samples behind the last whole frame belong to the slice, but not to the view.
    have hwhole : count / channels * channels * format.bytes ≤ count * format.bytes :=
      Nat.mul_le_mul_right _ (Nat.div_mul_le_self ..)
    exact (fits_interleaved 0 (count / channels) channels format).mono (by omega)
  | ofAreas h => exact h
  | ofBuffers hseparate hinside hview =>
    have hbounds := Mapping.inBounds_of_mapped hseparate hview
    refine ⟨fun channel hc frame hf => ?_, hbounds.apart⟩
    obtain ⟨b, hb, -, hend⟩ := hbounds.inside channel hc frame hf
    exact Nat.le_trans hend (hinside b (mem_of_mem_inUse hb))

/-! ## Access -/

section Access

variable {v : View} {m : Memory} {type : SampleFormat} {channel frame : Nat}

/-- A refused access: it is answered with an error, and writing leaves the memory as it is. -/
def Refuses (v : View) (m : Memory) (channel frame : Nat) (s : Sample type) (e : ViewError) : Prop :=
  v.read m type channel frame = .error e ∧ v.write m channel frame s = (.error e, m)

theorem refuses_of_check {e : ViewError} (s : Sample type)
    (h : v.check type channel frame = .error e) : v.Refuses m channel frame s e :=
  ⟨by rw [read, h], v.write_of_check_error m s h⟩

/-- Of several things that are wrong with an access the type is reported first, then the channel and
then the frame. -/
theorem check_eq_error (v : View) (type : SampleFormat) (channel frame : Nat) :
    (type ≠ v.format → v.check type channel frame = .error (.formatMismatch type v.format)) ∧
    (type = v.format → v.channels ≤ channel →
      v.check type channel frame = .error (.channelOutOfBounds channel v.channels)) ∧
    (type = v.format → channel < v.channels → v.frames ≤ frame →
      v.check type channel frame = .error (.frameOutOfBounds frame v.frames)) := by
  refine ⟨fun ht => ?_, fun ht hc => ?_, fun ht hc hf => ?_⟩
  · rw [check, if_pos ht]
  · rw [check, if_neg (not_not_intro ht), if_pos hc]
  · rw [check, if_neg (not_not_intro ht), if_neg (by omega), if_pos hf]

/-- What can be read. -/
theorem read_eq_ok_iff :
    (∃ s, v.read m type channel frame = .ok s) ↔
      type = v.format ∧ channel < v.channels ∧ frame < v.frames := by
  rw [← check_eq_ok_iff, read]
  cases v.check type channel frame with
  | ok => exact ⟨fun _ => rfl, fun _ => ⟨_, rfl⟩⟩
  | error e =>
    constructor
    · rintro ⟨s, hs⟩
      cases hs
    · intro h
      cases h

/-- What can be written. -/
theorem write_eq_ok_iff (s : Sample type) :
    (v.write m channel frame s).1 = .ok () ↔
      type = v.format ∧ channel < v.channels ∧ frame < v.frames := by
  rw [← check_eq_ok_iff, write]
  cases v.check type channel frame with
  | ok => exact ⟨fun _ => rfl, fun _ => rfl⟩
  | error e =>
    constructor
    · intro h
      cases h
    · intro h
      cases h

/-- What was written is read back. -/
theorem read_write_same (hv : v.Fits m.size) (s : Sample type)
    (h : v.check type channel frame = .ok ()) :
    v.read (v.write m channel frame s).2 type channel frame = .ok s := by
  obtain ⟨htype, hc, hf⟩ := (check_eq_ok_iff ..).mp h
  rw [v.write_of_check m s h, v.read_of_check _ h, hv.loadSample_storeSample htype hc hf hc hf,
    if_pos ⟨rfl, rfl⟩]

/-- Every other place reads as before, whatever the type it is read as. -/
theorem read_write_of_ne (hv : v.Fits m.size) (s : Sample type) (type' : SampleFormat)
    {channel' frame' : Nat} (hne : ¬ (channel = channel' ∧ frame = frame')) :
    v.read (v.write m channel frame s).2 type' channel' frame' =
      v.read m type' channel' frame' := by
  cases h : v.check type channel frame with
  | error e => rw [v.write_of_check_error m s h]
  | ok =>
    cases h' : v.check type' channel' frame' with
    | error e => rw [read, read, h']
    | ok =>
      obtain ⟨htype, hc, hf⟩ := (check_eq_ok_iff ..).mp h
      obtain ⟨htype', hc', hf'⟩ := (check_eq_ok_iff ..).mp h'
      obtain rfl : type' = type := htype'.trans htype.symm
      rw [v.write_of_check m s h, v.read_of_check _ h', v.read_of_check _ h',
        hv.loadSample_storeSample htype hc hf hc' hf', if_neg hne]

/-- Writing back what was read changes nothing. -/
theorem write_of_read {s : Sample type} (h : v.read m type channel frame = .ok s) :
    v.write m channel frame s = (.ok (), m) := by
  have hcheck := (check_eq_ok_iff ..).mpr (read_eq_ok_iff.mp ⟨s, h⟩)
  rw [v.read_of_check m hcheck] at h
  rw [v.write_of_check m s hcheck, ← Except.ok.inj h, Memory.storeSample_loadSample]

end Access

/-- A view is a matrix of samples, however it was made.  Reading and writing are allowed exactly for
samples of its format in a channel and a frame that it has; otherwise both are refused for the first
reason in this order, and nothing is changed.  What was written is read back bit for bit, every other
place reads as before, and no byte is changed but those of the sample.  Writing back what was just
read changes nothing. -/
theorem matrix_of_laidOver {v : View} {m : Memory} (hv : v.LaidOver m.size) (type : SampleFormat)
    (channel frame : Nat) (s : Sample type) :
    let inside := type = v.format ∧ channel < v.channels ∧ frame < v.frames
    let after := (v.write m channel frame s).2
    ((∃ r, v.read m type channel frame = .ok r) ↔ inside) ∧
    ((v.write m channel frame s).1 = .ok () ↔ inside) ∧
    (type ≠ v.format → v.Refuses m channel frame s (.formatMismatch type v.format)) ∧
    (type = v.format → v.channels ≤ channel →
      v.Refuses m channel frame s (.channelOutOfBounds channel v.channels)) ∧
    (type = v.format → channel < v.channels → v.frames ≤ frame →
      v.Refuses m channel frame s (.frameOutOfBounds frame v.frames)) ∧
    (inside → v.read after type channel frame = .ok s) ∧
    (∀ type' channel' frame', ¬ (channel = channel' ∧ frame = frame') →
      v.read after type' channel' frame' = v.read m type' channel' frame') ∧
    (∀ j, ¬ (v.address channel frame ≤ j ∧ j < v.address channel frame + type.bytes) →
      after.byte j = m.byte j) ∧
    ∀ r, v.read m type channel frame = .ok r → v.write m channel frame r = (.ok (), m) := by
  intro inside after
  obtain ⟨hformat, hchannel, hframe⟩ := v.check_eq_error type channel frame
  refine ⟨read_eq_ok_iff, write_eq_ok_iff s, fun ht => refuses_of_check s (hformat ht),
    fun ht hc => refuses_of_check s (hchannel ht hc),
    fun ht hc hf => refuses_of_check s (hframe ht hc hf), fun h => ?_, fun type' channel' frame' hne => ?_,
    fun j hj => ?_, fun r hr => write_of_read hr⟩
  · exact read_write_same hv.fits s ((check_eq_ok_iff ..).mpr h)
  · exact read_write_of_ne hv.fits s type' hne
  · show (v.write m channel frame s).2.byte j = m.byte j
    cases h : v.check type channel frame with
    | error e => rw [v.write_of_check_error m s h]
    | ok =>
      rw [v.write_of_check m s h]
      exact m.byte_storeSample_of_outside s hj

/-- Seven floating point samples over two channels: a NaN is kept with its payload, and the seventh
sample is none of the view. -/
theorem matrix_of_laidOver_odd :
    let v := ofSamples 7 2 .f32
    let m := Memory.filled 28 7
    let after := (v.write m 1 2 (0xffc00123 : Sample .f32)).2
    v.LaidOver m.size ∧ v.read after .f32 1 2 = .ok 0xffc00123 ∧
      v.read after .f32 0 2 = v.read m .f32 0 2 ∧ after.byte 24 = 7 ∧
      v.Refuses m 0 3 (0 : Sample .f32) (.frameOutOfBounds 3 3) := by
  intro v m after
  have hv : v.LaidOver m.size := .ofSamples (by decide)
  obtain ⟨-, -, -, -, -, hsame, hother, hbyte, -⟩ :=
    matrix_of_laidOver hv .f32 1 2 (0xffc00123 : Sample .f32)
  obtain ⟨-, -, -, -, hframe, -, -, -, -⟩ := matrix_of_laidOver hv .f32 0 3 (0 : Sample .f32)
  exact ⟨hv, hsame (by decide), hother .f32 0 2 (by decide), (hbyte 24 (by decide)).trans (by decide),
    hframe rfl (by decide) (by decide)⟩

end View

end PcmStream
