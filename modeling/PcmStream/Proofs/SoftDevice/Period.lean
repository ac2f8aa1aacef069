/-
  Periods: the two layouts of a period buffer, and what is deposited in it.

  A period counts its samples in slots of one sample each.  Both layouts are an order of these slots:
  frame by frame, or channel by channel.  In either each channel and frame has a slot of its own, and
  there are exactly as many slots as the buffer has room for (`slot_lt`, `slot_inj`); so no sample
  shares a byte with another, whatever the layout (`fits`), and the view that a callback is handed
  keeps what the maker of a view promises (`sound`).

  The device finds a sample by `offset`, the callback by the address in its view.  These are computed
  in different ways and agree (`address_view`).  So what the device deposits in frame order is what
  the callback reads there, bit for bit (`loadSample_deposit`), and every byte of no sample that was
  deposited keeps its filling (`byte_deposit`).
-/
import PcmStream.SoftDevice.Period
import PcmStream.Proofs.View.Cells

namespace PcmStream

/-! ## Samples in a byte string -/

/-- The first `n` samples of a byte string. -/
def Sample.splitBytes (f : SampleFormat) : Nat → List UInt8 → List (Sample f)
  | 0, _ => []
  | n + 1, bytes => ofBytes f (bytes.take f.bytes) :: splitBytes f n (bytes.drop f.bytes)

@[simp] theorem Sample.length_splitBytes (f : SampleFormat) (n : Nat) (bytes : List UInt8) :
    (splitBytes f n bytes).length = n := by
  induction n generalizing bytes with
  | zero => rfl
  | succ n ih => rw [splitBytes, List.length_cons, ih]

/-- The `k`-th sample is that of the `k`-th group of bytes. -/
theorem Sample.getElem_splitBytes (f : SampleFormat) (n : Nat) (bytes : List UInt8) {k : Nat}
    (hk : k < (splitBytes f n bytes).length) :
    (splitBytes f n bytes)[k] = ofBytes f ((bytes.drop (k * f.bytes)).take f.bytes) := by
  induction n generalizing bytes k with
  | zero => cases hk
  | succ n ih =>
    cases k with
    | zero => rw [Nat.zero_mul, List.drop_zero]; rfl
    | succ k =>
      have hdrop : (bytes.drop f.bytes).drop (k * f.bytes) = bytes.drop ((k + 1) * f.bytes) := by
        rw [List.drop_drop, Nat.add_mul, Nat.one_mul, Nat.add_comm]
      rw [← hdrop]
      exact ih (bytes.drop f.bytes) (Nat.lt_of_succ_lt_succ hk)

/-- A group of bytes is stored unchanged. -/
theorem Sample.toBytes_take (f : SampleFormat) (bytes : List UInt8) (h : f.bytes ≤ bytes.length) :
    (ofBytes f (bytes.take f.bytes)).toBytes = bytes.take f.bytes := by
  refine toBytes_ofBytes _ ?_
  rw [List.length_take, Nat.min_eq_left h]

/-- Put together again, the samples of a byte string are its first bytes. -/
theorem Sample.flatMap_splitBytes (f : SampleFormat) (n : Nat) (bytes : List UInt8)
    (h : n * f.bytes ≤ bytes.length) :
    (splitBytes f n bytes).flatMap toBytes = bytes.take (n * f.bytes) := by
  induction n generalizing bytes with
  | zero => rw [Nat.zero_mul]; rfl
  | succ n ih =>
    rw [Nat.add_mul, Nat.one_mul] at h
    have hfirst := toBytes_take f bytes (by omega)
    have hrest : n * f.bytes ≤ (bytes.drop f.bytes).length := by
      rw [List.length_drop]
      omega
    rw [splitBytes, List.flatMap_cons, hfirst, ih _ hrest, Nat.add_mul, Nat.one_mul, Nat.add_comm,
      List.take_add]

namespace Period

variable {p : Period} {channel frame : Nat}

/-! ## Slots -/

/-- The place of a channel and frame among the samples of the buffer. -/
def slot (p : Period) (channel frame : Nat) : Nat :=
  if p.planar then channel * p.frames + frame else frame * p.channels + channel

theorem offset_eq (p : Period) (channel frame : Nat) :
    p.offset channel frame = p.slot channel frame * p.format.bytes := by
  rw [offset, slot]
  split <;> rfl

theorem slot_lt (hc : channel < p.channels) (hf : frame < p.frames) :
    p.slot channel frame < p.frames * p.channels := by
  rw [slot]
  split
  · rw [Nat.mul_comm p.frames]
    exact View.index_lt hf hc
  · exact View.index_lt hc hf

theorem slot_inj {channel' frame' : Nat} (hc : channel < p.channels) (hf : frame < p.frames)
    (hc' : channel' < p.channels) (hf' : frame' < p.frames)
    (h : p.slot channel frame = p.slot channel' frame') : channel = channel' ∧ frame = frame' := by
  simp only [slot] at h
  split at h
  · exact View.index_inj hf hf' h
  · exact (View.index_inj hc hc' h).symm

/-! ## The view over a period -/

@[simp] theorem frames_view (p : Period) : p.view.frames = p.frames := by
  rw [view]
  split <;> rfl

@[simp] theorem format_view (p : Period) : p.view.format = p.format := by
  rw [view]
  split <;> rfl

@[simp] theorem channels_view (p : Period) : p.view.channels = p.channels := by
  rw [view]
  split
  · show ((List.range p.channels).map _).length = p.channels
    rw [List.length_map, List.length_range]
  · rfl

/-- The areas of a planar period. -/
def areas (p : Period) : List ChannelArea :=
  (List.range p.channels).map fun c =>
    ⟨some (c * (p.frames * p.format.bytes)), p.format.bytes, p.frames * p.format.bytes⟩

theorem areaOf_areas (hc : channel < p.channels) :
    View.areaOf p.areas channel =
      ⟨some (channel * (p.frames * p.format.bytes)), p.format.bytes,
        p.frames * p.format.bytes⟩ := by
  rw [View.areaOf, areas, List.getD_eq_getElem?_getD, List.getElem?_map, List.getElem?_range hc]
  rfl

theorem view_planar (hp : p.planar = true) : p.view = .ofAreas p.areas p.frames p.format := by
  rw [view, hp]
  rfl

theorem view_interleaved (hp : p.planar = false) :
    p.view = .interleaved 0 p.frames p.channels p.format := by
  rw [view, hp]
  rfl

/-- Whatever the layout, the samples of the view in frame order are those of the period. -/
theorem cell_view (hc : channel < p.channels) (frame : Nat) :
    p.view.cell (frame * p.channels + channel) = p.view.address channel frame := by
  have h := p.view.cell_index (show channel < p.view.channels by rwa [channels_view]) frame
  rwa [channels_view] at h

/-- The callback finds a sample where the device does. -/
theorem address_view (hc : channel < p.channels) (frame : Nat) :
    p.view.address channel frame = p.offset channel frame := by
  cases hp : p.planar with
  | true =>
    rw [view_planar hp, offset, hp]
    show (View.areaOf p.areas channel).start + frame * (View.areaOf p.areas channel).step =
      (channel * p.frames + frame) * p.format.bytes
    rw [areaOf_areas hc, Nat.add_mul, Nat.mul_assoc]
    rfl
  | false =>
    rw [view_interleaved hp, offset, hp]
    show 0 + channel * p.format.bytes + frame * (p.channels * p.format.bytes) =
      (frame * p.channels + channel) * p.format.bytes
    rw [Nat.add_mul, Nat.mul_assoc]
    omega

theorem apart_view {channel' frame' : Nat} (hc : channel < p.channels) (hf : frame < p.frames)
    (hc' : channel' < p.channels) (hf' : frame' < p.frames) :
    (channel = channel' ∧ frame = frame') ∨
      View.Apart (p.view.address channel frame) p.format.bytes
        (p.view.address channel' frame') p.format.bytes := by
  by_cases heq : p.slot channel frame = p.slot channel' frame'
  · exact .inl (slot_inj hc hf hc' hf' heq)
  · rw [address_view hc, address_view hc', offset_eq, offset_eq]
    exact .inr (View.apart_of_ne _ heq)

/-- Every sample of a period lies in its buffer, and no two of them share a byte. -/
theorem fits (p : Period) : p.view.Fits (p.frames * p.channels * p.format.bytes) where
  inside channel hc frame hf := by
    rw [channels_view] at hc
    rw [frames_view] at hf
    have hle : (p.slot channel frame + 1) * p.format.bytes ≤
        p.frames * p.channels * p.format.bytes := Nat.mul_le_mul_right _ (slot_lt hc hf)
    rw [Nat.add_mul, Nat.one_mul] at hle
    rw [address_view hc, offset_eq, format_view]
    exact hle
  apart channel hc frame hf channel' hc' frame' hf' := by
    rw [channels_view] at hc hc'
    rw [frames_view] at hf hf'
    rw [format_view]
    exact apart_view hc hf hc' hf'

/-- The view over a period is sound. -/
theorem sound (p : Period) : p.view.Sound := by
  cases hp : p.planar with
  | false =>
    rw [view_interleaved hp]
    exact View.sound_interleaved ..
  | true =>
    have hareas : p.view.AreasSound p.areas := by
      refine ⟨?_, ?_, ?_, ?_⟩
      · rw [channels_view, areas, List.length_map, List.length_range]
      · intro channel hc frame hf
        rw [channels_view] at hc
        rw [frames_view] at hf
        rw [areaOf_areas hc, format_view]
        have hle : (frame + 1) * p.format.bytes ≤ p.frames * p.format.bytes :=
          Nat.mul_le_mul_right _ hf
        rwa [Nat.add_mul, Nat.one_mul] at hle
      · exact p.fits.apart
      · -- The areas follow each other, so a sample of another channel lies before or behind.
        intro channel hc channel' hc' frame' hf' hne _
        rw [channels_view] at hc hc'
        rw [frames_view] at hf'
        rw [areaOf_areas hc, address_view hc', offset_eq, format_view, slot, hp]
        show View.Apart (channel * (p.frames * p.format.bytes)) (p.frames * p.format.bytes)
          ((channel' * p.frames + frame') * p.format.bytes) p.format.bytes
        have hinside : (frame' + 1) * p.format.bytes ≤ p.frames * p.format.bytes :=
          Nat.mul_le_mul_right _ hf'
        have hapart := View.apart_of_ne (p.frames * p.format.bytes) hne
        rw [View.Apart] at hapart ⊢
        rw [Nat.add_mul, Nat.mul_assoc]
        rw [Nat.add_mul, Nat.one_mul] at hinside
        omega
    rw [View.Sound, view_planar hp]
    rw [view_planar hp] at hareas
    exact hareas

/-- Looking at a sample of a period, whatever its memory, is loading it from where the view has
it. -/
theorem sample?_eq {type : SampleFormat} (htype : type = p.format) (m : Memory)
    (hc : channel < p.channels) (hf : frame < p.frames) :
    ({ p with memory := m } : Period).sample? type channel frame =
      some (m.loadSample type (p.view.address channel frame)) := by
  rw [sample?, address_view hc, if_neg]
  · rfl
  · rintro (hformat | hchannel | hframe)
    · exact hformat htype
    · exact Nat.not_le_of_lt hc hchannel
    · exact Nat.not_le_of_lt hf hframe

/-! ## Deposits -/

/-- Depositing bytes stores the samples that they make up. -/
theorem deposit_eq (p : Period) (i n : Nat) (bytes : List UInt8)
    (hbytes : n * p.format.bytes ≤ bytes.length) (hin : i + n ≤ p.frames * p.channels) :
    p.deposit i n bytes =
      { p with memory := p.view.storeFrom i (Sample.splitBytes p.format n bytes) p.memory } := by
  induction n generalizing p i bytes with
  | zero => rfl
  | succ n ih =>
    rw [Nat.add_mul, Nat.one_mul] at hbytes
    have hplace := View.place_lt (show i < p.frames * p.channels by omega)
    have hcell : p.view.cell i = p.offset (i % p.channels) (i / p.channels) := by
      rw [View.cell, channels_view, address_view hplace.1]
    have hfirst := Sample.toBytes_take p.format bytes (by omega)
    -- The rest goes into the period that holds the first sample already.
    rw [deposit]
    rw [ih _ (i + 1) (bytes.drop p.format.bytes) (by
      rw [List.length_drop]
      show n * p.format.bytes ≤ bytes.length - p.format.bytes
      omega) (by
      show i + 1 + n ≤ p.frames * p.channels
      omega)]
    rw [Sample.splitBytes, View.storeFrom, Memory.storeSample, hfirst, hcell]
    rfl

/-- The first `k` frames of the period are those of a byte string, frame by frame and channel by
channel, and every byte of no sample among them is the filling. -/
structure Holds (p : Period) (bytes : List UInt8) (filling : UInt8) (k : Nat) : Prop where
  /-- The buffer has room for all frames and for nothing else. -/
  size_eq : p.memory.size = p.frames * p.channels * p.format.bytes
  /-- Through the view each sample reads as the bytes whose turn it is. -/
  reads : ∀ channel < p.channels, ∀ frame < k, ∃ s : Sample p.format,
    p.view.read p.memory p.format channel frame = .ok s ∧
      s.toBytes = (bytes.drop ((frame * p.channels + channel) * p.format.bytes)).take p.format.bytes
  /-- All other bytes are the filling. -/
  filled : ∀ a < p.memory.size, (∀ channel < p.channels, ∀ frame < k,
      a < p.view.address channel frame ∨ p.view.address channel frame + p.format.bytes ≤ a) →
    p.memory.byte a = filling

/-- The first frames of such a period are the samples that the bytes make up. -/
theorem Holds.firstFrames_eq {bytes : List UInt8} {filling : UInt8} {k : Nat}
    (h : p.Holds bytes filling k) :
    p.view.firstFrames p.memory p.format k =
      Sample.splitBytes p.format (k * p.channels) bytes := by
  rw [View.firstFrames_eq, channels_view]
  apply List.ext_getElem
  · rw [List.length_map, List.length_range, Sample.length_splitBytes]
  · intro i hi hi'
    rw [List.length_map, List.length_range] at hi
    obtain ⟨hchannel, hframe⟩ := View.place_lt hi
    obtain ⟨s, hread, hs⟩ := h.reads _ hchannel _ hframe
    rw [Nat.mul_comm (i / p.channels), Nat.div_add_mod] at hs
    rw [List.getElem_map, List.getElem_range, Sample.getElem_splitBytes, ← hs,
      Sample.ofBytes_toBytes, View.cell, channels_view]
    rw [View.read] at hread
    split at hread
    · exact Except.ok.inj hread
    · cases hread

/-- Their bytes are the first ones of the byte string. -/
theorem Holds.firstBytes_eq {bytes : List UInt8} {filling : UInt8} {k : Nat}
    (h : p.Holds bytes filling k) (hbytes : k * p.channels * p.format.bytes ≤ bytes.length) :
    (p.view.firstFrames p.memory p.format k).flatMap Sample.toBytes =
      bytes.take (k * p.channels * p.format.bytes) := by
  rw [h.firstFrames_eq, Sample.flatMap_splitBytes _ _ _ hbytes]

section Deposited

variable {k : Nat} {bytes : List UInt8}
  (hbytes : k * p.channels * p.format.bytes ≤ bytes.length) (hk : k ≤ p.frames)

include hbytes hk

/-- Depositing whole frames stores the samples that they make up. -/
theorem deposit_frames :
    p.deposit 0 (k * p.channels) bytes =
      { p with
        memory := p.view.storeFrom 0 (Sample.splitBytes p.format (k * p.channels) bytes)
          p.memory } := by
  refine p.deposit_eq 0 _ bytes hbytes ?_
  rw [Nat.zero_add]
  exact Nat.mul_le_mul_right _ hk

/-- The `i`-th sample deposited is the `i`-th one that the callback reads. -/
theorem loadSample_deposit (hsize : p.memory.size = p.frames * p.channels * p.format.bytes) {i : Nat}
    (hi : i < k * p.channels) :
    (p.deposit 0 (k * p.channels) bytes).memory.loadSample p.format (p.view.cell i) =
      Sample.ofBytes p.format ((bytes.drop (i * p.format.bytes)).take p.format.bytes) := by
  have hlength : 0 + (Sample.splitBytes p.format (k * p.channels) bytes).length ≤
      p.view.frames * p.view.channels := by
    rw [Sample.length_splitBytes, Nat.zero_add, frames_view, channels_view]
    exact Nat.mul_le_mul_right _ hk
  have hload := View.loadSample_storeFrom p.format_view.symm _ p.memory p.fits hsize hlength
    (k := i) (by rwa [Sample.length_splitBytes])
  rw [Nat.zero_add, Sample.getElem_splitBytes] at hload
  rw [deposit_frames hbytes hk]
  exact hload

/-- Every byte of no sample that was deposited is as before. -/
theorem byte_deposit {a : Nat}
    (ha : ∀ channel < p.channels, ∀ frame < k, a < p.view.address channel frame ∨
      p.view.address channel frame + p.format.bytes ≤ a) :
    (p.deposit 0 (k * p.channels) bytes).memory.byte a = p.memory.byte a := by
  rw [deposit_frames hbytes hk]
  refine View.byte_storeFrom p.format_view.symm _ p.memory fun i hi => ?_
  rw [Sample.length_splitBytes] at hi
  obtain ⟨hchannel, hframe⟩ := View.place_lt hi
  rw [Nat.zero_add, format_view, View.cell, channels_view]
  exact ha _ hchannel _ hframe

/-- So a period that was filled with one byte holds the frames deposited in it. -/
theorem holds_deposit {filling : UInt8}
    (hsize : p.memory.size = p.frames * p.channels * p.format.bytes)
    (hfilling : ∀ a < p.memory.size, p.memory.byte a = filling) :
    (p.deposit 0 (k * p.channels) bytes).Holds bytes filling k := by
  have hframes := deposit_frames hbytes hk
  have hmemory : (p.deposit 0 (k * p.channels) bytes).memory.size = p.memory.size := by
    rw [hframes]
    exact View.size_storeFrom ..
  have hload := fun (i : Nat) => loadSample_deposit hbytes hk hsize (i := i)
  have hbyte := fun (a : Nat) => byte_deposit hbytes hk (a := a)
  have hshape : p.deposit 0 (k * p.channels) bytes =
      { p with memory := (p.deposit 0 (k * p.channels) bytes).memory } := by
    rw [hframes]
  -- Only the memory is another one, so the view and the layout are those of `p`.
  generalize (p.deposit 0 (k * p.channels) bytes).memory = m at hmemory hload hbyte hshape
  rw [hshape]
  refine ⟨hmemory.trans hsize, ?_, ?_⟩
  · intro channel hc frame hf
    have hc' : channel < p.channels := hc
    have hindex := View.index_lt hc' hf
    have hend : (frame * p.channels + channel + 1) * p.format.bytes ≤
        k * p.channels * p.format.bytes := Nat.mul_le_mul_right _ hindex
    rw [Nat.add_mul _ 1, Nat.one_mul] at hend
    have hgroup : p.format.bytes ≤
        (bytes.drop ((frame * p.channels + channel) * p.format.bytes)).length := by
      rw [List.length_drop]
      omega
    refine ⟨_, ?_, Sample.toBytes_take p.format _ hgroup⟩
    have hcheck : p.view.check p.format channel frame = .ok () := by
      refine (View.check_eq_ok_iff ..).mpr ⟨p.format_view.symm, ?_, ?_⟩
      · rwa [channels_view]
      · rw [frames_view]
        omega
    show p.view.read m p.format channel frame = _
    rw [View.read_of_check m hcheck, ← cell_view hc', hload _ hindex]
  · intro a ha houtside
    have ha' : a < p.memory.size := by rwa [← hmemory]
    show m.byte a = filling
    rw [hbyte a houtside, hfilling a ha']

end Deposited

/-! ## Blank periods -/

theorem size_blank (frames : Nat) (config : StreamConfig) (planar : Bool) (b : UInt8) :
    (blank frames config planar b).memory.size =
      frames * config.channels * config.format.bytes := by
  show (Array.replicate _ b).size = _
  rw [Array.size_replicate]

theorem byte_blank {frames : Nat} {config : StreamConfig} {planar : Bool} {b : UInt8} {a : Nat}
    (h : a < (blank frames config planar b).memory.size) :
    (blank frames config planar b).memory.byte a = b := by
  rw [size_blank] at h
  show (Array.replicate _ b).getD a 0 = b
  simp [Array.getD_eq_getD_getElem?, h]

end Period

/-! ## The period of a tick -/

namespace SoftDevice

/-- A tick makes a period and has the callback process it. -/
theorem exists_of_tick {d : SoftDevice} {frames : Nat} {time : Timestamp} {context : Context}
    {t : Ticked} (h : d.tick frames time context = some t) :
    ∃ c, d.running = true ∧ d.callback = some c ∧
      let made := d.makePeriod c frames
      let p := c.process made.1.view made.1.memory time context
      t = ⟨{ made.1 with memory := p.memory },
        { d with callback := some p.callback, input := made.2 }, p.context, p.record⟩ := by
  rw [tick] at h
  split at h
  · next c hr hc =>
    cases h
    exact ⟨c, hr, hc, rfl⟩
  · cases h

/-- The period of an output callback is blank. -/
theorem makePeriod_output (d : SoftDevice) {c : Callback} (hc : c.direction = .output)
    (frames : Nat) :
    d.makePeriod c frames =
      (.blank frames c.config d.capabilities.planar garbage, d.input) := by
  have htaken : d.takenFrames c frames = 0 := by
    rw [takenFrames, hc]
    rfl
  have hfiller : filler c = garbage := by
    rw [filler, hc]
    rfl
  rw [makePeriod, htaken, hfiller, Nat.zero_mul, Nat.zero_mul, List.drop_zero]
  rfl

/-- The period of an input callback holds as many whole frames of the waiting input as it has room
for, and these are off the input then. -/
theorem makePeriod_input (d : SoftDevice) {c : Callback} (hc : c.direction = .input)
    (frames : Nat) :
    let k := min frames (d.input.length / c.config.frameBytes)
    let made := d.makePeriod c frames
    made.2 = d.input.drop (k * c.config.frameBytes) ∧
    made.1.frames = frames ∧ made.1.channels = c.config.channels ∧
    made.1.format = c.config.format ∧
    made.1.Holds d.input (if c.preclear then 0 else garbage) k := by
  intro k made
  let blank := Period.blank frames c.config d.capabilities.planar (filler c)
  have htaken : d.takenFrames c frames = k := by rw [takenFrames, if_pos hc]
  have hmade : made = (blank.deposit 0 (k * blank.channels) d.input,
      d.input.drop (k * c.config.frameBytes)) := by
    show d.makePeriod c frames = _
    rw [makePeriod, htaken]
    rfl
  have hfiller : filler c = if c.preclear then 0 else garbage := by
    rw [filler]
    simp only [hc, true_and]
  have hk : k ≤ blank.frames := Nat.min_le_left ..
  have hbytes : k * blank.channels * blank.format.bytes ≤ d.input.length := by
    rw [Nat.mul_assoc]
    exact Nat.mul_le_of_le_div _ _ _ (Nat.min_le_right ..)
  have hsize := Period.size_blank frames c.config d.capabilities.planar (filler c)
  have hholds := Period.holds_deposit hbytes hk hsize fun a ha => Period.byte_blank ha
  have hframes := Period.deposit_frames hbytes hk
  rw [hmade]
  refine ⟨rfl, congrArg Period.frames hframes, congrArg Period.channels hframes,
    congrArg Period.format hframes, ?_⟩
  rw [← hfiller]
  exact hholds

end SoftDevice

end PcmStream
