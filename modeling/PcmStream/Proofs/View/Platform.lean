/-
  Views over the buffer lists of a platform: in bounds, and as large as they can be.

  A lone buffer is interleaved, and several buffers hold one channel each.  The two cases clamp,
  lay out and fix up differently, but promise the same.

  1. `View.InBounds` — every sample lies inside of one of the buffers in use, no two samples share a
     byte, and silencing the view touches nothing outside of these buffers.
  2. `PlatformBuffer.Room` — so many frames fit; the view has the largest such number up to the one
     asked for.
  3. `PlatformBuffer.FilledIn` — what happens to the channel counts.

  The crux is that cutting down the number of frames finds the largest one that fits
  (`le_fitting_iff`).  From there a view declares bytes of its buffers only, and whatever is read,
  written or silenced through it is inside of what it declares.
-/
import PcmStream.Proofs.View.Cells
import PcmStream.Proofs.View.Tail
import PcmStream.View.Platform

namespace PcmStream

/-! ## Buffers -/

namespace PlatformBuffer

/-- Whether an address is that of a byte of the buffer. -/
def Covers (b : PlatformBuffer) (j : Nat) : Prop := b.start ≤ j ∧ j < b.start + b.size

/-- Buffers that lie in memory of their own. -/
def Separate (buffers : List PlatformBuffer) : Prop :=
  buffers.Pairwise fun b b' => ∀ j, b.Covers j → ¬ b'.Covers j

/-- The buffers in use for so many channels: a lone one anyway, and of several the first ones, one
for each channel. -/
def inUse (channels : Nat) : List PlatformBuffer → List PlatformBuffer
  | [b] => [b]
  | buffers => buffers.take channels

/-- How many channels are mapped: those of a lone buffer, once they are filled in with `count`, or
one for each buffer in use. -/
def width (count channels : Nat) : List PlatformBuffer → Nat
  | [b] => if b.channels = 0 then count else b.channels
  | buffers => (inUse channels buffers).length

/-- Whether so many frames fit: interleaved into a lone buffer, where a frame is `width` samples
wide, or one channel each into the first of several. -/
def Room (format : SampleFormat) (width channels frames : Nat) : List PlatformBuffer → Prop
  | [b] => frames * width * format.bytes ≤ b.size
  | buffers => ∀ b ∈ buffers.take (min channels buffers.length), frames * format.bytes ≤ b.size

/-- Whether the channel counts that are missing from buffers in use are filled in, with `count` in a
lone buffer and with 1 in each of several, and nothing else is changed. -/
def FilledIn (count channels : Nat) (before after : List PlatformBuffer) : Prop :=
  after.length = before.length ∧
    ∀ i b b', before[i]? = some b → after[i]? = some b' →
      b'.start = b.start ∧ b'.size = b.size ∧
        b'.channels =
          if b.channels = 0 ∧ i < (inUse channels before).length then
            if before.length = 1 then count else 1
          else b.channels

@[simp] theorem start_withChannels (b : PlatformBuffer) (n : Nat) :
    (b.withChannels n).start = b.start := by
  unfold withChannels
  split <;> rfl

@[simp] theorem size_withChannels (b : PlatformBuffer) (n : Nat) :
    (b.withChannels n).size = b.size := by
  unfold withChannels
  split <;> rfl

theorem channels_withChannels (b : PlatformBuffer) (n : Nat) :
    (b.withChannels n).channels = if b.channels = 0 then n else b.channels := by
  unfold withChannels
  split <;> rfl

/-- What was filled in once is not filled in again. -/
@[simp] theorem withChannels_withChannels (b : PlatformBuffer) (n : Nat) :
    (b.withChannels n).withChannels n = b.withChannels n := by
  by_cases h : (b.withChannels n).channels = 0
  · -- Only zero was there to be filled in.
    obtain ⟨start, size, count⟩ := b
    rw [channels_withChannels] at h
    unfold withChannels
    split at h <;> simp_all
  · rw [withChannels, if_neg h]

@[simp] theorem area_withChannels (b : PlatformBuffer) (n : Nat) (format : SampleFormat) :
    (b.withChannels n).area format = b.area format := by
  unfold area
  rw [start_withChannels, size_withChannels]

/-- No byte belongs to two buffers at different places of a list. -/
theorem Separate.disjoint {buffers : List PlatformBuffer} (h : Separate buffers) {i k : Nat}
    (hi : i < buffers.length) (hk : k < buffers.length) (hne : i ≠ k) {j : Nat}
    (hj : buffers[i].Covers j) : ¬ buffers[k].Covers j := by
  rw [Separate, List.pairwise_iff_getElem] at h
  rcases Nat.lt_or_gt_of_ne hne with hlt | hgt
  · exact h i k hi hk hlt j hj
  · exact fun hj' => h k i hk hi hgt j hj' hj

/-- The frames that fit into several buffers, up to a number of them. -/
def fitting (format : SampleFormat) (frames : Nat) (buffers : List PlatformBuffer) : Nat :=
  buffers.foldl (fun n b => min n (b.size / format.bytes)) frames

/-- It is the largest number that does not exceed `frames` and fits into every buffer. -/
theorem le_fitting_iff (format : SampleFormat) (frames : Nat) (buffers : List PlatformBuffer)
    (n : Nat) :
    n ≤ fitting format frames buffers ↔
      n ≤ frames ∧ ∀ b ∈ buffers, n * format.bytes ≤ b.size := by
  induction buffers generalizing frames with
  | nil => exact ⟨fun h => ⟨h, nofun⟩, fun h => h.1⟩
  | cons b buffers ih =>
    show n ≤ fitting format (min frames (b.size / format.bytes)) buffers ↔ _
    rw [ih, Nat.le_min, Nat.le_div_iff_mul_le format.bytes_pos, List.forall_mem_cons, and_assoc]

end PlatformBuffer

open PlatformBuffer

/-! ## Views inside of buffers -/

namespace View

/-- A view that stays inside of the buffers that it is laid over. -/
structure InBounds (v : View) (buffers : List PlatformBuffer) : Prop where
  /-- Every sample lies inside of one buffer. -/
  inside : ∀ channel < v.channels, ∀ frame < v.frames, ∃ b ∈ buffers,
    b.start ≤ v.address channel frame ∧
      v.address channel frame + v.format.bytes ≤ b.start + b.size
  /-- No two samples share a byte. -/
  apart : ∀ channel < v.channels, ∀ frame < v.frames,
    ∀ channel' < v.channels, ∀ frame' < v.frames, (channel = channel' ∧ frame = frame') ∨
    Apart (v.address channel frame) v.format.bytes (v.address channel' frame') v.format.bytes
  /-- Silencing all of it touches no byte outside. -/
  silence : ∀ (m : Memory) j, (∀ b ∈ buffers, ¬ b.Covers j) → (v.silence m).byte j = m.byte j
  /-- Nor does silencing it from some frame on. -/
  silenceFrom : ∀ (m : Memory) k j, (∀ b ∈ buffers, ¬ b.Covers j) →
    (v.silenceFrom m k).byte j = m.byte j
  /-- It keeps what the maker of a view promises. -/
  sound : v.Sound

/-- A view that declares bytes of its buffers only is not silenced outside of them. -/
theorem InBounds.of_declared {v : View} {buffers : List PlatformBuffer}
    (hinside : ∀ channel < v.channels, ∀ frame < v.frames, ∃ b ∈ buffers,
      b.start ≤ v.address channel frame ∧
        v.address channel frame + v.format.bytes ≤ b.start + b.size)
    (hapart : ∀ channel < v.channels, ∀ frame < v.frames,
      ∀ channel' < v.channels, ∀ frame' < v.frames, (channel = channel' ∧ frame = frame') ∨
      Apart (v.address channel frame) v.format.bytes (v.address channel' frame') v.format.bytes)
    (hdeclared : ∀ j, v.Declared j → ∃ b ∈ buffers, b.Covers j) (hsound : v.Sound) :
    v.InBounds buffers := by
  have houtside : ∀ j, (∀ b ∈ buffers, ¬ b.Covers j) → ¬ v.Declared j := by
    intro j hj hd
    obtain ⟨b, hb, hcovers⟩ := hdeclared j hd
    exact hj b hb hcovers
  refine ⟨hinside, hapart, ?_, ?_, hsound⟩
  · intro m j hj
    exact (v.zeroed_declared m).outside j (houtside j hj)
  · intro m k j hj
    exact (v.zeroed_silenceFrom m k).outside j fun hs => houtside j hj (hs.declared hsound.covered)

/-- Interleaved frames that fit into a buffer stay inside of it. -/
theorem inBounds_interleaved (b : PlatformBuffer) (format : SampleFormat) {frames channels : Nat}
    (h : frames * channels * format.bytes ≤ b.size) :
    (interleaved b.start frames channels format).InBounds [b] := by
  have hfits := fits_interleaved b.start frames channels format
  refine .of_declared ?_ hfits.apart ?_ (sound_interleaved ..)
  · intro channel hc frame hf
    have hend := hfits.inside channel hc frame hf
    refine ⟨b, List.mem_singleton_self b, ?_, by omega⟩
    show b.start ≤ b.start + channel * format.bytes + frame * (channels * format.bytes)
    omega
  · rintro j ⟨hlo, hhi⟩
    exact ⟨b, List.mem_singleton_self b, hlo, by omega⟩

section Several

variable {used : List PlatformBuffer} {format : SampleFormat} {frames channel : Nat}

theorem areaOf_buffers (h : channel < used.length) :
    areaOf (used.map (·.area format)) channel = used[channel].area format := by
  rw [areaOf, List.getD_eq_getElem?_getD, List.getElem?_map, List.getElem?_eq_getElem h]
  rfl

theorem address_buffers (h : channel < used.length) (frame : Nat) :
    (ofAreas (used.map (·.area format)) frames format).address channel frame =
      used[channel].start + frame * format.bytes := by
  show (areaOf (used.map (·.area format)) channel).start +
    frame * (areaOf (used.map (·.area format)) channel).step = _
  rw [areaOf_buffers h]
  rfl

/-- A sample of a frame that fits lies inside of the buffer of its channel. -/
theorem covered_of_fits (hroom : ∀ b ∈ used, frames * format.bytes ≤ b.size)
    (hc : channel < used.length) {frame : Nat} (hf : frame < frames) :
    frame * format.bytes + format.bytes ≤ used[channel].size := by
  have hnext : (frame + 1) * format.bytes ≤ frames * format.bytes := Nat.mul_le_mul_right _ hf
  have hsize := hroom _ (List.getElem_mem hc)
  rw [Nat.add_mul, Nat.one_mul] at hnext
  omega

/-- Ranges of bytes are apart if they have no byte in common and neither is empty. -/
theorem apart_of_disjoint {start length start' length' : Nat} (h : 0 < length) (h' : 0 < length')
    (hdisjoint : ∀ j, start ≤ j ∧ j < start + length → ¬ (start' ≤ j ∧ j < start' + length')) :
    Apart start length start' length' := by
  have hlater := hdisjoint (max start start')
  rw [Apart]
  omega

/-- A buffer has no byte in common with a sample in another one. -/
theorem apart_other_sample (hseparate : Separate used)
    (hroom : ∀ b ∈ used, frames * format.bytes ≤ b.size) (hc : channel < used.length)
    {channel' : Nat} (hc' : channel' < used.length) (hne : channel ≠ channel') {frame : Nat}
    (hf : frame < frames) :
    Apart used[channel].start used[channel].size
      (used[channel'].start + frame * format.bytes) format.bytes := by
  have hbytes := format.bytes_pos
  have hfirst := covered_of_fits hroom hc hf
  have hin := covered_of_fits hroom hc' hf
  refine apart_of_disjoint (by omega) hbytes fun j hj hj' => ?_
  exact hseparate.disjoint hc hc' hne hj ⟨by omega, by omega⟩

/-- One channel in each buffer: no two samples share a byte. -/
theorem samples_apart_buffers (hseparate : Separate used)
    (hroom : ∀ b ∈ used, frames * format.bytes ≤ b.size) (hc : channel < used.length)
    {channel' : Nat} (hc' : channel' < used.length) {frame frame' : Nat} (hf : frame < frames)
    (hf' : frame' < frames) :
    (channel = channel' ∧ frame = frame') ∨
      Apart (used[channel].start + frame * format.bytes) format.bytes
        (used[channel'].start + frame' * format.bytes) format.bytes := by
  by_cases hchannel : channel = channel'
  · subst hchannel
    by_cases hframe : frame = frame'
    · exact .inl ⟨rfl, hframe⟩
    · -- In one buffer the samples are packed.
      have hapart := apart_of_ne format.bytes hframe
      right
      rw [Apart] at hapart ⊢
      omega
  · -- The sample is a part of its buffer.
    have hapart := apart_other_sample hseparate hroom hc hc' hchannel hf'
    have hin := covered_of_fits hroom hc hf
    right
    rw [Apart] at hapart ⊢
    omega

theorem areasSound_buffers (hseparate : Separate used)
    (hroom : ∀ b ∈ used, frames * format.bytes ≤ b.size) :
    (ofAreas (used.map (·.area format)) frames format).AreasSound (used.map (·.area format)) := by
  have hlength : (ofAreas (used.map (·.area format)) frames format).channels = used.length :=
    List.length_map ..
  refine ⟨hlength.symm ▸ List.length_map .., ?_, ?_, ?_⟩
  · intro channel hc frame hf
    rw [hlength] at hc
    rw [areaOf_buffers hc]
    exact covered_of_fits hroom hc hf
  · intro channel hc frame hf channel' hc' frame' hf'
    rw [hlength] at hc hc'
    rw [address_buffers hc, address_buffers hc']
    exact samples_apart_buffers hseparate hroom hc hc' hf hf'
  · intro channel hc channel' hc' frame' hf' hne _
    rw [hlength] at hc hc'
    rw [areaOf_buffers hc, address_buffers hc']
    exact apart_other_sample hseparate hroom hc hc' hne hf'

/-- Frames that fit into several buffers of their own, one channel each, stay inside of them. -/
theorem inBounds_buffers (hseparate : Separate used)
    (hroom : ∀ b ∈ used, frames * format.bytes ≤ b.size) :
    (ofAreas (used.map (·.area format)) frames format).InBounds used := by
  have hsound := areasSound_buffers hseparate hroom
  refine .of_declared ?_ hsound.cells_apart ?_ hsound
  · intro channel hc frame hf
    have hlt : channel < used.length := by
      rw [← hsound.length_eq, List.length_map] at hc
      exact hc
    have hin := covered_of_fits hroom hlt hf
    refine ⟨used[channel], List.getElem_mem hlt, ?_⟩
    rw [address_buffers hlt]
    refine ⟨Nat.le_add_right .., ?_⟩
    show _ + format.bytes ≤ _
    omega
  · rintro j ⟨a, ha, hlo, hhi⟩
    obtain ⟨b, hb, rfl⟩ := List.mem_map.mp ha
    exact ⟨b, hb, hlo, hhi⟩

end Several

end View

/-! ## Mapped views -/

namespace Mapping

variable {buffers : List PlatformBuffer} {areas : List ChannelArea} {frames channels n : Nat}
  {format : SampleFormat} {view : View}

/-- A lone buffer is mapped to as many channels as it has, once these are filled in. -/
theorem ofBuffers_lone {b : PlatformBuffer} {count : Nat}
    (hcount : (b.withChannels (min channels maxChannelCount)).channels = count) :
    ofBuffers [b] areas frames channels format =
      { view := some (.interleaved b.start (min frames (b.size / (count * format.bytes))) count
          format)
        buffers := [b.withChannels (min channels maxChannelCount)]
        areas := areas } := by
  subst hcount
  simp only [ofBuffers, start_withChannels, size_withChannels]

/-- Several buffers are mapped to one channel each, as far as channels are asked for. -/
theorem ofBuffers_several (h : 2 ≤ buffers.length) :
    ofBuffers buffers areas frames channels format =
      { view := some (.ofAreas ((buffers.take channels).map (·.area format))
          (fitting format frames (buffers.take channels)) format)
        buffers := (buffers.take channels).map (·.withChannels 1) ++ buffers.drop channels
        areas := (buffers.take channels).map (·.area format) } := by
  obtain ⟨b, b', rest, rfl⟩ : ∃ b b' rest, buffers = b :: b' :: rest := by
    match buffers, h with
    | b :: b' :: rest, _ => exact ⟨b, b', rest, rfl⟩
  simp only [ofBuffers, fitting, List.map_map, List.foldl_map, Function.comp_def,
    area_withChannels, size_withChannels]

theorem inUse_several (h : 2 ≤ buffers.length) : inUse channels buffers = buffers.take channels := by
  match buffers, h with
  | b :: b' :: rest, _ => rfl

theorem room_several {width : Nat} (h : 2 ≤ buffers.length) :
    Room format width channels n buffers ↔
      ∀ b ∈ buffers.take channels, n * format.bytes ≤ b.size := by
  rw [List.take_eq_take_min]
  match buffers, h with
  | b :: b' :: rest, _ => exact Iff.rfl

/-- A list of buffers is empty, or there is one, or there are several. -/
theorem buffers_cases (buffers : List PlatformBuffer) :
    buffers = [] ∨ (∃ b, buffers = [b]) ∨ 2 ≤ buffers.length := by
  match buffers with
  | [] => exact .inl rfl
  | [b] => exact .inr (.inl ⟨b, rfl⟩)
  | b :: b' :: rest => exact .inr (.inr (Nat.le_add_left ..))

/-- There is a view unless there are no buffers. -/
theorem view_eq_none_iff :
    (ofBuffers buffers areas frames channels format).view = none ↔ buffers = [] := by
  rcases buffers_cases buffers with rfl | ⟨b, rfl⟩ | h
  · exact ⟨fun _ => rfl, fun _ => rfl⟩
  · exact ⟨nofun, nofun⟩
  · rw [ofBuffers_several h]
    refine ⟨nofun, ?_⟩
    rintro rfl
    cases h

theorem format_of_mapped (hview : (ofBuffers buffers areas frames channels format).view = some view) :
    view.format = format := by
  rcases buffers_cases buffers with rfl | ⟨b, rfl⟩ | h
  · cases hview
  · cases hview
    rfl
  · rw [ofBuffers_several h] at hview
    cases hview
    rfl

theorem channels_of_mapped
    (hview : (ofBuffers buffers areas frames channels format).view = some view) :
    view.channels = width (min channels maxChannelCount) channels buffers := by
  rcases buffers_cases buffers with rfl | ⟨b, rfl⟩ | h
  · cases hview
  · rw [ofBuffers_lone rfl] at hview
    cases hview
    exact channels_withChannels ..
  · rw [ofBuffers_several h] at hview
    cases hview
    match buffers, h with
    | b :: b' :: rest, _ => exact List.length_map ..

/-- A mapped view stays inside of the buffers in use. -/
theorem inBounds_of_mapped (hseparate : Separate buffers)
    (hview : (ofBuffers buffers areas frames channels format).view = some view) :
    view.InBounds (inUse channels buffers) := by
  rcases buffers_cases buffers with rfl | ⟨b, rfl⟩ | h
  · cases hview
  · obtain ⟨count, hcount⟩ : ∃ count, (b.withChannels (min channels maxChannelCount)).channels =
      count := ⟨_, rfl⟩
    rw [ofBuffers_lone hcount] at hview
    cases hview
    -- A quotient times its divisor fits, even if the divisor is zero.
    have hroom : min frames (b.size / (count * format.bytes)) * count * format.bytes ≤ b.size := by
      rw [Nat.mul_assoc]
      exact Nat.le_trans (Nat.mul_le_mul_right _ (Nat.min_le_right ..)) (Nat.div_mul_le_self ..)
    exact View.inBounds_interleaved b format hroom
  · rw [ofBuffers_several h] at hview
    cases hview
    rw [inUse_several h]
    exact View.inBounds_buffers (hseparate.sublist (List.take_sublist ..))
      ((le_fitting_iff ..).mp (Nat.le_refl _)).2

/-- Its frames are the largest number that does not exceed the one asked for and fits. -/
theorem le_frames_iff (hview : (ofBuffers buffers areas frames channels format).view = some view)
    (hchannels : 0 < view.channels) :
    n ≤ view.frames ↔ n ≤ frames ∧ Room format view.channels channels n buffers := by
  rcases buffers_cases buffers with rfl | ⟨b, rfl⟩ | h
  · cases hview
  · obtain ⟨count, hcount⟩ : ∃ count, (b.withChannels (min channels maxChannelCount)).channels =
      count := ⟨_, rfl⟩
    rw [ofBuffers_lone hcount] at hview
    cases hview
    have hbytes : 0 < count * format.bytes := Nat.mul_pos hchannels format.bytes_pos
    show n ≤ min frames (b.size / (count * format.bytes)) ↔
      n ≤ frames ∧ n * count * format.bytes ≤ b.size
    rw [Nat.le_min, Nat.le_div_iff_mul_le hbytes, Nat.mul_assoc]
  · rw [ofBuffers_several h] at hview
    cases hview
    rw [room_several h]
    exact le_fitting_iff ..

/-- A mapping of several buffers changes the first of them one by one. -/
theorem getElem?_filled (f : PlatformBuffer → PlatformBuffer) (i : Nat) :
    ((buffers.take n).map f ++ buffers.drop n)[i]? =
      buffers[i]?.map fun b => if i < n then f b else b := by
  grind

theorem take_filled (f : PlatformBuffer → PlatformBuffer) :
    ((buffers.take n).map f ++ buffers.drop n).take n = (buffers.take n).map f := by
  apply List.ext_getElem?
  intro i
  rw [List.getElem?_take, getElem?_filled]
  grind

theorem drop_filled (f : PlatformBuffer → PlatformBuffer) :
    ((buffers.take n).map f ++ buffers.drop n).drop n = buffers.drop n := by
  apply List.ext_getElem?
  intro i
  rw [List.getElem?_drop, getElem?_filled]
  grind

/-- Missing channel counts of buffers in use are filled in, and nothing else is changed. -/
theorem filledIn_of_mapped :
    FilledIn (min channels maxChannelCount) channels buffers
      (ofBuffers buffers areas frames channels format).buffers := by
  rcases buffers_cases buffers with rfl | ⟨b, rfl⟩ | h
  · exact ⟨rfl, nofun⟩
  · rw [ofBuffers_lone rfl]
    refine ⟨rfl, fun i c c' hc hc' => ?_⟩
    cases i with
    | succ i => cases hc
    | zero =>
      cases hc
      cases hc'
      refine ⟨start_withChannels .., size_withChannels .., ?_⟩
      rw [channels_withChannels]
      simp [inUse]
  · rw [ofBuffers_several h]
    refine ⟨?_, fun i c c' hc hc' => ?_⟩
    · rw [List.length_append, List.length_map, ← List.length_append, List.take_append_drop]
    · rw [getElem?_filled, hc] at hc'
      cases hc'
      have hi := (List.getElem?_eq_some_iff.mp hc).1
      have hused : i < (inUse channels buffers).length ↔ i < channels := by
        rw [inUse_several h, List.length_take]
        omega
      simp only [hused, if_neg (show buffers.length ≠ 1 by omega)]
      by_cases hlt : i < channels
      · simp only [hlt, if_true, and_true]
        exact ⟨start_withChannels .., size_withChannels .., channels_withChannels ..⟩
      · simp only [hlt, if_false, and_false, and_self]

/-- Mapping the buffers again gives the same view, and changes nothing more. -/
theorem ofBuffers_again (stale : List ChannelArea) :
    let mapping := ofBuffers buffers areas frames channels format
    let again := ofBuffers mapping.buffers stale frames channels format
    again.view = mapping.view ∧ again.buffers = mapping.buffers := by
  intro mapping again
  rcases buffers_cases buffers with rfl | ⟨b, rfl⟩ | h
  · exact ⟨rfl, rfl⟩
  · have hmapping : mapping = _ := ofBuffers_lone rfl
    have hagain : again = ofBuffers mapping.buffers stale frames channels format := rfl
    rw [hagain, hmapping, ofBuffers_lone rfl, withChannels_withChannels, start_withChannels,
      size_withChannels]
    exact ⟨rfl, rfl⟩
  · have hmapping : mapping = _ := ofBuffers_several h
    have hagain : again = ofBuffers mapping.buffers stale frames channels format := rfl
    have hlength : mapping.buffers.length = buffers.length := by
      rw [hmapping, List.length_append, List.length_map, ← List.length_append,
        List.take_append_drop]
    rw [hagain, ofBuffers_several (hlength.symm ▸ h), hmapping, take_filled, drop_filled]
    -- Filling in changes neither where a buffer is nor how large it is.
    simp only [fitting, List.map_map, List.foldl_map, Function.comp_def, area_withChannels,
      size_withChannels, withChannels_withChannels, and_self]

/-- A mapping gives a view that stays inside of its buffers and has as many frames as fit, and fills
in the channel counts that are missing; mapping the same buffers again gives the same. -/
theorem ofBuffers_fits (hseparate : Separate buffers) :
    let count := min channels maxChannelCount
    let mapping := ofBuffers buffers areas frames channels format
    (mapping.view = none ↔ buffers = []) ∧
    (∀ view, mapping.view = some view →
      view.format = format ∧ view.channels = width count channels buffers ∧
      view.InBounds (inUse channels buffers) ∧
      (0 < view.channels → view.frames ≤ frames ∧
        Room format view.channels channels view.frames buffers ∧
        ∀ n ≤ frames, Room format view.channels channels n buffers → n ≤ view.frames)) ∧
    FilledIn count channels buffers mapping.buffers ∧
    ∀ stale, (ofBuffers mapping.buffers stale frames channels format).view = mapping.view ∧
      (ofBuffers mapping.buffers stale frames channels format).buffers = mapping.buffers := by
  intro count mapping
  refine ⟨view_eq_none_iff, fun view hview => ?_, filledIn_of_mapped, ofBuffers_again⟩
  refine ⟨format_of_mapped hview, channels_of_mapped hview, inBounds_of_mapped hseparate hview, ?_⟩
  intro hchannels
  obtain ⟨hle, hroom⟩ := (le_frames_iff hview hchannels).mp (Nat.le_refl _)
  exact ⟨hle, hroom, fun n hn h => (le_frames_iff hview hchannels).mpr ⟨hn, h⟩⟩

/-- Three buffers of odd sizes, one of them with a count of its own, of which two are used. -/
def oddBuffers : List PlatformBuffer := [⟨0, 9, 0⟩, ⟨20, 7, 5⟩, ⟨10, 8, 0⟩]

/-- Three frames fit into the shorter of the two, and the third buffer keeps its zero. -/
theorem oddBuffers_fit :
    let mapping := ofBuffers oddBuffers [] 4 2 .i16
    (∃ view, mapping.view = some view ∧ view.frames = 3 ∧ 0 < view.channels ∧
      view.InBounds (inUse 2 oddBuffers)) ∧
    mapping.buffers.map PlatformBuffer.channels = [1, 5, 0] ∧
    FilledIn 2 2 oddBuffers mapping.buffers := by
  have hseparate : Separate oddBuffers := by
    simp only [oddBuffers, Separate, Covers, List.pairwise_cons, List.forall_mem_cons]
    refine ⟨⟨?_, ?_, nofun⟩, ⟨?_, nofun⟩, nofun, .nil⟩ <;> intro j h h' <;> omega
  obtain ⟨-, hviews, hfilled, -⟩ := @ofBuffers_fits oddBuffers [] 4 2 .i16 hseparate
  exact ⟨⟨_, rfl, by decide, by decide, (hviews _ rfl).2.2.1⟩, by decide, hfilled⟩

/-- A count that a buffer cannot hold is not what is filled in. -/
theorem not_filledIn_of_large :
    ¬ FilledIn (maxChannelCount + 1) (maxChannelCount + 1) [⟨0, 0, 0⟩]
      (ofBuffers [⟨0, 0, 0⟩] [] 3 (maxChannelCount + 1) .i8).buffers := by
  rintro ⟨-, h⟩
  have hcount := (h 0 _ _ rfl rfl).2.2
  exact absurd hcount (by decide)

end Mapping

end PcmStream
