/-
  Software devices that differ in the layout of their periods.

  A device hands its callbacks planar or interleaved periods, and nothing else about it depends on
  which.  `SoftDevice.Alike` relates two devices that differ in this alone, and whose callback, if
  they have one, does not look at the layout.  It is a simulation (`simulation`), so whatever a
  stream does with one of them it does with the other.

  Time passes alike for them, too (`Alike.tick`).  The two periods are made from the same samples
  (`makePeriod_alike`), the callback processes them alike, and it leaves the same samples in both.
  `Period.Alike` says so in the terms of whoever looks at a period: what can be looked at is the
  same, and the bytes are the same up to their order.
-/
import PcmStream.Proofs.Callback.Layouts
import PcmStream.Proofs.SoftDevice.Period
import PcmStream.Proofs.SoftDevice.LockStep
import PcmStream.Proofs.SoftDevice.Negotiated
import PcmStream.Proofs.Device.Simulation

namespace PcmStream

/-! ## Periods -/

namespace Period

/-- Looking at a sample of a period is reading it through the view. -/
theorem sample?_eq_read (p : Period) (type : SampleFormat) (channel frame : Nat) :
    p.sample? type channel frame = (p.view.read p.memory type channel frame).toOption := by
  by_cases hin : type = p.format ∧ channel < p.channels ∧ frame < p.frames
  · obtain ⟨htype, hc, hf⟩ := hin
    have hcheck : p.view.check type channel frame = .ok () := by
      rw [View.check_eq_ok_iff, format_view, channels_view, frames_view]
      exact ⟨htype, hc, hf⟩
    rw [View.read_of_check _ hcheck]
    exact sample?_eq htype p.memory hc hf
  · have hout : type ≠ p.format ∨ p.channels ≤ channel ∨ p.frames ≤ frame := by
      by_cases htype : type = p.format
      · have hplace : ¬ (channel < p.channels ∧ frame < p.frames) := fun h => hin ⟨htype, h⟩
        omega
      · exact .inl htype
    rw [sample?, if_pos hout]
    cases hcheck : p.view.check type channel frame with
    | error e => rw [View.read, hcheck]; rfl
    | ok =>
      rw [View.check_eq_ok_iff, format_view, channels_view, frames_view] at hcheck
      exact absurd hcheck hin

/-- Two periods that hold the same samples, each in its own layout. -/
structure Alike (p p' : Period) : Prop where
  /-- The numbers of frames are the same. -/
  frames_eq : p.frames = p'.frames
  /-- So are those of channels. -/
  channels_eq : p.channels = p'.channels
  /-- And the formats. -/
  format_eq : p.format = p'.format
  /-- The first has the bytes of its samples and no others. -/
  size_eq : p.memory.size = p.frames * p.channels * p.format.bytes
  /-- So has the second. -/
  size_eq' : p'.memory.size = p.frames * p.channels * p.format.bytes
  /-- The bytes of a channel and frame are the same, wherever they lie. -/
  bytes_eq : ∀ channel < p.channels, ∀ frame < p.frames,
    p.memory.load (p.offset channel frame) p.format.bytes =
      p'.memory.load (p'.offset channel frame) p.format.bytes
  /-- So whatever sample is looked at, both show the same, or neither shows any. -/
  sample?_eq : ∀ type channel frame, p.sample? type channel frame = p'.sample? type channel frame

variable {p p' : Period}

/-- Periods that hold the same bytes for every channel and frame. -/
theorem Alike.of_bytes (hframes : p.frames = p'.frames) (hchannels : p.channels = p'.channels)
    (hformat : p.format = p'.format)
    (hsize : p.memory.size = p.frames * p.channels * p.format.bytes)
    (hsize' : p'.memory.size = p.frames * p.channels * p.format.bytes)
    (hbytes : ∀ channel < p.channels, ∀ frame < p.frames,
      p.memory.load (p.offset channel frame) p.format.bytes =
        p'.memory.load (p'.offset channel frame) p.format.bytes) : p.Alike p' where
  frames_eq := hframes
  channels_eq := hchannels
  format_eq := hformat
  size_eq := hsize
  size_eq' := hsize'
  bytes_eq := hbytes
  sample?_eq type channel frame := by
    rw [sample?, sample?, ← hframes, ← hchannels, ← hformat]
    by_cases hout : type ≠ p.format ∨ p.channels ≤ channel ∨ p.frames ≤ frame
    · rw [if_pos hout, if_pos hout]
    · have htype : type = p.format := Decidable.byContradiction fun h => hout (.inl h)
      have hc : channel < p.channels := by omega
      have hf : frame < p.frames := by omega
      subst htype
      rw [if_neg hout, if_neg hout, Memory.loadSample, Memory.loadSample,
        hbytes channel hc frame hf]

/-- Periods whose views hold the same samples. -/
theorem Alike.of_view (hframes : p.frames = p'.frames) (hchannels : p.channels = p'.channels)
    (hformat : p.format = p'.format)
    (hsize : p.memory.size = p.frames * p.channels * p.format.bytes)
    (hsize' : p'.memory.size = p.frames * p.channels * p.format.bytes)
    (h : p.view.Alike p.memory p'.view p'.memory) : p.Alike p' := by
  refine .of_bytes hframes hchannels hformat hsize hsize' fun channel hc frame hf => ?_
  have hload := h.cells p.format p.format_view.symm channel (by rwa [channels_view]) frame
    (by rwa [frames_view])
  rw [address_view hc, address_view (hchannels ▸ hc), Memory.loadSample,
    Memory.loadSample] at hload
  have hbytes := congrArg Sample.toBytes hload
  rwa [Sample.toBytes_ofBytes _ (Memory.length_load ..),
    Sample.toBytes_ofBytes _ (Memory.length_load ..)] at hbytes

/-- The views of such periods hold the same samples. -/
theorem Alike.view (h : p.Alike p') : p.view.Alike p.memory p'.view p'.memory where
  frames_eq := by rw [frames_view, frames_view, h.frames_eq]
  channels_eq := by rw [channels_view, channels_view, h.channels_eq]
  format_eq := by rw [format_view, format_view, h.format_eq]
  sound := p.sound
  sound' := p'.sound
  fits := by
    rw [h.size_eq]
    exact p.fits
  fits' := by
    rw [h.size_eq', h.frames_eq, h.channels_eq, h.format_eq]
    exact p'.fits
  cells type htype channel hc frame hf := by
    rw [format_view] at htype
    rw [channels_view] at hc
    rw [frames_view] at hf
    subst htype
    rw [address_view hc, address_view (h.channels_eq ▸ hc), Memory.loadSample, Memory.loadSample,
      h.bytes_eq channel hc frame hf]

/-- The samples of a whole channel are the same, too. -/
theorem Alike.channel_eq (h : p.Alike p') (type : SampleFormat) (channel : Nat) :
    p.channel type channel = p'.channel type channel := by
  apply List.ext_getElem?
  intro frame
  rw [getElem?_channel, getElem?_channel, h.sample?_eq]

/-- Replacing the memories by such that the views hold the same samples. -/
theorem Alike.withMemory {m m' : Memory} (h : p.Alike p') (hm : p.view.Alike m p'.view m')
    (hsize : m.size = p.memory.size) (hsize' : m'.size = p'.memory.size) :
    ({ p with memory := m } : Period).Alike { p' with memory := m' } :=
  .of_view h.frames_eq h.channels_eq h.format_eq (hsize.trans h.size_eq)
    (hsize'.trans h.size_eq') hm

/-- Everywhere in a blank period the same byte is found. -/
theorem load_blank {frames : Nat} {config : StreamConfig} (planar : Bool) (b : UInt8)
    {channel frame : Nat} (hc : channel < config.channels) (hf : frame < frames) :
    let p := blank frames config planar b
    p.memory.load (p.offset channel frame) config.format.bytes =
      List.replicate config.format.bytes b := by
  intro p
  have hinside := p.fits.inside channel (by rwa [channels_view]) frame (by rwa [frames_view])
  rw [address_view (show channel < p.channels from hc), format_view] at hinside
  have hsize : p.memory.size = p.frames * p.channels * p.format.bytes := size_blank ..
  rw [← hsize] at hinside
  rw [Memory.load, List.eq_replicate_iff]
  refine ⟨by rw [List.length_map, List.length_range'], fun byte hbyte => ?_⟩
  obtain ⟨a, ha, rfl⟩ := List.mem_map.mp hbyte
  have hlt := (List.mem_range'_1.mp ha).2
  exact byte_blank (Nat.lt_of_lt_of_le hlt hinside)

/-- Blank periods are alike. -/
theorem blank_alike (frames : Nat) (config : StreamConfig) (planar planar' : Bool) (b : UInt8) :
    (blank frames config planar b).Alike (blank frames config planar' b) := by
  refine .of_bytes rfl rfl rfl (size_blank ..) (size_blank ..) fun channel hc frame hf => ?_
  exact (load_blank planar b hc hf).trans (load_blank planar' b hc hf).symm

/-- They stay so when the same frames are deposited in them. -/
theorem Alike.deposit (h : p.Alike p') {k : Nat} {bytes : List UInt8}
    (hbytes : k * p.channels * p.format.bytes ≤ bytes.length) (hk : k ≤ p.frames) :
    (p.deposit 0 (k * p.channels) bytes).Alike (p'.deposit 0 (k * p.channels) bytes) := by
  have hdeposit := deposit_frames hbytes hk
  have hdeposit' : p'.deposit 0 (k * p.channels) bytes =
      { p' with
        memory := p'.view.storeFrom 0 (Sample.splitBytes p.format (k * p.channels) bytes)
          p'.memory } := by
    rw [h.channels_eq, h.format_eq]
    exact deposit_frames (by rwa [← h.channels_eq, ← h.format_eq]) (by rwa [← h.frames_eq])
  rw [hdeposit, hdeposit']
  refine h.withMemory (h.view.storeFrom p.format_view.symm 0 _ ?_) (View.size_storeFrom ..)
    (View.size_storeFrom ..)
  rw [Sample.length_splitBytes, Nat.zero_add, frames_view, channels_view]
  exact Nat.mul_le_mul_right _ hk

end Period

/-! ## Devices -/

namespace SoftDevice

/-- The device with the layout of its periods replaced. -/
def withPlanar (d : SoftDevice) (planar : Bool) : SoftDevice :=
  { d with capabilities := { d.capabilities with planar } }

section WithPlanar

variable (d : SoftDevice) (planar : Bool)

@[simp] theorem faults_withPlanar : (d.withPlanar planar).faults = d.faults := rfl

@[simp] theorem installed_withPlanar : (d.withPlanar planar).installed = d.installed := rfl

@[simp] theorem callback_withPlanar : (d.withPlanar planar).callback = d.callback := rfl

/-- What is settled does not depend on the layout. -/
theorem settle_withPlanar (q : Request) :
    (d.withPlanar planar).settle q = ((d.settle q).1, (d.settle q).2.withPlanar planar) := by
  cases q with
  | setAccess access =>
    by_cases h : access = .interleaved ∧ ¬ d.capabilities.interleaved
    · have hsettle : d.settle (.setAccess access) = (.error .invalid, d) := if_pos h
      rw [hsettle]
      exact if_pos h
    · have hsettle : d.settle (.setAccess access) =
          (.ok (), { d with pending.access := some access }) := if_neg h
      rw [hsettle]
      exact if_neg h
  | setFormat format =>
    by_cases h : d.capabilities.formats.contains format = true
    · have hsettle : d.settle (.setFormat format) =
          (.ok (), { d with pending.format := some format }) := if_pos h
      rw [hsettle]
      exact if_pos h
    · have hsettle : d.settle (.setFormat format) = (.error .invalid, d) := if_neg h
      rw [hsettle]
      exact if_neg h
  | setChannels channels =>
    by_cases h : channels ≠ 0 ∧ d.capabilities.channels.contains channels
    · have hsettle : d.settle (.setChannels channels) =
          (.ok (), { d with pending.channels := some channels }) := if_pos h
      rw [hsettle]
      exact if_pos h
    · have hsettle : d.settle (.setChannels channels) = (.error .invalid, d) := if_neg h
      rw [hsettle]
      exact if_neg h
  | setResample resample => rfl
  | setRateNear rate =>
    simp only [settle, withPlanar]
    cases d.capabilities.rates.nearest rate with
    | none => rfl
    | some picked =>
      by_cases h : picked ≤ maxRate
      · simp only [if_pos h]
      · simp only [if_neg h]
  | setBufferSizeNear frames =>
    simp only [settle, withPlanar]
    cases d.capabilities.bufferSizes.nearest frames <;> rfl
  | setPeriodSizeNear frames =>
    have hpick : (d.withPlanar planar).pickPeriod frames = d.pickPeriod frames := rfl
    rw [settle, settle, hpick]
    cases d.pickPeriod frames <;> rfl
  | install =>
    simp only [settle, withPlanar]
    cases d.pending.config? <;> rfl

end WithPlanar

/-- Two devices that differ in nothing but the layout of their periods, and whose callback, if they
have one, does not look at it. -/
inductive Alike : SoftDevice → SoftDevice → Prop
  /-- A device, and the same one with the layout replaced. -/
  | intro (d : SoftDevice) (planar : Bool)
      (hblind : ∀ c, d.callback = some c → c.handler.Blind) : Alike d (d.withPlanar planar)

variable {d d' : SoftDevice}

/-- Two such devices hold the same end of the same queue, if any. -/
theorem Alike.holdsQueue_eq (h : d.Alike d') : d.holdsQueue = d'.holdsQueue := by
  cases h
  rfl

theorem Alike.canPause_eq (h : d.Alike d') : Hardware.canPause d = Hardware.canPause d' := by
  cases h
  rfl

/-- Requests do not hand over a callback. -/
theorem callback_settle (d : SoftDevice) (q : Request) :
    (d.settle q).2.callback = d.callback := by
  obtain ⟨answer, -, hsettle⟩ | ⟨-, hsettle⟩ := d.settle_cases q <;> rw [hsettle]
  rfl

/-- Both devices answer a request alike. -/
theorem Alike.request (h : d.Alike d') (q : Request) :
    Agree Alike (d.request q) (d'.request q) := by
  obtain ⟨planar, hblind⟩ := h
  rw [SoftDevice.request, SoftDevice.request, faults_withPlanar]
  cases d.faults.atStep q.step with
  | some status => exact .intro _ (.intro (d.noting q.step) planar hblind)
  | none =>
    have hcallback := (d.noting q.step).callback_settle q
    show Agree Alike ((d.noting q.step).settle q) (((d.noting q.step).withPlanar planar).settle q)
    rw [settle_withPlanar]
    exact .intro ((d.noting q.step).settle q).1
      (.intro ((d.noting q.step).settle q).2 planar fun c hc => hblind c (hcallback.symm.trans hc))

/-- Both devices perform a call alike, if the handler that it hands over does not look at the
layout. -/
theorem Alike.perform (h : d.Alike d') {c : DeviceCall} (hc : c.Admitted Handler.Blind) :
    Agree Alike (d.perform c) (d'.perform c) := by
  have hnone (c : Callback) (hc : none = some c) : c.handler.Blind := by cases hc
  obtain ⟨planar, hblind⟩ := h
  cases c with
  | acquire direction options =>
    by_cases h : d.faults.busy ∨ d.acquired
    · have hperform : d.perform (.acquire direction options) = (.error .busy, d) := if_pos h
      have hperform' : (d.withPlanar planar).perform (.acquire direction options) =
          (.error .busy, d.withPlanar planar) := if_pos h
      rw [hperform, hperform']
      exact .intro _ (.intro d planar hblind)
    · let acquired : SoftDevice :=
        { d with
          acquired := true, disposed := false, pending := {}, installed := none, calls := [] }
      have hperform : d.perform (.acquire direction options) = (.ok (), acquired) := if_neg h
      have hperform' : (d.withPlanar planar).perform (.acquire direction options) =
          (.ok (), acquired.withPlanar planar) := if_neg h
      rw [hperform, hperform']
      exact .intro _ (.intro acquired planar hblind)
  | parameters => exact .intro _ (.intro d planar hblind)
  | register callback =>
    rw [SoftDevice.perform, SoftDevice.perform, faults_withPlanar]
    cases d.faults.register with
    | some status => exact .intro _ (.intro d planar hblind)
    | none =>
      have hinstalled := d.installed_withPlanar planar
      by_cases h : d.installed.isNone
      · rw [if_pos h, if_pos (by rwa [hinstalled])]
        exact .intro _ (.intro d planar hblind)
      · rw [if_neg h, if_neg (by rwa [hinstalled])]
        refine .intro _ (.intro { d with callback := some callback } planar ?_)
        rintro _ ⟨⟩
        exact hc
  | start =>
    rw [SoftDevice.perform, SoftDevice.perform, faults_withPlanar]
    cases d.faults.start with
    | some status => exact .intro _ (.intro d planar hblind)
    | none =>
      have hcallback := d.callback_withPlanar planar
      by_cases h : d.callback.isNone
      · rw [if_pos h, if_pos (by rwa [hcallback])]
        exact .intro _ (.intro d planar hblind)
      · rw [if_neg h, if_neg (by rwa [hcallback])]
        exact .intro _ (.intro { d with running := true } planar hblind)
  | stop =>
    rw [SoftDevice.perform, SoftDevice.perform, faults_withPlanar]
    cases d.faults.stop with
    | some status => exact .intro _ (.intro d planar hblind)
    | none => exact .intro _ (.intro { d with running := false } planar hblind)
  | tearDown =>
    rw [SoftDevice.perform, SoftDevice.perform, faults_withPlanar]
    cases d.faults.tearDown with
    | some status => exact .intro _ (.intro d planar hblind)
    | none => exact .intro _ (.intro d.reset planar hnone)
  | dispose =>
    exact .intro _ (.intro { d.reset with acquired := false, disposed := true } planar hnone)

/-- So they cannot be told apart by what they answer. -/
theorem simulation : Device.Simulation Alike Handler.Blind where
  request h q := h.request q
  perform h _ hc := h.perform hc

end SoftDevice

/-! ## Ticks -/

/-- What a tick of two devices leaves behind that differ in the layout only. -/
structure Ticked.Alike (t t' : Ticked) : Prop where
  /-- The periods hold the same samples. -/
  period : t.period.Alike t'.period
  /-- The devices still differ in the layout only. -/
  device : t.device.Alike t'.device
  /-- What the callback shares with the controlling side is the same. -/
  context_eq : t.context = t'.context
  /-- The application's routine has seen the same. -/
  seen_eq : t.record.map CallbackRecord.seen = t'.record.map CallbackRecord.seen

namespace SoftDevice

variable {d d' : SoftDevice}

/-- A tick takes no more than is waiting, and no more than fits. -/
theorem takenFrames_le (d : SoftDevice) (c : Callback) (frames : Nat) :
    d.takenFrames c frames ≤ frames ∧
      d.takenFrames c frames * c.config.frameBytes ≤ d.input.length := by
  rw [takenFrames]
  split
  · exact ⟨Nat.min_le_left .., Nat.mul_le_of_le_div _ _ _ (Nat.min_le_right ..)⟩
  · rw [Nat.zero_mul]
    exact ⟨Nat.zero_le _, Nat.zero_le _⟩

/-- The same samples are put into both periods, and the same input keeps waiting. -/
theorem makePeriod_alike (d : SoftDevice) (planar : Bool) (c : Callback) (frames : Nat) :
    (d.makePeriod c frames).1.Alike ((d.withPlanar planar).makePeriod c frames).1 ∧
      (d.makePeriod c frames).2 = ((d.withPlanar planar).makePeriod c frames).2 := by
  obtain ⟨hframes, hbytes⟩ := d.takenFrames_le c frames
  have hblank := Period.blank_alike frames c.config d.capabilities.planar planar (filler c)
  refine ⟨hblank.deposit ?_ hframes, rfl⟩
  rwa [Nat.mul_assoc]

/-- Either both devices issue a callback, with the same to be seen of it, or neither does. -/
theorem Alike.tick (h : d.Alike d') (frames : Nat) (time : Timestamp) (context : Context) :
    (d.tick frames time context = none ∧ d'.tick frames time context = none) ∨
      ∃ t t', d.tick frames time context = some t ∧ d'.tick frames time context = some t' ∧
        t.Alike t' := by
  obtain ⟨planar, hblind⟩ := h
  have hsome : (d.tick frames time context).isSome = true ↔
      ((d.withPlanar planar).tick frames time context).isSome = true := by
    rw [isSome_tick_iff, isSome_tick_iff]
    rfl
  cases ht : d.tick frames time context with
  | none =>
    rw [ht] at hsome
    exact .inl ⟨rfl, Option.not_isSome_iff_eq_none.mp fun h => nomatch hsome.mpr h⟩
  | some t =>
    rw [ht] at hsome
    obtain ⟨t', ht'⟩ := Option.isSome_iff_exists.mp (hsome.mp rfl)
    refine .inr ⟨t, t', rfl, ht', ?_⟩
    obtain ⟨c, -, hc, rfl⟩ := exists_of_tick ht
    obtain ⟨c', -, hc', rfl⟩ := exists_of_tick ht'
    obtain rfl : c = c' := Option.some.inj (hc.symm.trans hc')
    obtain ⟨hperiod, hinput⟩ := d.makePeriod_alike planar c frames
    have hprocess := Callback.process_alike (hblind c hc) hperiod.view time context
    refine ⟨hperiod.withMemory hprocess.memory (c.size_process ..) (c.size_process ..), ?_,
      hprocess.context_eq, hprocess.seen_eq⟩
    simp only [← hprocess.callback_eq, ← hinput]
    refine .intro { d with callback := some _, input := _ } planar ?_
    rintro _ ⟨⟩
    exact Callback.blind_process (hblind c hc) ..

/-- In either layout, what a tick hands out for inspection is what the view would have read when the
callback was done. -/
theorem sample?_tick {frames : Nat} {time : Timestamp} {context : Context} {t : Ticked}
    {c : Callback} (h : d.tick frames time context = some t) (hc : d.callback = some c)
    (type : SampleFormat) (channel frame : Nat) :
    let made := (d.makePeriod c frames).1
    t.period.sample? type channel frame =
      (made.view.read (c.process made.view made.memory time context).memory type channel
        frame).toOption := by
  obtain ⟨c', -, hc', rfl⟩ := exists_of_tick h
  obtain rfl := Option.some.inj (hc.symm.trans hc')
  exact Period.sample?_eq_read ..

end SoftDevice

end PcmStream
