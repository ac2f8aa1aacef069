/-
  What an output callback that a hand-off queue serves makes of a period.

  A tick fills a period with garbage, has the queue render into it and has the guard silence what the
  queue did not produce.  `tick_queue` says what comes of these three together.  If the format and
  the channels of the stream are those of the queue, as many frames as are queued and as fit are
  taken off the front, and each of their samples is in the period where its place in the queue says;
  otherwise nothing is taken.  `Queue.producedFrames` is that number in either case, and all other
  frames are silent.

  That a sample of the queue survives the silencing of the frames behind it is due to the layout of
  the period alone, by `Period.fits` and `Period.sound`.
-/
import PcmStream.Proofs.Callback.SilenceGuard
import PcmStream.Proofs.SoftDevice.Period
import PcmStream.Proofs.Queue.Frames

namespace PcmStream

/-! ## A callback that a queue serves -/

namespace Queue

variable {type : SampleFormat}

/-- The number of frames that a queue produces for a view. -/
def producedFrames (q : Queue type) (v : View) : Nat :=
  if q.Fitting v then min v.frames q.queuedFrames else 0

theorem take_zero (q : Queue type) : q.take 0 = ([], q) := by
  simp [take, available]

/-- Rendering takes the frames that the queue produces, and stores their samples. -/
theorem render_eq (q : Queue type) (v : View) (m : Memory) :
    let k := q.producedFrames v
    (q.render v m).2 = (v.storeFrom 0 (q.take k).1 m, (q.take k).2) ∧
      (match (q.render v m).1 with
        | .ok frames => min frames v.frames
        | .error _ => 0) = k := by
  intro k
  by_cases hv : q.Fitting v
  · have hk : k = min v.frames q.queuedFrames := if_pos hv
    rw [render_of_fitting hv, hk]
    exact ⟨rfl, Nat.min_eq_left (Nat.min_le_left ..)⟩
  · have hk : k = 0 := if_neg hv
    obtain ⟨e, he⟩ := render_of_not_fitting hv m
    rw [he, hk, take_zero]
    exact ⟨rfl, rfl⟩

end Queue

namespace Callback

variable {c : Callback} {key : Nat} {context : Context} {type : SampleFormat} {q : Queue type}

/-- An output callback that a queue serves takes the frames that it produces off the queue, stores
them, silences the rest and counts an underrun if there is any. -/
theorem process_queue (hdirection : c.direction = .output)
    (hhandler : c.handler = .render (.queue key)) (hown : c.ownStats = none)
    (hq : context.patchbay.queue? key = some ⟨type, q⟩) (v : View) (m : Memory)
    (time : Timestamp) :
    let k := q.producedFrames v
    let p := c.process v m time context
    p.callback = c ∧
    p.memory = v.silenceFrom (v.storeFrom 0 (q.take k).1 m) k ∧
    p.context.patchbay = context.patchbay.put key ⟨type, (q.take k).2⟩ ∧
    p.context.stats = context.stats.count v.frames (decide (k < v.frames)) := by
  intro k
  obtain ⟨hrest, hproduced⟩ := q.render_eq v m
  have hfill : Server.fill v m context.patchbay (.queue key) =
      ⟨k, .queue key, v.storeFrom 0 (q.take k).1 m,
        context.patchbay.put key ⟨type, (q.take k).2⟩, none⟩ := by
    rw [Server.fill, hq]
    simp only [hrest]
    exact congrArg (Rendered.mk · _ _ _ _) hproduced
  -- The server after the period is the same queue, so the callback does not change.
  have hsame : { c with handler := .render (.queue key) } = c := by rw [← hhandler]
  have houtput : c.output v m (c.recordTime time context) =
      (k, { callback := c
            memory := v.silenceFrom (v.storeFrom 0 (q.take k).1 m) k
            context := { c.recordTime time context with
              patchbay := context.patchbay.put key ⟨type, (q.take k).2⟩ }
            record := none }) := by
    have hpatchbay : (c.recordTime time context).patchbay = context.patchbay := rfl
    simp only [output, hhandler, hpatchbay, hfill, hsame]
  intro p
  have hp : p = _ := process_of_output hdirection v m time context
  rw [houtput, count] at hp
  simp only [hown] at hp
  rw [hp]
  exact ⟨rfl, rfl, rfl, rfl⟩

end Callback

/-! ## Samples of the period -/

namespace Period

variable {p : Period} {channel frame k : Nat}

/-- What was silenced is silent to whoever looks at the period. -/
theorem sample?_silenced (m : Memory) (hc : channel < p.channels) (hf : frame < p.frames)
    (hk : k ≤ frame) :
    ({ p with memory := p.view.silenceFrom m k } : Period).sample? p.format channel frame =
      some (Sample.silent p.format) := by
  have hload := View.loadSample_silenceFrom p.format_view.symm m p.sound k
    (by rwa [channels_view]) (by rwa [frames_view])
  rw [if_pos hk] at hload
  rw [sample?_eq rfl _ hc hf, hload]

/-- What was stored in the frames before stays where its place says. -/
theorem sample?_stored {type : SampleFormat} (htype : type = p.format)
    (hsize : p.memory.size = p.frames * p.channels * p.format.bytes) {ss : List (Sample type)}
    (hlength : ss.length = k * p.channels) (hk : k ≤ p.frames) (hc : channel < p.channels)
    (hf : frame < k) :
    ({ p with memory := p.view.silenceFrom (p.view.storeFrom 0 ss p.memory) k } : Period).sample?
      type channel frame = ss[frame * p.channels + channel]? := by
  have hframe : frame < p.frames := by omega
  have hindex := View.index_lt hc hf
  have hview : type = p.view.format := by rw [format_view, htype]
  have hsilenced := View.loadSample_silenceFrom hview (p.view.storeFrom 0 ss p.memory) p.sound k
    (show channel < p.view.channels by rwa [channels_view])
    (show frame < p.view.frames by rwa [frames_view])
  rw [if_neg (by omega)] at hsilenced
  have hfits : 0 + ss.length ≤ p.view.frames * p.view.channels := by
    rw [Nat.zero_add, hlength, frames_view, channels_view]
    exact Nat.mul_le_mul_right _ hk
  have hstored := View.loadSample_storeFrom hview ss p.memory p.fits hsize hfits
    (k := frame * p.channels + channel) (by rwa [hlength])
  rw [Nat.zero_add, cell_view hc] at hstored
  rw [sample?_eq htype _ hc hframe, List.getElem?_eq_getElem (by rwa [hlength]), hsilenced, hstored]

end Period

/-! ## One tick -/

namespace SoftDevice

variable {d : SoftDevice} {frames : Nat} {time : Timestamp} {context : Context} {t : Ticked}

/-- A tick of an output callback that a queue serves takes as many frames off the front as are
queued and as fit, if the stream has the format and the channels of the queue, and none otherwise.
Their samples are in the period where their places say, and all frames behind them are silent. -/
theorem tick_queue {c : Callback} {key : Nat} {type : SampleFormat} {q : Queue type}
    (h : d.tick frames time context = some t) (hc : d.callback = some c)
    (hdirection : c.direction = .output) (hhandler : c.handler = .render (.queue key))
    (hown : c.ownStats = none) (hq : context.patchbay.queue? key = some ⟨type, q⟩) :
    let k := if type = c.config.format ∧ q.channels = c.config.channels
      then min frames q.queuedFrames else 0
    t.device = d ∧
    t.context.patchbay = context.patchbay.put key ⟨type, (q.take k).2⟩ ∧
    t.context.stats = context.stats.count frames (decide (k < frames)) ∧
    t.period.frames = frames ∧ t.period.channels = c.config.channels ∧
    t.period.format = c.config.format ∧
    (∀ channel < c.config.channels, ∀ frame < k,
      t.period.sample? type channel frame = q.samples[frame * q.channels + channel]?) ∧
    ∀ channel < c.config.channels, ∀ frame, k ≤ frame → frame < frames →
      t.period.sample? t.period.format channel frame = some (Sample.silent t.period.format) := by
  intro k
  obtain ⟨c', -, hc', ht⟩ := exists_of_tick h
  obtain rfl := Option.some.inj (hc.symm.trans hc')
  let blank := Period.blank frames c.config d.capabilities.planar garbage
  have hfitting : q.Fitting blank.view ↔
      type = c.config.format ∧ q.channels = c.config.channels := by
    rw [Queue.Fitting, Period.format_view, Period.channels_view]
    exact Iff.rfl
  have hk : q.producedFrames blank.view = k := by
    rw [Queue.producedFrames, Period.frames_view]
    simp only [hfitting]
    rfl
  obtain ⟨hcallback, hmemory, hpatchbay, hstats⟩ :=
    Callback.process_queue hdirection hhandler hown hq blank.view blank.memory time
  rw [d.makePeriod_output hdirection frames] at ht
  rw [hk] at hmemory hpatchbay hstats
  rw [Period.frames_view] at hstats
  have hdevice : t.device = d := by
    rw [ht]
    show { d with callback := some (c.process blank.view blank.memory time context).callback,
                  input := d.input } = d
    rw [hcallback, ← hc]
  have hperiod : t.period = { blank with
      memory := blank.view.silenceFrom (blank.view.storeFrom 0 (q.take k).1 blank.memory) k } := by
    rw [ht]
    exact congrArg (fun m => ({ blank with memory := m } : Period)) hmemory
  have hsize := Period.size_blank frames c.config d.capabilities.planar garbage
  refine ⟨hdevice, ?_, ?_, congrArg Period.frames hperiod, congrArg Period.channels hperiod,
    congrArg Period.format hperiod, ?_, ?_⟩
  · rw [ht]
    exact hpatchbay
  · rw [ht]
    exact hstats
  · intro channel hchannel frame hf
    -- If stream and queue do not match there is no frame to look at.
    by_cases hmatch : type = c.config.format ∧ q.channels = c.config.channels
    · have hk : k = min frames q.queuedFrames := if_pos hmatch
      have hcount : q.available k = k * q.channels := by
        rw [Queue.available, Nat.min_eq_left]
        rw [hk]
        exact Nat.min_le_right ..
      have hlength : (q.take k).1.length = k * blank.channels := by
        rw [q.length_take, hcount, hmatch.2]
        rfl
      have hindex := View.index_lt hchannel hf
      have hstored := Period.sample?_stored hmatch.1 hsize hlength (by
        rw [hk]
        exact Nat.min_le_left ..) hchannel hf
      rw [hperiod, hstored, hmatch.2]
      show (q.samples.take (q.available k))[frame * c.config.channels + channel]? = _
      rw [hcount, hmatch.2, List.getElem?_take_of_lt hindex]
    · have hk : k = 0 := if_neg hmatch
      rw [hk] at hf
      cases hf
  · intro channel hchannel frame hkf hf
    rw [hperiod]
    exact Period.sample?_silenced _ hchannel hf hkf

end SoftDevice

end PcmStream
