/-
  The order in which a stream calls its device.

  Over the whole life of a stream, whatever its device answers and whatever is asked of the stream,
  the device sees

      attempt ... attempt                              any number of failed attempts
      opening  start/stop ... start/stop  tear down  dispose      or nothing

  where a failed attempt is a refused acquisition, or an acquisition and a negotiation that fails
  and the disposal, and an opening is an acquisition, a complete negotiation and a registration.

  1. `FailedAttempt`, `Opening` and `Session` are the pieces.
  2. `Stage` is what the stream has put together after its failed attempts, by state; `Kept` is the
     invariant, and `Kept.after` carries it through a run by one case for each line of `Turn`.
  3. Piece by piece the record is proper in the sense of `Usage` (`FailedAttempt.leads`,
     `Opening.leads`), which is where the facts about single calls come from.
-/
import PcmStream.Proofs.Stream.Consequences
import PcmStream.Proofs.Device.Negotiation

namespace PcmStream

/-! ## The pieces of a record -/

/-- The calls of a negotiation that fails, and the error it fails with. -/
inductive FailedSettling : List CallRecord → StreamError → Prop
  /-- There is no access to the parameters. -/
  | parameters (status : Status) :
      FailedSettling [AnyCall.rejected (.device .parameters) status] (.device .open status)
  /-- A request of the plan is rejected, and nothing is asked after it. -/
  | request (requested : StreamConfig) (before : List Request) (q : Request) (rest : List Request)
      (status : Status) (hplan : Negotiation.plan requested = before ++ q :: rest) :
      FailedSettling
        (AnyCall.granted (.device .parameters) ::
          ((before.map fun q => AnyCall.granted (.request q)) ++
            [AnyCall.rejected (.request q) status]))
        (.negotiation ⟨q.step, status⟩)

/-- The calls of an attempt to configure a stream that leaves nothing behind. -/
inductive FailedAttempt (direction : Direction) : List CallRecord → Prop
  /-- The device cannot be acquired. -/
  | refused (options : Options) (status : Status) :
      FailedAttempt direction [AnyCall.rejected (.device (.acquire direction options)) status]
  /-- No configuration can be settled, and the device is disposed of. -/
  | unsettled (options : Options) {asked : List CallRecord} {error : StreamError}
      (released : Option Status) (hasked : FailedSettling asked error) :
      FailedAttempt direction
        (AnyCall.granted (.device (.acquire direction options)) ::
          (asked ++ [⟨.device .dispose, released⟩]))

/-- The calls that configure a stream; the registration may have failed. -/
inductive Opening (direction : Direction) : List CallRecord → Prop
  /-- A configuration is settled, and the callback is handed over. -/
  | intro (options : Options) (requested : StreamConfig) (callback : Callback)
      (registered : Option Status) :
      Opening direction
        (AnyCall.granted (.device (.acquire direction options)) ::
          AnyCall.granted (.device .parameters) ::
            (((Negotiation.plan requested).map fun q => AnyCall.granted (.request q)) ++
              [⟨.device (.register callback), registered⟩]))

/-- Whether a call starts or stops a device. -/
def CallRecord.StartsOrStops (r : CallRecord) : Prop :=
  r.call = .device .start ∨ r.call = .device .stop

/-- The calls from the configuration of a stream to the release of its device. -/
inductive Session (direction : Direction) : List CallRecord → Prop
  /-- Opening, starting and stopping, tearing down and disposing. -/
  | intro (opening body : List CallRecord) (torn released : Option Status)
      (hopening : Opening direction opening) (hbody : ∀ r ∈ body, r.StartsOrStops) :
      Session direction
        (opening ++ (body ++ [⟨.device .tearDown, torn⟩, ⟨.device .dispose, released⟩]))

namespace Stream

variable {σ : Type} [Device σ] {requested : StreamConfig} {r r' : Recorded σ}

/-- What a negotiation that succeeds asks of a device. -/
theorem calls_negotiate_ok {config : StreamConfig}
    (h : negotiate requested r = (.ok config, r')) :
    r'.calls = r.calls ++ (AnyCall.granted (.device .parameters) ::
      (Negotiation.plan requested).map fun q => AnyCall.granted (.request q)) := by
  obtain ⟨middle, hp, hrun⟩ := of_negotiate_ok h
  have hasked := Negotiation.asked_run requested middle
  rw [hrun] at hasked
  cases hasked with
  | settled a hcalls =>
    rw [hcalls, Recorded.calls_perform hp, List.append_assoc]
    rfl

/-- What a negotiation that fails asks of a device. -/
theorem calls_negotiate_error {error : StreamError}
    (h : negotiate requested r = (.error error, r')) :
    ∃ asked, FailedSettling asked error ∧ r'.calls = r.calls ++ asked := by
  rcases of_negotiate_error h with ⟨status, hp, rfl⟩ | ⟨middle, e, hp, hrun, rfl⟩
  · exact ⟨_, .parameters status, Recorded.calls_perform hp⟩
  · have hasked := Negotiation.asked_run requested middle
    rw [hrun] at hasked
    cases hasked with
    | rejected before q rest status hplan hcalls =>
      refine ⟨_, .request requested before q rest status hplan, ?_⟩
      rw [hcalls, Recorded.calls_perform hp, List.append_assoc]
      rfl

variable {direction : Direction} {options : Options} {d acquired device : Recorded σ}

/-- What an attempt asks that acquires a device and then fails. -/
theorem calls_unsettled {asked : List CallRecord} {released : Except Status Unit}
    {failed : Recorded σ}
    (hacquire : Device.perform (.acquire direction options) d = (.ok (), acquired))
    (hasked : failed.calls = acquired.calls ++ asked)
    (hdispose : Device.perform .dispose failed = (released, device)) :
    device.calls = d.calls ++ (AnyCall.granted (.device (.acquire direction options)) ::
      (asked ++ [⟨.device .dispose, failure? released⟩])) := by
  rw [Recorded.calls_perform hdispose, hasked, Recorded.calls_perform hacquire,
    List.append_assoc, List.append_assoc]
  rfl

/-- What an attempt asks that configures a stream. -/
theorem calls_configured {config : StreamConfig} {callback : Callback}
    {registered : Except Status Unit} {settled : Recorded σ}
    (hacquire : Device.perform (.acquire direction options) d = (.ok (), acquired))
    (hsettle : negotiate requested acquired = (.ok config, settled))
    (hregister : Device.perform (.register callback) settled = (registered, device)) :
    device.calls = d.calls ++ (AnyCall.granted (.device (.acquire direction options)) ::
      AnyCall.granted (.device .parameters) ::
        (((Negotiation.plan requested).map fun q => AnyCall.granted (.request q)) ++
          [⟨.device (.register callback), failure? registered⟩])) := by
  rw [Recorded.calls_perform hregister, calls_negotiate_ok hsettle,
    Recorded.calls_perform hacquire, List.append_assoc, List.append_assoc]
  rfl

/-- What a release asks. -/
theorem calls_released {torn released : Except Status Unit} {tornDown : Recorded σ}
    (htear : Device.perform .tearDown d = (torn, tornDown))
    (hdispose : Device.perform .dispose tornDown = (released, device)) :
    device.calls = d.calls ++
      [⟨.device .tearDown, failure? torn⟩, ⟨.device .dispose, failure? released⟩] := by
  rw [Recorded.calls_perform hdispose, Recorded.calls_perform htear, List.append_assoc]
  rfl

end Stream

/-! ## The use of the device in each piece -/

/-- A negotiation that fails makes no difference to the use of a device. -/
theorem FailedSettling.leads {asked : List CallRecord} {error : StreamError}
    (h : FailedSettling asked error) (u : Usage) : u.Leads asked u := by
  cases h with
  | parameters status => exact .single rfl
  | request requested before q rest status hplan =>
    have hp : u.Leads [AnyCall.granted (.device .parameters)] u := .single rfl
    have hq : u.Leads [AnyCall.rejected (.request q) status] u := .single rfl
    exact hp.append ((Usage.Leads.requests u before).append hq)

/-- A failed attempt leaves a device that is not held as it is. -/
theorem FailedAttempt.leads {direction : Direction} {calls : List CallRecord}
    (h : FailedAttempt direction calls) : Usage.Leads {} calls {} := by
  cases h with
  | refused options status => exact .single rfl
  | unsettled options released hasked =>
    have ha : Usage.Leads {} [AnyCall.granted (.device (.acquire direction options))]
        ⟨true, false⟩ := .single rfl
    have hd : Usage.Leads ⟨true, false⟩ [⟨.device .dispose, released⟩] {} := .single rfl
    exact ha.append ((hasked.leads _).append hd)

/-- An opening makes a device held that was not. -/
theorem Opening.leads {direction : Direction} {calls : List CallRecord}
    (h : Opening direction calls) : Usage.Leads {} calls ⟨true, false⟩ := by
  cases h with
  | intro options requested callback registered =>
    have ha : Usage.Leads {} [AnyCall.granted (.device (.acquire direction options))]
        ⟨true, false⟩ := .single rfl
    have hp : Usage.Leads ⟨true, false⟩ [AnyCall.granted (.device .parameters)] ⟨true, false⟩ :=
      .single rfl
    -- The device is held whatever becomes of the registration.
    have hr : Usage.Leads ⟨true, false⟩ [⟨.device (.register callback), registered⟩]
        ⟨true, false⟩ := .single rfl
    have hq := Usage.Leads.requests ⟨true, false⟩ (Negotiation.plan requested)
    exact ha.append (hp.append (hq.append hr))

/-! ## What a stream has asked of its device, by state -/

/-- What a stream in a state has asked of its device since its failed attempts. -/
inductive Stage (direction : Direction) : State → List CallRecord → Prop
  /-- Nothing, before it is configured. -/
  | created : Stage direction .created []
  /-- An opening and calls to start and stop, which have left the device running exactly if the
  stream is started. -/
  | holding {state : State} (opening body : List CallRecord) (hs : state.holding = true)
      (hopening : Opening direction opening) (hbody : ∀ r ∈ body, r.StartsOrStops)
      (huse : Usage.Leads ⟨true, false⟩ body ⟨true, state == .started⟩) :
      Stage direction state (opening ++ body)
  /-- Nothing, if it was closed before it was configured. -/
  | abandoned : Stage direction .closed []
  /-- A session. -/
  | closed (opening body : List CallRecord) (running : Bool) (torn released : Option Status)
      (hopening : Opening direction opening) (hbody : ∀ r ∈ body, r.StartsOrStops)
      (huse : Usage.Leads ⟨true, false⟩ body ⟨true, running⟩) :
      Stage direction .closed
        (opening ++ (body ++ [⟨.device .tearDown, torn⟩, ⟨.device .dispose, released⟩]))

namespace Stage

variable {direction : Direction} {state : State} {calls : List CallRecord}

theorem eq_nil (h : Stage direction state calls) (hs : state = .created) : calls = [] := by
  subst hs
  cases h with
  | created => rfl
  | holding opening body hholding => cases hholding

theorem of_holding (h : Stage direction state calls) (hs : state.holding = true) :
    ∃ opening body, calls = opening ++ body ∧ Opening direction opening ∧
      (∀ r ∈ body, r.StartsOrStops) ∧
        Usage.Leads ⟨true, false⟩ body ⟨true, state == .started⟩ := by
  cases h with
  | created => cases hs
  | abandoned => cases hs
  | closed => cases hs
  | holding opening body hholding hopening hbody huse =>
    exact ⟨opening, body, rfl, hopening, hbody, huse⟩

end Stage

/-- What a stream has asked of its device: failed attempts, and what belongs to its state. -/
def Stream.Kept {σ : Type} (s : Stream (Recorded σ)) : Prop :=
  ∃ (attempts : List (List CallRecord)) (rest : List CallRecord),
    (∀ calls ∈ attempts, FailedAttempt s.direction calls) ∧
      s.device.calls = attempts.flatten ++ rest ∧ Stage s.direction s.state rest

namespace Stream.Kept

variable {σ : Type} {s : Stream (Recorded σ)} {device : Recorded σ}

/-- A failed attempt keeps a created stream as it is. -/
theorem attempt {calls : List CallRecord} (h : s.Kept) (hs : s.state = .created)
    (hcalls : device.calls = s.device.calls ++ calls) (hattempt : FailedAttempt s.direction calls) :
    ({ s with device } : Stream (Recorded σ)).Kept := by
  obtain ⟨attempts, rest, hattempts, hprior, hstage⟩ := h
  obtain rfl := hstage.eq_nil hs
  refine ⟨attempts ++ [calls], [], ?_, ?_, ?_⟩
  · intro c hc
    rcases List.mem_append.mp hc with hc | hc
    · exact hattempts c hc
    · rw [List.mem_singleton.mp hc]
      exact hattempt
  · show device.calls = _
    rw [hcalls, hprior, List.flatten_append, List.flatten_singleton, List.append_nil,
      List.append_nil]
  · show Stage s.direction s.state []
    rw [hs]
    exact .created

/-- An opening configures a created stream. -/
theorem opening {calls : List CallRecord} {config : StreamConfig} (h : s.Kept)
    (hs : s.state = .created) (hcalls : device.calls = s.device.calls ++ calls)
    (hopening : Opening s.direction calls) :
    ({ s with device, config, state := .configured } : Stream (Recorded σ)).Kept := by
  obtain ⟨attempts, rest, hattempts, hprior, hstage⟩ := h
  obtain rfl := hstage.eq_nil hs
  refine ⟨attempts, calls ++ [], hattempts, ?_, ?_⟩
  · show device.calls = _
    rw [hcalls, hprior, List.append_nil, List.append_nil]
  · exact .holding calls [] rfl hopening (fun r hr => absurd hr List.not_mem_nil) (.nil _)

/-- A call to start or stop takes a stream that has its device from one state to another. -/
theorem body {r : CallRecord} {state : State} (h : s.Kept) (hs : s.state.holding = true)
    (hcalls : device.calls = s.device.calls ++ [r]) (hr : r.StartsOrStops)
    (hstate : state.holding = true)
    (huse : Usage.Leads ⟨true, s.state == .started⟩ [r] ⟨true, state == .started⟩) :
    ({ s with device, state } : Stream (Recorded σ)).Kept := by
  obtain ⟨attempts, rest, hattempts, hprior, hstage⟩ := h
  obtain ⟨opening, body, rfl, hopening, hbody, hbefore⟩ := hstage.of_holding hs
  refine ⟨attempts, opening ++ (body ++ [r]), hattempts, ?_, ?_⟩
  · show device.calls = _
    rw [hcalls, hprior, List.append_assoc, List.append_assoc]
  · refine .holding opening (body ++ [r]) hstate hopening ?_ (hbefore.append huse)
    intro c hc
    rcases List.mem_append.mp hc with hc | hc
    · exact hbody c hc
    · rw [List.mem_singleton.mp hc]
      exact hr

/-- A stream that has asked nothing of its device. -/
theorem fresh (device : σ) (direction : Direction) :
    ({ device := ⟨device, []⟩, direction } : Stream (Recorded σ)).Kept :=
  ⟨[], [], fun _ h => absurd h List.not_mem_nil, rfl, .created⟩

variable [Device σ]

/-- Tearing down and disposing close a stream that has its device. -/
theorem close {torn released : Except Status Unit} {tornDown : Recorded σ} (h : s.Kept)
    (hs : s.state.holding = true) (htear : Device.perform .tearDown s.device = (torn, tornDown))
    (hdispose : Device.perform .dispose tornDown = (released, device)) :
    ({ s with device, state := .closed } : Stream (Recorded σ)).Kept := by
  obtain ⟨attempts, rest, hattempts, hprior, hstage⟩ := h
  obtain ⟨opening, body, rfl, hopening, hbody, huse⟩ := hstage.of_holding hs
  refine ⟨attempts, _, hattempts, ?_,
    .closed opening body _ (failure? torn) (failure? released) hopening hbody huse⟩
  show device.calls = _
  rw [Stream.calls_released htear hdispose, hprior, List.append_assoc, List.append_assoc]

/-- A call to stop a started stream, however it comes out, leaves one that has its device. -/
theorem halt {halted : Except Status Unit} (h : s.Kept) (hs : s.state = .started)
    (hstop : Device.perform .stop s.device = (halted, device)) :
    ∃ state : State, state.holding = true ∧
      ({ s with device, state } : Stream (Recorded σ)).Kept := by
  have hholding : s.state.holding = true := by
    rw [hs]
    rfl
  have hcalls := Recorded.calls_perform hstop
  -- A device that does not stop is torn down running, which the protocol permits.
  cases halted with
  | error status =>
    refine ⟨.started, rfl, h.body hholding hcalls (.inr rfl) rfl ?_⟩
    rw [hs]
    exact .single rfl
  | ok =>
    refine ⟨.stopped, rfl, h.body hholding hcalls (.inr rfl) rfl ?_⟩
    rw [hs]
    exact .single rfl

/-- Every move keeps the record in order. -/
theorem turn {m : Move} {o : Outcome (Recorded σ)} (h : s.Kept) (hturn : Turn s m o) :
    o.stream.Kept := by
  cases hturn with
  | wrongState hm => exact h
  | mismatch hs hh => exact h
  | nothingToDo hm => exact h
  | refused hs hh hacquire =>
    exact h.attempt hs (Recorded.calls_perform hacquire) (.refused _ _)
  | @unsettled _ _ options _ released _ _ _ hs hh hacquire hsettle hdispose =>
    obtain ⟨asked, hasked, hfailed⟩ := Stream.calls_negotiate_error hsettle
    exact h.attempt hs (Stream.calls_unsettled hacquire hfailed hdispose)
      (.unsettled options (failure? released) hasked)
  | @configured requested handler options config registered _ _ _ hs hh hacquire hsettle
      hregister =>
    exact h.opening hs (Stream.calls_configured hacquire hsettle hregister)
      (.intro options requested (s.callback config handler options) (failure? registered))
  -- A call to start or stop that fails changes neither the state nor the use of the device.
  | startFailed hs hstart =>
    have hholding : s.state.holding = true := by rcases hs with hs | hs <;> rw [hs] <;> rfl
    refine h.body hholding (Recorded.calls_perform hstart) (.inl rfl) hholding ?_
    rcases hs with hs | hs <;> rw [hs] <;> exact .single rfl
  | started hs hstart =>
    have hholding : s.state.holding = true := by rcases hs with hs | hs <;> rw [hs] <;> rfl
    refine h.body hholding (Recorded.calls_perform hstart) (.inl rfl) rfl ?_
    rcases hs with hs | hs <;> rw [hs] <;> exact .single rfl
  | stopFailed hs hstop =>
    have hholding : s.state.holding = true := by rw [hs]; rfl
    refine h.body hholding (Recorded.calls_perform hstop) (.inr rfl) hholding ?_
    rw [hs]
    exact .single rfl
  | stopped hs hstop =>
    have hholding : s.state.holding = true := by rw [hs]; rfl
    refine h.body hholding (Recorded.calls_perform hstop) (.inr rfl) rfl ?_
    rw [hs]
    exact .single rfl
  | abandoned hs =>
    obtain ⟨attempts, rest, hattempts, hprior, hstage⟩ := h
    obtain rfl := hstage.eq_nil hs
    exact ⟨attempts, [], hattempts, hprior, .abandoned⟩
  | closedIdle hs htear hdispose =>
    have hholding : s.state.holding = true := by rcases hs with hs | hs <;> rw [hs] <;> rfl
    exact h.close hholding htear hdispose
  | closedBusy hs hstop htear hdispose =>
    obtain ⟨state, hholding, hhalted⟩ := h.halt hs hstop
    exact hhalted.close hholding htear hdispose

/-- So does every run of moves. -/
theorem after (h : s.Kept) (moves : List Move) : (s.after moves).Kept := by
  induction moves generalizing s with
  | nil => exact h
  | cons m moves ih => exact ih (h.turn (m.turn s))

end Stream.Kept

end PcmStream
