/-
  The whole life of a stream, from its making to its drop, as its device sees it.

  A stream is either made and configured later, or opened, which drops it at once if it cannot be
  configured (`Birth`).  Then come moves in any order, and finally the drop.  The device is any
  device: what it answers may depend on everything that it was asked before.

  `calls_life` says what the record of such a life looks like: as a whole, at every single call, and
  where an operation was rejected without the device being asked.
-/
import PcmStream.Proofs.Stream.Protocol

namespace PcmStream

variable {σ : Type} [Device σ]

/-! ## Lives -/

/-- How a stream comes about. -/
inductive Birth
  /-- It is made, and nothing else. -/
  | new
  /-- It is made and configured, and dropped if that fails. -/
  | open (requested : StreamConfig) (handler : Handler) (options : Options)

/-- A device after the life of a stream that owned it: the stream comes about, makes moves, and is
dropped. -/
def Birth.life (device : σ) (direction : Direction) (moves : List Move) : Birth → σ
  | new => (({ device, direction } : Stream σ).after moves).drop.1
  | .open requested handler options =>
    match Stream.open device direction requested handler options with
    | .ok stream _ => (stream.after moves).drop.1
    | .failed _ device _ => device

/-- A life that begins with an opening is one that begins with a configuration; it is cut short if
that fails. -/
theorem Birth.life_eq (device : σ) (direction : Direction) (moves : List Move) (birth : Birth) :
    ∃ moves', birth.life device direction moves =
      (({ device, direction } : Stream σ).after moves').drop.1 := by
  cases birth with
  | new => exact ⟨moves, rfl⟩
  | «open» requested handler options =>
    cases hresult :
        (({ device, direction } : Stream σ).configure requested handler options).result with
    | ok =>
      refine ⟨.configure requested handler options :: moves, ?_⟩
      simp only [life, Stream.open, hresult]
      rfl
    | error e =>
      refine ⟨[.configure requested handler options], ?_⟩
      simp only [life, Stream.open, hresult]
      rfl

/-! ## Rejections -/

/-- Whether an error rejects an operation before the device is asked anything. -/
def StreamError.isRejection : StreamError → Bool
  | .state .. | handlerMismatch _ => true
  | negotiation _ | device .. | notAvailable => false

/-- An error that rejects an operation reports no failure of the device. -/
theorem StreamError.status?_of_isRejection {error : StreamError} (h : error.isRejection = true) :
    error.status? = none := by
  cases error with
  | state operation state => rfl
  | handlerMismatch direction => rfl
  | negotiation error => cases h
  | device operation status => cases h
  | notAvailable => rfl

/-- An opening that is rejected leaves the device alone. -/
theorem Stream.device_of_open_isRejection {device device' : Recorded σ} {direction : Direction}
    {requested : StreamConfig} {handler : Handler} {options : Options} {error : StreamError}
    {log : List Event}
    (hopen : Stream.open device direction requested handler options = .failed error device' log)
    (hrejection : error.isRejection = true) : device' = device := by
  have hturn := Turn.of_configure ({ device, direction } : Stream (Recorded σ)) requested handler
    options
  cases hresult : (({ device, direction } : Stream (Recorded σ)).configure requested handler
      options).result with
  | ok =>
    simp only [Stream.open, hresult] at hopen
    cases hopen
  | error e =>
    simp only [Stream.open, hresult] at hopen
    cases hopen
    rw [(hturn.of_status?_eq_none hresult (StreamError.status?_of_isRejection hrejection)).1]
    rfl

/-! ## The record of a life -/

/-- The record of a life ends with failed attempts alone or with a session after them. -/
theorem Stream.Kept.drop {s : Stream (Recorded σ)} (h : s.Kept) :
    ∃ (attempts : List (List CallRecord)) (rest : List CallRecord),
      (∀ calls ∈ attempts, FailedAttempt s.direction calls) ∧
        s.drop.1.calls = attempts.flatten ++ rest ∧ Stage s.direction .closed rest := by
  rw [s.drop_device]
  by_cases hs : s.state = .closed
  · rw [if_pos hs]
    obtain ⟨attempts, rest, hattempts, hcalls, hstage⟩ := h
    rw [hs] at hstage
    exact ⟨attempts, rest, hattempts, hcalls, hstage⟩
  · rw [if_neg hs]
    have hturn := Turn.of_close s
    obtain ⟨attempts, rest, hattempts, hcalls, hstage⟩ := h.turn hturn
    rw [hturn.direction_eq] at hattempts hstage
    rw [hturn.closed_of_close] at hstage
    exact ⟨attempts, rest, hattempts, hcalls, hstage⟩

/-- What a closed stream has asked of its device is nothing or a session. -/
theorem Stage.session {direction : Direction} {calls : List CallRecord}
    (h : Stage direction .closed calls) : calls = [] ∨ Session direction calls := by
  cases h with
  | holding opening body hs => cases hs
  | abandoned => exact .inl rfl
  | closed opening body running torn released hopening hbody huse =>
    exact .inr (.intro opening body torn released hopening hbody)

/-- It was proper, and has given the device back. -/
theorem Stage.leads {direction : Direction} {calls : List CallRecord}
    (h : Stage direction .closed calls) : ∃ running, Usage.Leads {} calls ⟨false, running⟩ := by
  cases h with
  | holding opening body hs => cases hs
  | abandoned => exact ⟨false, .nil _⟩
  | closed opening body running torn released hopening hbody huse =>
    have htorn : Usage.Leads ⟨true, running⟩ [⟨.device .tearDown, torn⟩] ⟨true, running⟩ :=
      .single rfl
    have hreleased : Usage.Leads ⟨true, running⟩ [⟨.device .dispose, released⟩] ⟨false, running⟩ :=
      .single rfl
    exact ⟨running, hopening.leads.append (huse.append (htorn.append hreleased))⟩

/-- The device protocol.  The record of a life is made of failed attempts and, at most, one session
after them.  At every call in it: a start comes only when no start has succeeded since the last stop
that did, a stop only when one has, and an acquisition that succeeds is followed by exactly one
disposal before the device is asked for again.  Operations rejected for the state of the stream or
for its handler make no call. -/
theorem calls_life (device : σ) (direction : Direction) (birth : Birth) (moves : List Move) :
    let calls := (birth.life (⟨device, []⟩ : Recorded σ) direction moves).calls
    (∃ (attempts : List (List CallRecord)) (session : List CallRecord),
      (∀ attempt ∈ attempts, FailedAttempt direction attempt) ∧
        calls = attempts.flatten ++ session ∧ (session = [] ∨ Session direction session)) ∧
    (∀ before r after, calls = before ++ r :: after →
      (r.call = .device .start → (Usage.afterAll {} before).running = false) ∧
      (r.call = .device .stop → (Usage.afterAll {} before).running = true) ∧
      (r.call.isAcquire = true → r.failure = none → Usage.disposes after = 1)) ∧
    (∀ (s : Stream (Recorded σ)) (m : Move) error, (m.run s).result = .error error →
      error.isRejection = true → (m.run s).stream = s) ∧
    (∀ (d d' : Recorded σ) requested handler options error log,
      Stream.open d direction requested handler options = .failed error d' log →
      error.isRejection = true → d' = d) := by
  intro calls
  -- The record as a whole is the invariant of a stream that is closed.
  obtain ⟨moves', hlife⟩ := birth.life_eq (⟨device, []⟩ : Recorded σ) direction moves
  obtain ⟨attempts, session, hattempts, hcalls, hstage⟩ :=
    ((Stream.Kept.fresh device direction).after moves').drop
  rw [← hlife] at hcalls
  rw [Stream.direction_after] at hattempts hstage
  obtain ⟨running, hsession⟩ := hstage.leads
  have huse : Usage.Leads {} calls ⟨false, running⟩ := by
    have hfailed : Usage.Leads {} attempts.flatten {} :=
      .flatten fun attempt h => (hattempts attempt h).leads
    show Usage.Leads {} (birth.life (⟨device, []⟩ : Recorded σ) direction moves).calls _
    rw [hcalls]
    exact hfailed.append hsession
  refine ⟨⟨attempts, session, hattempts, hcalls, hstage.session⟩, ?_, ?_, ?_⟩
  · -- Single calls are judged by the use made of the device before and after them.
    intro before r after hsplit
    obtain ⟨hproper, hend⟩ := huse
    rw [hsplit] at hproper hend
    have hpermits := Usage.proper_call hproper
    refine ⟨fun hstart => ?_, fun hstop => ?_, fun hacquire hgranted => ?_⟩
    · rw [hstart] at hpermits
      simpa [Usage.permits] using hpermits
    · rw [hstop] at hpermits
      exact hpermits
    · have hr : r = r.call.granted := by
        obtain ⟨call, failure⟩ := r
        subst hgranted
        rfl
      rw [hr] at hproper hend
      exact Usage.count_disposes hproper hacquire (congrArg Usage.held hend)
  · intro s m error hresult hrejection
    exact ((m.turn s).of_status?_eq_none hresult
      (StreamError.status?_of_isRejection hrejection)).1
  · intro d d' requested handler options error log hopen hrejection
    exact Stream.device_of_open_isRejection hopen hrejection

end PcmStream
