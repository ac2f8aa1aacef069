/-
  The use made of a device, read off the record of its calls.

  A `Usage` says of a point in a record whether the device is held — acquired and not disposed of
  since — and whether it runs — started since the last stop that succeeded.  `Usage.Proper` is the
  discipline of a whole record: nothing is acquired that is held or disposed of that is not, and a
  device is started only while it does not run and stopped only while it does.

  Both are read from left to right, so a record made of pieces is proper if the pieces are and each
  begins where the one before ended (`proper_append`).  Two readings of properness say what it means
  for single calls: `proper_call` for the moment of a call, and `count_disposes` for what has to
  follow a call that acquired.
-/
import PcmStream.Device.Recorded

namespace PcmStream

/-! ## Records -/

/-- The record of a call that succeeded. -/
def AnyCall.granted (call : AnyCall) : CallRecord := ⟨call, none⟩

/-- The record of a call that failed. -/
def AnyCall.rejected (call : AnyCall) (status : Status) : CallRecord := ⟨call, some status⟩

/-- Whether a call acquires a device. -/
def AnyCall.isAcquire : AnyCall → Bool
  | .device (.acquire ..) => true
  | _ => false

/-- Whether a call disposes of a device. -/
def AnyCall.isDispose : AnyCall → Bool
  | .device .dispose => true
  | _ => false

namespace Recorded

variable {σ : Type}

/-- What was asked of a device since it was as given. -/
def since (later earlier : Recorded σ) : List CallRecord :=
  later.calls.drop earlier.calls.length

theorem since_eq {later earlier : Recorded σ} {calls : List CallRecord}
    (h : later.calls = earlier.calls ++ calls) : later.since earlier = calls := by
  rw [since, h, List.drop_left]

/-- Nothing is asked of a device while nothing happens. -/
theorem since_self (r : Recorded σ) : r.since r = [] := List.drop_length

/-- What was asked in two stages is what was asked in each. -/
theorem since_append {a b c : Recorded σ} (hab : a.calls <+: b.calls)
    (hbc : b.calls <+: c.calls) : c.since a = b.since a ++ c.since b := by
  obtain ⟨xs, hb⟩ := hab
  obtain ⟨ys, hc⟩ := hbc
  rw [since_eq hb.symm, since_eq hc.symm]
  refine since_eq ?_
  rw [← hc, ← hb, List.append_assoc]

/-- A lifecycle call is recorded with its outcome, and nothing else is. -/
theorem calls_perform [Device σ] {c : DeviceCall} {r r' : Recorded σ} {result : Except Status Unit}
    (h : Device.perform c r = (result, r')) :
    r'.calls = r.calls ++ [⟨.device c, failure? result⟩] := by
  cases h
  rfl

/-- So is a request. -/
theorem calls_request [Hardware σ] {q : Request} {r r' : Recorded σ}
    {result : Except Status q.Answer} (h : Hardware.request q r = (result, r')) :
    r'.calls = r.calls ++ [⟨.request q, failure? result⟩] := by
  cases h
  rfl

end Recorded

/-! ## The use made of a device -/

/-- The use made of a device at some point of its record. -/
structure Usage where
  /-- Whether it was acquired and not disposed of since. -/
  held : Bool := false
  /-- Whether it was started since the last stop that succeeded. -/
  running : Bool := false
  deriving DecidableEq, Repr

namespace Usage

/-- The use after a call.  A call to acquire, start or stop counts if it succeeds; disposing counts
in any case. -/
def after (u : Usage) (r : CallRecord) : Usage :=
  match r.call, r.failure with
  | .device (.acquire ..), none => { u with held := true }
  | .device .start, none => { u with running := true }
  | .device .stop, none => { u with running := false }
  | .device .dispose, _ => { u with held := false }
  | _, _ => u

/-- Whether the use made of a device permits a call. -/
def permits (u : Usage) : AnyCall → Bool
  | .device (.acquire ..) => !u.held
  | .device .start => !u.running
  | .device .stop => u.running
  | .device .dispose => u.held
  | _ => true

/-- The use after calls in order. -/
def afterAll (u : Usage) (calls : List CallRecord) : Usage := calls.foldl after u

/-- Whether every call is permitted at its time. -/
def Proper : Usage → List CallRecord → Prop
  | _, [] => True
  | u, r :: rest => u.permits r.call = true ∧ (u.after r).Proper rest

variable {u : Usage}

theorem afterAll_append (u : Usage) (xs ys : List CallRecord) :
    u.afterAll (xs ++ ys) = (u.afterAll xs).afterAll ys := List.foldl_append

theorem proper_append {xs ys : List CallRecord} :
    u.Proper (xs ++ ys) ↔ u.Proper xs ∧ (u.afterAll xs).Proper ys := by
  induction xs generalizing u with
  | nil => exact ⟨fun h => ⟨trivial, h⟩, fun h => h.2⟩
  | cons x xs ih =>
    show u.permits x.call = true ∧ (u.after x).Proper (xs ++ ys) ↔
      (u.permits x.call = true ∧ (u.after x).Proper xs) ∧ ((u.after x).afterAll xs).Proper ys
    rw [ih, and_assoc]

/-- A proper piece of a record that begins with one use of the device and ends with another. -/
structure Leads (u : Usage) (calls : List CallRecord) (u' : Usage) : Prop where
  /-- The piece is proper. -/
  proper : u.Proper calls
  /-- The use it ends with. -/
  afterAll_eq : u.afterAll calls = u'

namespace Leads

variable {u' u'' : Usage} {xs ys : List CallRecord}

theorem nil (u : Usage) : u.Leads [] u := ⟨trivial, rfl⟩

theorem single {r : CallRecord} (h : u.permits r.call = true) : u.Leads [r] (u.after r) :=
  ⟨⟨h, trivial⟩, rfl⟩

theorem append (hx : u.Leads xs u') (hy : u'.Leads ys u'') : u.Leads (xs ++ ys) u'' := by
  refine ⟨proper_append.mpr ⟨hx.proper, ?_⟩, ?_⟩
  · rw [hx.afterAll_eq]
    exact hy.proper
  · rw [afterAll_append, hx.afterAll_eq, hy.afterAll_eq]

/-- Pieces that each begin and end with the same use make up a piece that does. -/
theorem flatten {pieces : List (List CallRecord)} (h : ∀ piece ∈ pieces, u.Leads piece u) :
    u.Leads pieces.flatten u := by
  induction pieces with
  | nil => exact nil u
  | cons piece rest ih =>
    have hrest := ih fun p hp => h p (List.mem_cons_of_mem _ hp)
    exact (h piece List.mem_cons_self).append hrest

/-- Requests are always permitted and change nothing. -/
theorem requests (u : Usage) (list : List Request) :
    u.Leads (list.map fun q => AnyCall.granted (.request q)) u := by
  induction list with
  | nil => exact nil u
  | cons q rest ih => exact (single (r := AnyCall.granted (.request q)) rfl).append ih

end Leads

/-! ## What properness says of single calls -/

/-- In a proper record every call is permitted by the use made of the device so far. -/
theorem proper_call {before after : List CallRecord} {r : CallRecord}
    (h : u.Proper (before ++ r :: after)) : (u.afterAll before).permits r.call = true :=
  (proper_append.mp h).2.1

/-- The number of times that a device is disposed of before it is asked for again. -/
def disposes (calls : List CallRecord) : Nat :=
  (calls.takeWhile fun r => !r.call.isAcquire).countP fun r => r.call.isDispose

theorem disposes_of_isAcquire {r : CallRecord} (h : r.call.isAcquire = true)
    (rest : List CallRecord) : disposes (r :: rest) = 0 := by
  rw [disposes, List.takeWhile_cons, h]
  rfl

theorem disposes_cons {r : CallRecord} (h : r.call.isAcquire = false) (rest : List CallRecord) :
    disposes (r :: rest) = disposes rest + if r.call.isDispose then 1 else 0 := by
  rw [disposes, List.takeWhile_cons, h]
  exact List.countP_cons

/-- A device that is held and finally is not any more is disposed of once before it is asked for
again, and one that is not held is not. -/
theorem disposes_of_proper {calls : List CallRecord} (h : u.Proper calls)
    (hend : (u.afterAll calls).held = false) : disposes calls = if u.held then 1 else 0 := by
  -- From the front: only a granted acquisition makes the device held, and it ends the count.
  induction calls generalizing u with
  | nil =>
    have hu : u.held = false := hend
    rw [hu]
    rfl
  | cons r rest ih =>
    obtain ⟨hr, hrest⟩ := h
    have hrest := ih hrest hend
    obtain ⟨call, failure⟩ := r
    cases call with
    | request q => rw [disposes_cons rfl, hrest]; rfl
    | device c =>
      cases c with
      | acquire direction options =>
        have hu : u.held = false := by simpa [permits] using hr
        rw [disposes_of_isAcquire rfl, hu]
        rfl
      | dispose =>
        have hu : u.held = true := hr
        rw [disposes_cons rfl, hrest, hu]
        rfl
      | start => cases failure <;> · rw [disposes_cons rfl, hrest]; rfl
      | stop => cases failure <;> · rw [disposes_cons rfl, hrest]; rfl
      | parameters => rw [disposes_cons rfl, hrest]; rfl
      | register callback => rw [disposes_cons rfl, hrest]; rfl
      | tearDown => rw [disposes_cons rfl, hrest]; rfl

/-- In a proper record that ends with the device given back, every call that acquired it is followed
by exactly one that disposes of it, before it is asked for again. -/
theorem count_disposes {before after : List CallRecord} {call : AnyCall}
    (h : u.Proper (before ++ call.granted :: after)) (hcall : call.isAcquire = true)
    (hend : (u.afterAll (before ++ call.granted :: after)).held = false) : disposes after = 1 := by
  obtain ⟨-, -, hafter⟩ := proper_append.mp h
  rw [afterAll_append] at hend
  have hheld : ((u.afterAll before).after call.granted).held = true := by
    cases call with
    | request q => cases hcall
    | device c => cases c <;> first | rfl | cases hcall
  rw [disposes_of_proper hafter hend, hheld]
  rfl

end Usage

end PcmStream
