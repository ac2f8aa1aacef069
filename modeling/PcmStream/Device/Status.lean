/-
  Status codes: how a platform says why a call failed.
-/

namespace PcmStream

/-- A status code reported by the platform. -/
structure Status where
  /-- The raw code. -/
  code : Int
  deriving DecidableEq, Repr

/-- The text of a status. -/
def Status.message (s : Status) : String := "(" ++ toString s.code ++ ")"

namespace Status

/-- The device is in use already. -/
def busy : Status := ⟨-16⟩

/-- An argument is not supported. -/
def invalid : Status := ⟨-22⟩

/-- The device is not in a state for the call. -/
def badState : Status := ⟨-77⟩

end Status

end PcmStream
