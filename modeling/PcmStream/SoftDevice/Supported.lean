/-
  Sets of supported values, and the supported value nearest to a given one.

  Of two candidates the closer one wins, and at the same distance the smaller one; so the choice
  depends on the set alone and not on how it is listed.
-/

namespace PcmStream

/-- A set of supported values. -/
inductive Supported
  /-- Every value. -/
  | any
  /-- The listed values only. -/
  | only (values : List Nat)
  deriving DecidableEq, Repr

namespace Supported

/-- The distance of two numbers. -/
def distance (a b : Nat) : Nat := (a - b) + (b - a)

/-- Whether `a` is to be preferred to `b` as a substitute for `value`: it is closer, or as close and
not larger. -/
def preferred (value a b : Nat) : Bool :=
  distance a value < distance b value || (distance a value == distance b value && a ≤ b)

/-- The candidate nearest to a value, the smaller one on a tie. -/
def nearestOf (value : Nat) : List Nat → Option Nat
  | [] => none
  | c :: cs =>
    match nearestOf value cs with
    | none => some c
    | some best => some (if preferred value c best then c else best)

/-- Whether a value is supported. -/
def contains : Supported → Nat → Bool
  | any, _ => true
  | only values, value => values.contains value

/-- The supported value nearest to the given one, the smaller one on a tie. -/
def nearest : Supported → Nat → Option Nat
  | any, value => some value
  | only values, value => nearestOf value values

/-- The supported value of at most `bound` that is nearest to the given one, the smaller one on a
tie. -/
def nearestAtMost : Supported → Nat → Nat → Option Nat
  | any, value, bound => some (min value bound)
  | only values, value, bound => nearestOf value (values.filter (· ≤ bound))

example : (only [44100, 48000, 96000]).nearest 50000 = some 48000 := by decide
example : (only [200, 100]).nearest 150 = some 100 := by decide
example : (only [64, 512]).nearestAtMost 256 128 = some 64 := by decide

end Supported

end PcmStream
