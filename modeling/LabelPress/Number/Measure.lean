import LabelPress.Number.Binary64

/-!
# Measures

A measure is a whole number of any size or a double. Reckoning with a measure is reckoning with
doubles, so a whole number beyond every double cannot take part, and a result that is no number or
infinite has no integer part.
-/

namespace LabelPress

/-- Why a reckoning has no result. -/
inductive ArithmeticError where
  /-- A whole number exceeds every double. -/
  | integerTooLarge
  /-- A quotient exceeds every double. -/
  | quotientTooLarge
  /-- The integer part of what is no number. -/
  | notANumber
  /-- The integer part of an infinity. -/
  | infinite
deriving Repr, DecidableEq

/-- The wording of a failure. -/
def ArithmeticError.message : ArithmeticError → String
  | integerTooLarge => "int too large to convert to float"
  | quotientTooLarge => "integer division result too large for a float"
  | notANumber => "cannot convert float NaN to integer"
  | infinite => "cannot convert float infinity to integer"

/-- A whole number or a double. -/
inductive Measure where
  /-- A whole number. -/
  | whole (n : Int)
  /-- A double. -/
  | real (x : Float)
deriving Repr

namespace Measure

/-- The double nearest to a whole number. -/
def ofInt? (n : Int) : Except ArithmeticError Float :=
  if Binary64.isFinite n then .ok (Binary64.toFloat n) else .error .integerTooLarge

/-- The double nearest to a measure. -/
def toFloat? : Measure → Except ArithmeticError Float
  | whole n => ofInt? n
  | real x => .ok x

/-- The double nearest to a measure, an infinity if it exceeds them all. -/
def toFloat : Measure → Float
  | whole n => Binary64.toFloat n
  | real x => x

/-- Is the measure less than a whole number? -/
def ltNat (m : Measure) (n : Nat) : Bool :=
  match m with
  | whole k => decide (k < n)
  | real x => decide (x < Float.ofNat n)

/-- Is the measure greater than a whole number? -/
def gtNat (m : Measure) (n : Nat) : Bool :=
  match m with
  | whole k => decide ((n : Int) < k)
  | real x => decide (Float.ofNat n < x)

/-- Is the measure at most a whole number? -/
def leNat (m : Measure) (n : Nat) : Bool :=
  match m with
  | whole k => decide (k ≤ n)
  | real x => decide (x ≤ Float.ofNat n)

/-- A measure as an extent: what is no number has none, and an infinity exceeds every double. -/
def extent : Measure → Rat
  | whole n => n
  | real x =>
    let beyond : Rat := (2 : Rat) ^ (1024 : Int)
    (Binary64.ofFloat? x).getD (if x.isNaN then 0 else if 0 < x then beyond else -beyond)

end Measure

/-- The integer part of a double, rounded down. -/
def floorFloat? (x : Float) : Except ArithmeticError Int :=
  if x.isNaN then .error .notANumber
  else match Binary64.ofFloat? x with
    | none => .error .infinite
    | some q => .ok q.floor

/-- The integer part of a double, rounded up. -/
def ceilFloat? (x : Float) : Except ArithmeticError Int :=
  if x.isNaN then .error .notANumber
  else match Binary64.ofFloat? x with
    | none => .error .infinite
    | some q => .ok q.ceil

/-- A measure rounded up to a whole number. -/
def Measure.ceil? : Measure → Except ArithmeticError Int
  | whole n => .ok n
  | real x => ceilFloat? x

end LabelPress
