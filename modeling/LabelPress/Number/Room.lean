/-!
# Room for bytes

A count of bytes that is only declared may be any number, and a buffer of that size has to be there
before the first byte is known. Counts are signed words of 64 bits, and memory ends long before.

* `roomFor`: the room for a declared number of bytes, or why there is none.
* `roomFor_eq_ok_iff`: there is room exactly for the numbers from zero up to the bound.
-/

namespace LabelPress

/-- Why there is no room for a number of bytes. -/
inductive RoomError where
  /-- There cannot be fewer bytes than none. -/
  | negative
  /-- The number is no count. -/
  | beyondCount
  /-- No memory holds so many. -/
  | exhausted
deriving Repr, DecidableEq

/-- The wording of a failure; there is none for the end of memory. -/
def RoomError.message : RoomError → String
  | negative => "negative count"
  | beyondCount => "cannot fit 'int' into an index-sized integer"
  | exhausted => ""

/-- The first number that is too large for a count, up to its sign. -/
def countBound : Int := 0x8000000000000000

/-- The first number of bytes that no memory holds. -/
def memoryBound : Int := 0x10000000000

/-- **The room for a declared number of bytes.** -/
def roomFor (n : Int) : Except RoomError Nat :=
  if n < -countBound ∨ countBound ≤ n then .error .beyondCount
  else if n < 0 then .error .negative
  else if memoryBound ≤ n then .error .exhausted
  else .ok n.toNat

theorem roomFor_eq_ok_iff {n : Int} {m : Nat} :
    roomFor n = .ok m ↔ n = m ∧ n < memoryBound := by
  have bounds : memoryBound ≤ countBound := by decide
  have positive : 0 < countBound := by decide
  unfold roomFor
  by_cases h1 : n < -countBound ∨ countBound ≤ n
  · simp only [h1, if_true, reduceCtorEq, false_iff]
    omega
  · by_cases h2 : n < 0
    · simp only [h1, h2, if_true, if_false, reduceCtorEq, false_iff]
      omega
    · by_cases h3 : memoryBound ≤ n
      · simp only [h1, h2, h3, if_true, if_false, reduceCtorEq, false_iff]
        omega
      · simp only [h1, h2, h3, if_false, Except.ok.injEq]
        omega

end LabelPress
