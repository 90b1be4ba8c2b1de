import LabelPress.Number.Binary64

/-!
# Coordinates

What a drawing asks for may be any number, but the canvas counts in words of 32 bits and takes whole
coordinates through numbers of 24 significant bits. A coordinate with no room in 64 bits is lost.

* `checkWord`: does a number fit a word?
* `surfaceOf`, `dotOf`: a coordinate as the canvas compares and as it counts it; `dotOf_of_small`
  says that up to 24 bits it is left alone.
* `fitsMemory`: is there memory for the dots of a picture?
-/

namespace LabelPress

/-! ## Words -/

/-- How many words of 32 bits there are. -/
def wordCount : Int := 0x100000000

/-- The least word. -/
def leastWord : Int := -0x80000000

/-- The number of 32 bits that a count comes to if it starts again at the least word. -/
def wrapWord (n : Int) : Int := (n - leastWord) % wordCount + leastWord

/-- Has a number room in 64 bits? -/
def fitsLong (n : Int) : Bool := decide (-0x8000000000000000 ≤ n ∧ n < 0x8000000000000000)

/-- Why a number is no word of 32 bits. -/
inductive WordError where
  /-- It is too large. -/
  | tooLarge
  /-- It is too small. -/
  | tooSmall
  /-- It does not even fit 64 bits. -/
  | tooLong
deriving Repr, DecidableEq

/-- The wording of a failure. -/
def WordError.message : WordError → String
  | tooLarge => "signed integer is greater than maximum"
  | tooSmall => "signed integer is less than minimum"
  | tooLong => "Python int too large to convert to C long"

/-- **A number must fit a word.** -/
def checkWord (n : Int) : Except WordError Unit :=
  if !fitsLong n then .error .tooLong
  else if -leastWord ≤ n then .error .tooLarge
  else if n < leastWord then .error .tooSmall
  else .ok ()

/-! ## Coordinates -/

/-- The shapes that are drawn. -/
inductive Shape where
  /-- A box. -/
  | rectangle
  /-- An ellipse or an elliptic ring. -/
  | ellipse
  /-- A part of an ellipse. -/
  | sector
  /-- A part of an elliptic ring. -/
  | arc
deriving Repr, DecidableEq

/-- The name of the routine that draws a shape. -/
def Shape.method : Shape → String
  | rectangle => "draw_rectangle"
  | ellipse => "draw_ellipse"
  | sector => "draw_pieslice"
  | arc => "draw_arc"

/-- The nearest number of 24 significant bits, of two equally near ones the even one. -/
def nearestSingle (n : Int) : Int :=
  if n.natAbs < 0x1000000 then n
  else
    let unit : Int := 1 <<< (Nat.log2 n.natAbs - 23)
    Binary64.roundHalfEven ((n : Rat) / (unit : Rat)) * unit

/-- Is a coordinate lost? -/
def isLost (n : Int) : Bool := !fitsLong n

/-- **A coordinate as the canvas compares it**; lost ones all count as the one before the first. -/
def surfaceOf (n : Int) : Int := if isLost n then -1 else nearestSingle n

/-- A coordinate as the canvas counts it: those beyond 32 bits become the least word. -/
def countOf (n : Int) : Int := if n < leastWord ∨ -leastWord ≤ n then leastWord else n

/-- **The dot of a coordinate.** -/
def dotOf (n : Int) : Int := countOf (surfaceOf n)

/-- Coordinates of up to 24 bits are taken as they are. -/
theorem surfaceOf_of_small {n : Int} (h : n.natAbs < 0x1000000) : surfaceOf n = n := by
  have hl : isLost n = false := by
    simp only [isLost, fitsLong, Bool.not_eq_false', decide_eq_true_eq]
    omega
  simp [surfaceOf, hl, nearestSingle, h]

/-- Coordinates of up to 24 bits are dots. -/
theorem dotOf_of_small {n : Int} (h : n.natAbs < 0x1000000) : dotOf n = n := by
  rw [dotOf, surfaceOf_of_small h, countOf, if_neg (by simp only [leastWord]; omega)]

/-! ## Memory -/

/-- No row of a picture has more dots than this. -/
def longestRow : Nat := 0x1ffffffe

/-- The size of a block of memory that rows of dots share. -/
def blockSize : Nat := 0x1000000

/-- No more blocks than this can be had. -/
def mostBlocks : Nat := 65000

/-- **Is there memory** for the dots of a picture? -/
def fitsMemory (width height : Nat) : Bool :=
  let rowsOfBlock := max 1 (blockSize / max 1 width)
  width ≤ longestRow && (height + rowsOfBlock - 1) / rowsOfBlock ≤ mostBlocks

end LabelPress
