import LabelPress.Canvas.Draw
import LabelPress.Number.Measure

/-!
# The size of a label

Labels are measured in millimetres and printed in dots, eight to the millimetre. The print head
limits the width on both sides.

* `dotsOf`: a length in dots, a half rounded up.
* `LabelSize.ofMillimetres`: the size in dots of a label that can be printed.
-/

namespace LabelPress

/-- Dots to the millimetre. -/
def dotsPerMm : Nat := 8

/-- The narrowest label, in millimetres. -/
def minWidthMm : Nat := 20

/-- The widest label, in millimetres. -/
def maxWidthMm : Nat := 48

/-- **A length in dots**, a half rounded up. -/
def dotsOf : Measure → Except ArithmeticError Int
  | .whole n => do floorFloat? ((← Measure.ofInt? (n * dotsPerMm)) + 0.5)
  | .real x => floorFloat? (x * Float.ofNat dotsPerMm + 0.5)

/-- The bytes of a row of `width` dots, eight to the byte. -/
def rowBytesOf (width : Int) : Int := (width + 7).fdiv 8

theorem rowBytesOf_eq_ediv (width : Int) : rowBytesOf width = (width + 7) / 8 :=
  Int.fdiv_eq_ediv_of_nonneg _ (by decide)

/-- A size in dots. -/
structure LabelSize where
  /-- The width in dots. -/
  width : Int
  /-- The height in dots. -/
  height : Int
deriving Repr, DecidableEq

/-- The bytes of one row. -/
def LabelSize.rowBytes (s : LabelSize) : Int := rowBytesOf s.width

/-- Why a label has no size in dots. -/
inductive LabelSizeError where
  /-- Narrower than the narrowest label. -/
  | tooNarrow
  /-- Wider than the widest label. -/
  | tooWide
  /-- No height. -/
  | noHeight
  /-- Wider than the print head. -/
  | beyondHead
  /-- Lower than one dot. -/
  | belowOneDot
  /-- The millimetres cannot be turned into dots. -/
  | reckoning (e : ArithmeticError)
deriving Repr, DecidableEq

/-- The wording of a failure. -/
def LabelSizeError.message : LabelSizeError → String
  | tooNarrow => s!"Width must be at least {minWidthMm}mm"
  | tooWide => s!"Width cannot exceed {maxWidthMm}mm"
  | noHeight => "Height must be greater than 0"
  | beyondHead => s!"Width exceeds maximum printable width ({maxWidth}px)"
  | belowOneDot => "Height must be at least one dot"
  | reckoning e => e.message

/-- **The size in dots** of a label that can be printed. -/
def LabelSize.ofMillimetres (width height : Measure) : Except LabelSizeError LabelSize := do
  if width.ltNat minWidthMm then throw .tooNarrow
  if width.gtNat maxWidthMm then throw .tooWide
  if height.leNat 0 then throw .noHeight
  let w ← (dotsOf width).mapError .reckoning
  let h ← (dotsOf height).mapError .reckoning
  if (maxWidth : Int) < w then throw .beyondHead
  if h < 1 then throw .belowOneDot
  return ⟨w, h⟩

end LabelPress
