import LabelPress.Label.Size
import LabelPress.Mono.Dither

/-!
# Packed bitmaps

Eight dots to the byte, the leftmost in the highest bit, each row filled up to whole bytes with
zeros. A bit 1 is white.

* `packRows`: a predicate on dots as a packed bitmap.
* `toMono`: gray values as a packed bitmap, with or without error diffusion.
* `length_packRows`: a packed bitmap has as many bytes as its rows need.
-/

namespace LabelPress

/-- The byte whose bits, from the highest down, are the values of `bit` at 0 to 7. -/
def packByte (bit : Nat → Bool) : UInt8 :=
  UInt8.ofNat ((List.range 8).foldl (fun n k => 2 * n + (bit k).toNat) 0)

/-- The bytes of a row of `width` dots, the columns beyond it zero. -/
def packRow (width : Nat) (white : Nat → Bool) : List UInt8 :=
  (List.range ((width + 7) / 8)).map fun b =>
    packByte fun k => decide (8 * b + k < width) && white (8 * b + k)

/-- **A predicate on dots as a packed bitmap.** -/
def packRows (width height : Nat) (white : Nat → Nat → Bool) : List UInt8 :=
  (List.range height).flatMap fun y => packRow width (white · y)

theorem length_packRow (width : Nat) (white : Nat → Bool) :
    (packRow width white).length = (width + 7) / 8 := by
  simp [packRow]

theorem length_packRows (width height : Nat) (white : Nat → Nat → Bool) :
    (packRows width height white).length = height * ((width + 7) / 8) := by
  simp only [packRows, List.length_flatMap, length_packRow, List.map_const', List.length_range,
    List.sum_replicate_nat]

/-- Why gray values are no picture. -/
inductive MonoError where
  /-- A picture has at least one column and one row. -/
  | emptySize (width height : Int)
  /-- There is not one value for each dot. -/
  | wrongCount (expected : Int) (count : Nat)
  /-- The arithmetic has no result. -/
  | reckoning (e : ArithmeticError)
deriving Repr, DecidableEq

/-- The wording of a failure. -/
def MonoError.message : MonoError → String
  | emptySize w h => s!"Bitmap size must be positive, got {w}x{h}"
  | wrongCount expected count => s!"Expected {expected} pixels, got {count}"
  | reckoning e => e.message

section
variable {α : Type} [GrayArithmetic α]

/-- The packed bitmap of a picture: white where the value is light, after diffusion if wanted. -/
@[specialize]
def packGray (gray : Array α) (width height : Nat) (diffuse : Bool) : List UInt8 :=
  let gray := if diffuse then dither width height gray else gray
  packRows width height fun x y => (gray[y * width + x]?.map GrayArithmetic.isLight).getD false

/-- **Gray values as a packed bitmap.** -/
@[specialize]
def toMono (gray : Array α) (width height : Int) (diffuse : Bool) : Except MonoError (List UInt8) :=
  if width ≤ 0 ∨ height ≤ 0 then .error (.emptySize width height)
  else if (gray.size : Int) ≠ width * height then .error (.wrongCount (width * height) gray.size)
  else .ok (packGray gray width.toNat height.toNat diffuse)

end

/--
Measures as a packed bitmap. Diffusion reckons with doubles, so it refuses whole numbers beyond
them; the threshold alone does not.
-/
def toMonoOfMeasures (gray : Array Measure) (width height : Int) (diffuse : Bool) :
    Except MonoError (List UInt8) := do
  let bitmap ← toMono (gray.map Measure.toFloat) width height diffuse
  if diffuse then
    for m in gray do
      let _ ← m.toFloat?.mapError .reckoning
  return bitmap

end LabelPress
