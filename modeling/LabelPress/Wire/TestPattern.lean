import LabelPress.Label.Size
import LabelPress.Mono.Bitmap
import LabelPress.Number.Room

/-!
# The test pattern

A black frame two dots wide around diagonal stripes, each four dots of eight.

* `isStripe`: which dots are white.
* `testPattern?`: the pattern as a packed bitmap, for any size that there is room for.
-/

namespace LabelPress.Wire

/-- The width of the frame. -/
def frameWidth : Nat := 2

/-- The height of the printed pattern. -/
def testPatternHeight : Nat := 50

/-- Is the dot of a pattern of the given size white? -/
def isStripe (width height x y : Nat) : Bool :=
  decide (frameWidth ≤ x) && decide (x + frameWidth < width) && decide (frameWidth ≤ y) &&
    decide (y + frameWidth < height) && decide ((x + y) % 8 < 4)

/-- The pattern of a size in dots. -/
def testPattern (width height : Nat) : List UInt8 := packRows width height (isStripe width height)

/--
**The pattern of any size.** Sizes with a negative side have no dots; what is left are as many zero
bytes as rows of so many bytes would have, if there is room for them.
-/
def testPattern? (width height : Int) : Except RoomError (List UInt8) :=
  (roomFor (rowBytesOf width * height)).map fun count =>
    if width < 0 ∨ height < 0 then List.replicate count 0
    else testPattern width.toNat height.toNat

theorem length_testPattern (width height : Nat) :
    (testPattern width height).length = height * ((width + 7) / 8) := length_packRows ..

end LabelPress.Wire
