import LabelPress.Label.PreviewFormat
import LabelPress.Label.Render

/-!
# Stored previews

A preview is stored as large as the label, unless the format is one of icons. Those have sizes of
their own, and the label is scaled to them: each dot of the icon shows the dot of the label on which
its middle lies.

* `iconSize?`: the size of the icon that a label is scaled to.
* `middles`: the columns or rows that a scaled picture shows.
* `RenderedLabel.picture`: the picture as large as the label.
* `RenderedLabel.stored?`: the picture that is stored in a format.
* `size_middles`: a scaled picture has as many columns and rows as it should.
-/

namespace LabelPress

/-- A picture of one bit per dot. -/
structure BitPicture where
  /-- The number of columns. -/
  width : Nat
  /-- The number of rows. -/
  height : Nat
  /-- The packed rows, 1 for white. -/
  bitmap : List UInt8
deriving Repr, DecidableEq

/-- The sides of the squares into which icons fit. -/
def iconSides : List Nat := [16, 24, 32, 48, 64, 128, 256]

/-- The side of the largest square for icons that fits into a picture. -/
def iconSide? (width height : Nat) : Option Nat :=
  iconSides.reverse.find? fun side => side ≤ width ∧ side ≤ height

/-- The whole number next to `x`, but one at least; of its two neighbours the one that `error` finds
better, the smaller one if it finds no difference. -/
def nextTo (x : Float) (error : Nat → Float) : Nat :=
  let below := x.floor.toUInt64.toNat
  let above := x.ceil.toUInt64.toNat
  max 1 (if error above < error below then above else below)

/-- The size of a picture scaled into a square of a given side, with sides in proportion. -/
def fitInto (side width height : Nat) : Nat × Nat :=
  let length := Float.ofNat side
  let aspect := Float.ofNat width / Float.ofNat height
  if aspect ≤ 1 then
    (nextTo (length * aspect) fun n => (aspect - Float.ofNat n / length).abs, side)
  else
    (side, nextTo (length / aspect) fun n =>
      if n = 0 then 0 else (aspect - length / Float.ofNat n).abs)

/-- **The size of the icon** that a picture is scaled to, if it is not smaller than every icon. -/
def iconSize? (width height : Nat) : Option (Nat × Nat) :=
  (iconSide? width height).map fun side => fitInto side width height

/-- The columns or rows of `source` that a picture of `target` of them shows: one for each, where
the middle of its part lies. -/
def middles (source target : Nat) : Array Nat :=
  let step := Float.ofNat source / Float.ofNat target
  go step target (step * 0.5) #[]
where
  /-- Those of `n` further parts, the middle of the first one being at `middle`. -/
  go (step : Float) : Nat → (middle : Float) → Array Nat → Array Nat
    | 0, _, found => found
    | n + 1, middle, found => go step n (middle + step) (found.push middle.toUInt64.toNat)

theorem middles.size_go (step : Float) (n : Nat) (middle : Float) (found : Array Nat) :
    (middles.go step n middle found).size = found.size + n := by
  induction n generalizing middle found with
  | zero => rfl
  | succ n ih => rw [middles.go, ih, Array.size_push]; omega

theorem size_middles (source target : Nat) : (middles source target).size = target := by
  rw [middles, middles.size_go, Array.size_empty, Nat.zero_add]

namespace RenderedLabel

/-- The picture of a label scaled to a size. -/
def scaledTo (l : RenderedLabel) (width height : Nat) : BitPicture :=
  ⟨width, height, l.previewOf (middles l.width.toNat width) (middles l.height.toNat height)⟩

/-- **The picture of a label**, as large as the label. -/
def picture (l : RenderedLabel) : BitPicture := ⟨l.width.toNat, l.height.toNat, l.preview⟩

/-- **The picture of a label that is stored in a format**; there is none if the label is smaller
than every icon. -/
def stored? (l : RenderedLabel) (format : PreviewFormat) : Option BitPicture :=
  match format.size with
  | .own => some l.picture
  | .icon => (iconSize? l.width.toNat l.height.toNat).map fun (w, h) => l.scaledTo w h
  | .square side => some (l.scaledTo side side)

end RenderedLabel

end LabelPress
