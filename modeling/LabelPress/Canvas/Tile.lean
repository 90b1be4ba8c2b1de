import LabelPress.Canvas.Draw
import LabelPress.Font.Face

/-!
# Tiles

A tile is a rectangle of mask values that is laid onto the canvas. A text is set on a tile,
stretched to the wanted width, given a margin, and turned.

* `Glyphs.coverage`: the mask of a set text.
* `Stretched.coverage`: the same text at another width, by bicubic interpolation along the rows.
* `Tile.turn`: a tile turned clockwise by quarters.
-/

namespace LabelPress

/-- A rectangle of mask values, zero outside. -/
structure Tile where
  /-- The number of columns. -/
  width : Int
  /-- The number of rows. -/
  height : Int
  /-- The mask value at a column and a row. -/
  mask : Int → Int → UInt8

/-! ## Set text -/

/-- A text set in one font on an area of its own length. -/
structure Glyphs where
  /-- The number of columns. -/
  width : Nat
  /-- The number of rows. -/
  height : Nat
  /-- The mask as the face gives it. -/
  ink : Nat → Nat → UInt8

/-- **The mask of a set text**, cut to its area. -/
def Glyphs.coverage (g : Glyphs) (x y : Nat) : UInt8 :=
  if x < g.width ∧ y < g.height then g.ink x y else 0

/-! ## Stretching -/

/-- The bicubic weight at a distance. -/
def bicubic (distance : Float) : Float :=
  let x := distance.abs
  if x < 1 then ((1.5 * x - 2.5) * x) * x + 1
  else if x < 2 then (((x - 5) * x + 8) * x - 4) * (-0.5)
  else 0

/-- What one column of the result takes from the columns of the source, in units of `2 ^ -22`. -/
structure Tap where
  /-- The first source column. -/
  start : Nat
  /-- The weights of it and the columns after it. -/
  weights : List Int
deriving Repr

/-- A weight as a whole number of units, rounded to nearest. -/
def fixedWeight (w : Float) : Int :=
  let scaled := w * 4194304
  (if w < 0 then scaled - 0.5 else scaled + 0.5).toInt64.toInt

/-- The taps of column `xx` when `m` columns become `n`. -/
def tapOf (m n xx : Nat) : Tap :=
  let scale := Float.ofNat m / Float.ofNat n
  let spread := if scale < 1 then 1 else scale
  let support := 2 * spread
  let inverse := 1 / spread
  let center := (Float.ofNat xx + 0.5) * scale
  let first := (max 0 (center - support + 0.5).toInt64.toInt).toNat
  let last := (min (m : Int) (center + support + 0.5).toInt64.toInt).toNat
  let weights := (List.range' first (last - first)).map fun x =>
    bicubic ((Float.ofNat x - center + 0.5) * inverse)
  let total := weights.foldl (· + ·) 0
  ⟨first, weights.map fun w => fixedWeight (if total == 0 then w else w / total)⟩

/-- A number of units of `2 ^ -22` as a mask value, rounded and limited. -/
def fixedToMask (n : Int) : UInt8 := UInt8.ofNat (min 255 ((n + 2097152).fdiv 4194304).toNat)

/-- A set text at another width; at its own width it is left as it is. -/
structure Stretched where
  /-- The text at its natural width. -/
  glyphs : Glyphs
  /-- The number of columns. -/
  width : Nat

namespace Stretched

/-- The sum of a tap's weights times the mask values they apply to. -/
def weighted (g : Glyphs) (y : Nat) : Nat → List Int → Int
  | _, [] => 0
  | x, w :: ws => (g.coverage x y).toNat * w + weighted g y (x + 1) ws

/-- **The mask of a stretched text.** -/
def coverage (s : Stretched) (x y : Nat) : UInt8 :=
  if s.width = s.glyphs.width then s.glyphs.coverage x y
  else if x < s.width then
    let tap := tapOf s.glyphs.width s.width x
    fixedToMask (weighted s.glyphs y tap.start tap.weights)
  else 0

end Stretched

/-! ## Turning -/

/-- A turn by whole quarters. -/
inductive Turn where
  /-- None. -/
  | none
  /-- A quarter turn clockwise. -/
  | quarter
  /-- A half turn. -/
  | half
  /-- Three quarters of a turn clockwise. -/
  | threeQuarters
deriving Repr, DecidableEq

/-- The turn by a number of degrees, whole turns not counted. -/
def Turn.ofDegrees? (degrees : Int) : Except DrawError Turn :=
  match degrees % 360 with
  | 0 => .ok .none
  | 90 => .ok .quarter
  | 180 => .ok .half
  | 270 => .ok .threeQuarters
  | d => .error (.unsupportedRotation d)

/-- **A tile turned clockwise.** -/
def Tile.turn (t : Tile) : Turn → Tile
  | .none => t
  | .quarter => ⟨t.height, t.width, fun x y => t.mask y (t.height - 1 - x)⟩
  | .half => ⟨t.width, t.height, fun x y => t.mask (t.width - 1 - x) (t.height - 1 - y)⟩
  | .threeQuarters => ⟨t.height, t.width, fun x y => t.mask (t.width - 1 - y) x⟩

/-! ## Laying a tile down -/

/-- A position must fit 32 bits. -/
def checkPosition (v : Int) : Except DrawError Unit := (checkWord v).mapError .position

/-- All four edges of a tile must have positions that fit, checked left, top, right, bottom. -/
def checkEdges (left top width height : Int) : Except DrawError Unit := do
  checkPosition left
  checkPosition top
  checkPosition (left + width)
  checkPosition (top + height)

/-- **A colour laid onto the canvas through a tile** whose corner is at `(left, top)`. -/
def Canvas.stencil (c : Canvas) (t : Tile) (left top : Int) (color : UInt8) : Canvas :=
  c.paint ⟨left, top, left + t.width, top + t.height⟩ fun x y a =>
    Canvas.blend (t.mask (x - left) (y - top)) a color

end LabelPress
