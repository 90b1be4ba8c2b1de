import LabelPress.Canvas.Basic
import LabelPress.Canvas.Coordinate
import LabelPress.Font.Face

/-!
# Drawing

Drawing changes a canvas and may fail on the way; what was drawn before the failure stays. The
state of a drawing is therefore the canvas, and a failure does not undo it.

* `blend`: a gray value seen through a mask; `blend_zero` and `blend_full` are its two ends.
* `fillBox`, `strokeBox`: boxes given by two corners, which fail when the corners are reversed.
* `fillRect`, `strokeRect`: boxes given by a corner and a size.
-/

namespace LabelPress

/-- Why a drawing fails. -/
inductive DrawError where
  /-- A canvas has at least one column and one row. -/
  | emptyCanvas (width height : Int)
  /-- A canvas is no wider than the print head. -/
  | canvasTooWide (width : Int)
  /-- The right edge lies left of the left edge. -/
  | reversedColumns
  /-- The bottom edge lies above the top edge. -/
  | reversedRows
  /-- A tile has a negative side. -/
  | negativeSize
  /-- A colour has no room in 64 bits. -/
  | colorTooLong
  /-- A position or size has no room in a word. -/
  | position (e : WordError)
  /-- A coordinate of a shape was lost, because it has no room in 64 bits. -/
  | lostCoordinate (shape : Shape)
  /-- A coordinate exceeds every double. -/
  | coordinateTooLarge
  /-- A bitmap has more bytes than can be counted. -/
  | bitmapTooLong
  /-- A picture has more dots than memory holds. -/
  | outOfMemory
  /-- The font cannot be had, or gives no answer. -/
  | font (e : FontError)
  /-- A text has no size in dots. -/
  | textSize (e : ArithmeticError)
  /-- Text is turned by quarters only. -/
  | unsupportedRotation (degrees : Int)
  /-- A quotient exceeds every double. -/
  | quotientTooLarge
deriving Repr, DecidableEq

/-- The number of dots of the print head. -/
def maxWidth : Nat := 384

/-- The wording of a failure. -/
def DrawError.message : DrawError → String
  | emptyCanvas w h => s!"Canvas size must be positive, got {w}x{h}"
  | canvasTooWide w => s!"Canvas width ({w}px) exceeds maximum ({maxWidth}px)"
  | reversedColumns => "x1 must be greater than or equal to x0"
  | reversedRows => "y1 must be greater than or equal to y0"
  | negativeSize => "Width and height must be >= 0"
  | colorTooLong => "int too big to convert"
  | position e => e.message
  | lostCoordinate shape =>
    s!"<method '{shape.method}' of 'ImagingDraw' objects> returned a result with an exception set"
  | coordinateTooLarge => "int too large to convert to float"
  | bitmapTooLong => "Python int too large to convert to C ssize_t"
  | outOfMemory => ""
  | font e => e.message
  | textSize e => e.message
  | unsupportedRotation d => s!"Unsupported rotation: {d}"
  | quotientTooLarge => "integer division result too large for a float"

/-- A drawing: it changes a canvas, and it may fail while the changes made so far stay. -/
abbrev Draw := ExceptT DrawError (StateM Canvas)

namespace Canvas

/-- Change the canvas. -/
def edit (f : Canvas → Canvas) : Draw Unit := modify f

/-- A picture of a size must have sides that fit 32 bits, and has to fit into memory. -/
def checkSize (width height : Int) : Except DrawError Unit := do
  if width < 0 ∨ height < 0 then throw .negativeSize
  (checkWord width).mapError .position
  (checkWord height).mapError .position
  if !fitsMemory width.toNat height.toNat then throw .outOfMemory

/-- **A new canvas** of a size that the print head can take. -/
def new? (width height : Int) : Except DrawError Canvas := do
  if width ≤ 0 ∨ height ≤ 0 then throw (.emptyCanvas width height)
  if (maxWidth : Int) < width then throw (.canvasTooWide width)
  checkSize width height
  return blank width.toNat height.toNat

/--
The gray value `b` laid over `a` through a mask of strength `m`: the weighted mean of both, rounded
to nearest.
-/
def blend (m a b : UInt8) : UInt8 :=
  let t := a.toNat * (255 - m.toNat) + b.toNat * m.toNat + 128
  UInt8.ofNat (((t >>> 8) + t) >>> 8)

theorem blend_zero : ∀ a b : UInt8, blend 0 a b = a := by
  intro a b
  have : ∀ n < 256,
      UInt8.ofNat (((n * 255 + 128) >>> 8 + (n * 255 + 128)) >>> 8) = UInt8.ofNat n := by
    decide +kernel
  have h := this a.toNat a.toNat_lt
  simpa [blend] using h

theorem blend_full : ∀ a b : UInt8, blend 255 a b = b := by
  intro a b
  have : ∀ n < 256,
      UInt8.ofNat (((n * 255 + 128) >>> 8 + (n * 255 + 128)) >>> 8) = UInt8.ofNat n := by
    decide +kernel
  have h := this b.toNat b.toNat_lt
  simpa [blend] using h

/-- **The gray value of a colour**: numbers below black are black, those above white are white. -/
def grayOf (color : Int) : Except DrawError UInt8 :=
  if fitsLong color then .ok (UInt8.ofNat (min 255 color).toNat) else .error .colorTooLong

/-- A failure that leaves the canvas as it is. -/
def ofExcept {α : Type} (r : Except DrawError α) : Draw α := ExceptT.mk (pure r)

/-- Give every pixel of a region one colour. -/
def fill (c : Canvas) (r : Region) (color : UInt8) : Canvas := c.paint r fun _ _ _ => color

/-- The corners of a box as the canvas takes them; the second may not lie left of or above the
first. -/
def checkCorners (x0 y0 x1 y1 : Int) : Draw Unit :=
  if surfaceOf x1 < surfaceOf x0 then throw .reversedColumns
  else if surfaceOf y1 < surfaceOf y0 then throw .reversedRows
  else pure ()

/-- A shape with a lost coordinate is drawn all the same, and then fails. -/
def checkLost (shape : Shape) (lost : Bool) : Draw Unit :=
  if lost then throw (.lostCoordinate shape) else pure ()

/-- Fill the columns from `x0` to `x1` in the rows between `y0` and `y1`, all included. -/
def fillDots (c : Canvas) (x0 y0 x1 y1 : Int) (color : UInt8) : Canvas :=
  c.fill ⟨x0, min y0 y1, x1 + 1, max y0 y1 + 1⟩ color

/-- **Fill the box between two corners.** -/
def fillBox (x0 y0 x1 y1 : Int) (color : UInt8) : Draw Unit := do
  checkCorners x0 y0 x1 y1
  edit (·.fillDots (dotOf x0) (dotOf y0) (dotOf x1) (dotOf y1) color)
  checkLost .rectangle ([x0, y0, x1, y1].any isLost)

/-- **A filled box** of the given size; nothing if a side is not positive. -/
def fillRect (x y width height color : Int) : Draw Unit :=
  if width ≤ 0 ∨ height ≤ 0 then pure ()
  else do fillBox x y (x + width - 1) (y + height - 1) (← ofExcept (grayOf color))

/-- Paint the columns from `left` to `right` in the rows from `start` towards `stop`, which is
excluded. Rows are counted in words of 32 bits, so what leaves them at one end comes in at the
other. -/
def fillColumns (c : Canvas) (left right start stop : Int) (color : UInt8) : Canvas :=
  let way := wrapWord (stop - start)
  let (top, bottom) := if 0 ≤ way then (start, start + way) else (start + way + 1, start + 1)
  if way = leastWord then c
  else
    [0, wordCount, -wordCount].foldl (fun c turn =>
      c.fill ⟨left, top + turn, right + 1, bottom + turn⟩ color) c

/--
The border of the box between two corners, `t` dots thick: `t` rows from the top and from the
bottom, then `t` columns from the left and from the right over the rows between. A border thicker
than the box leaves the box on all sides.
-/
def strokeDots (c : Canvas) (x0 y0 x1 y1 t : Int) (color : UInt8) : Canvas :=
  let (top, bottom) := (min y0 y1, max y0 y1)
  let c := c.fill ⟨x0, top, x1 + 1, top + t⟩ color
  let c := c.fill ⟨x0, bottom - t + 1, x1 + 1, bottom + 1⟩ color
  let c := c.fillColumns (x1 - t + 1) x1 (top + t) (bottom - t + 1) color
  c.fillColumns x0 (x0 + t - 1) (top + t) (bottom - t + 1) color

/-- The thickness of a border must have room in a word. -/
def checkThickness (t : Int) : Draw Unit := ofExcept ((checkWord t).mapError .position)

/-- **The border of the box between two corners.** -/
def strokeBox (x0 y0 x1 y1 t : Int) (color : UInt8) : Draw Unit := do
  checkThickness t
  checkCorners x0 y0 x1 y1
  edit (·.strokeDots (dotOf x0) (dotOf y0) (dotOf x1) (dotOf y1) t color)
  checkLost .rectangle ([x0, y0, x1, y1].any isLost)

/-- **A border** inside the box of the given size, at least one dot thick. -/
def strokeRect (x y width height thickness color : Int) : Draw Unit :=
  if width ≤ 0 ∨ height ≤ 0 then pure ()
  else do
    let gray ← ofExcept (grayOf color)
    strokeBox x y (x + width - 1) (y + height - 1) (max 1 thickness) gray

end Canvas

end LabelPress
