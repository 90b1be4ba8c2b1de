import LabelPress.Interpreter.Run
import LabelPress.Mono.Bitmap

/-!
# Rendering

From a label file and a size in millimetres to the bitmap that is printed: the size is checked
first, then the commands run on a canvas of that size, and the canvas is reduced to black and white.
A label file is never refused; what is wrong with its commands is remarked upon.

* `render`: the rendered label.
* `RenderedLabel.preview`: a picture of what will be printed.
-/

namespace LabelPress

/-- A label ready to be printed. -/
structure RenderedLabel where
  /-- The width in dots. -/
  width : Int
  /-- The height in dots. -/
  height : Int
  /-- The packed bitmap, 1 for white. -/
  bitmap : List UInt8
  /-- The remarks on the label file, in order. -/
  diagnostics : List Interpreter.Diagnostic
deriving Repr, DecidableEq

namespace RenderedLabel

/-- The bytes of one row. -/
def rowBytes (l : RenderedLabel) : Int := rowBytesOf l.width

/-- Is the dot white? -/
def isWhite (l : RenderedLabel) (x y : Nat) : Bool :=
  isWhiteIn l.bitmap.toArray l.rowBytes.toNat x y
where
  /-- Is the dot white in a packed bitmap? -/
  isWhiteIn (bitmap : Array UInt8) (rowBytes x y : Nat) : Bool :=
    ((bitmap[y * rowBytes + x / 8]?).map fun b => b.toNat.testBit (7 - x % 8)).getD false

/-- **The preview of a label**: a picture of one bit per dot that shows what will be printed. -/
def preview (l : RenderedLabel) : List UInt8 :=
  let bitmap := l.bitmap.toArray
  packRows l.width.toNat l.height.toNat (isWhite.isWhiteIn bitmap l.rowBytes.toNat)

/-- The preview with only the dots in some columns and rows. -/
def previewOf (l : RenderedLabel) (columns rows : Array Nat) : List UInt8 :=
  let bitmap := l.bitmap.toArray
  packRows columns.size rows.size fun x y =>
    isWhite.isWhiteIn bitmap l.rowBytes.toNat (columns.getD x 0) (rows.getD y 0)

end RenderedLabel

/-- Why a label cannot be rendered. -/
inductive RenderError where
  /-- The size is out of bounds. -/
  | size (e : LabelSizeError)
  /-- There is no canvas of this size. -/
  | draw (e : DrawError)
  /-- The canvas cannot be reduced. -/
  | mono (e : MonoError)
deriving Repr, DecidableEq

/-- The wording of a failure. -/
def RenderError.message : RenderError → String
  | size e => e.message
  | draw e => e.message
  | mono e => e.message

/-- Does the label have a size that cannot be printed? -/
def RenderError.isSize : RenderError → Bool
  | size (.reckoning _) => false
  | size _ => true
  | draw (.canvasTooWide _) => true
  | draw _ | mono _ => false

/-- The gray values of a canvas. -/
def Canvas.luminances (c : Canvas) : Array Float := c.pixels.map UInt8.toFloat

/-- **Render a label file** of a size in millimetres. -/
def render (fonts : FontSource) (file : List Char) (width height : Measure) (diffuse : Bool) :
    Except RenderError RenderedLabel := do
  let size ← (LabelSize.ofMillimetres width height).mapError .size
  let records := Markup.parse file
  let result ← (Interpreter.interpret fonts records size.width size.height).mapError .draw
  let grays := result.session.canvas.luminances
  let bitmap ← (toMono grays size.width size.height diffuse).mapError .mono
  return ⟨size.width, size.height, bitmap, result.diagnostics⟩

end LabelPress
