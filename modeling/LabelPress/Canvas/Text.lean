import LabelPress.Canvas.Tile
import LabelPress.Number.Binary64

/-!
# Text on the canvas

A text is set on a tile with a margin on all sides and turned about its own corner, so that the
corner of the text stays where the cursor is. Reversed text is white in a black box that covers the
text and the margin.

* `Canvas.measureText`: the size of a text before it is turned.
* `Canvas.drawText`: draws a text and answers its size.
* `turnedOrigin`: where the turned tile's corner lies.
-/

namespace LabelPress

/-- The margin around a text, in dots. -/
def textMargin : Int := 2

/-- How a text is to be drawn. -/
structure TextStyle where
  /-- The letter of the font. -/
  font : List Char
  /-- The height in dots. -/
  height : Int
  /-- The width in dots that a character as wide as high would have; none or zero means the
  height. -/
  width : Option Int
  /-- The clockwise turn in degrees. -/
  rotation : Int
  /-- White on black. -/
  reverse : Bool
deriving Repr, DecidableEq

/--
**The width of a text** of natural width `natural`: in proportion to the wanted width, the quotient
taken as a double and rounded to the even neighbour.
-/
def scaledWidth (natural height : Int) (width : Option Int) : Except DrawError Int :=
  match width with
  | none => .ok natural
  | some w =>
    if w = 0 ∨ w = height ∨ height ≤ 0 then .ok natural
    else
      let q : Rat := ((natural * w : Int) : Rat) / (height : Rat)
      if Binary64.isFinite q then .ok (Binary64.roundHalfEven (Binary64.nearest q))
      else .error .quotientTooLarge

/-- Where the corner of a turned tile lies when the text's corner is at `(x, y)`. The tile's size is
the one before it is turned. -/
def turnedOrigin (x y width height : Int) : Turn → Int × Int
  | .none => (x - textMargin, y - textMargin)
  | .quarter => (x - (height - 1 - textMargin), y - textMargin)
  | .half => (x - (width - 1 - textMargin), y - (height - 1 - textMargin))
  | .threeQuarters => (x - textMargin, y - (width - 1 - textMargin))

/-- The tile of a text: the stretched text inside a margin. -/
def textTile (glyphs : Option Stretched) (width height : Int) : Tile :=
  ⟨width, height, fun x y =>
    match glyphs with
    | none => 0
    | some s =>
      if x < textMargin ∨ y < textMargin ∨ width ≤ x ∨ height ≤ y then 0
      else s.coverage (x - textMargin).toNat (y - textMargin).toNat⟩

/-- The tile of the box behind reversed text: full up to the dots of the given column and row. -/
def boxTile (right bottom width height : Int) : Tile :=
  let column := dotOf right
  let row := max 0 (dotOf bottom)
  ⟨width, height, fun x y =>
    if 0 ≤ x ∧ x ≤ column ∧ x < width ∧ 0 ≤ y ∧ y ≤ row ∧ y < height then 255 else 0⟩

/-- A text laid out for drawing, before it is turned. -/
structure TextLayout where
  /-- The width of the text. -/
  width : Int
  /-- The tile of the text. -/
  text : Tile
  /-- The tile of the box, if the text is reversed. -/
  box : Option Tile

/-- The box behind reversed text ends at a column and a row that are not before the first. -/
def checkBox (right bottom : Int) : Except DrawError Unit := do
  if surfaceOf right < 0 then throw .reversedColumns
  if surfaceOf bottom < 0 then throw .reversedRows
  if isLost right ∨ isLost bottom then throw (.lostCoordinate .rectangle)

/-- The natural width of a text in dots; no text has none. -/
def naturalWidth (font : Font) (text : List Char) : Except DrawError Int :=
  if text = [] then .ok 0
  else do (ceilFloat? (← (font.length text).mapError (.font ∘ .face))).mapError .textSize

/-- The rows that a text of a nominal height needs; its ink may reach further down. -/
def inkHeightOf (font : Font) (text : List Char) (height : Int) : Except DrawError Int :=
  if text = [] then .ok height
  else do
    let bottom ← (font.bottom text).mapError (.font ∘ .face)
    return max height (← bottom.ceil?.mapError .textSize)

/-- Set a text of some length and stretch it to a width, on pictures that must be possible. -/
def setText? (font : Font) (text : List Char) (natural width inkHeight : Int) :
    Except DrawError Stretched := do
  Canvas.checkSize natural inkHeight
  let ink ← (font.mask text natural.toNat inkHeight.toNat).mapError (.font ∘ .face)
  if width ≠ natural then Canvas.checkSize (max 1 width) inkHeight
  return ⟨⟨natural.toNat, inkHeight.toNat, ink⟩, (max 1 width).toNat⟩

/-- Lay out a text. -/
def TextLayout.ofText (fonts : FontSource) (text : List Char) (style : TextStyle) :
    Except DrawError TextLayout := do
  let font ← (fonts style.font style.height).mapError .font
  let natural ← naturalWidth font text
  let width ← scaledWidth natural style.height style.width
  let inkHeight ← inkHeightOf font text style.height
  let tileWidth := width + 2 * textMargin
  let tileHeight := inkHeight + 2 * textMargin
  Canvas.checkSize tileWidth tileHeight
  let glyphs ←
    if 0 < natural then some <$> setText? font text natural width inkHeight
    else pure none
  let right := width + 2 * textMargin - 1
  let bottom := style.height + 2 * textMargin - 1
  if style.reverse then checkBox right bottom
  return {
    width
    text := textTile glyphs tileWidth tileHeight
    box := if style.reverse then some (boxTile right bottom tileWidth tileHeight) else none }

namespace Canvas

/-- The size of a text: its width and its nominal height. -/
def measureText (fonts : FontSource) (text font : List Char) (height : Int) (width : Option Int) :
    Except DrawError (Int × Int) := do
  let face ← (fonts font height).mapError .font
  return (← scaledWidth (← naturalWidth face text) height width, height)

/-- Lay a laid-out text onto the canvas, turned about the corner of the text. -/
def stencilText (c : Canvas) (layout : TextLayout) (turn : Turn) (left top : Int) : Canvas :=
  match layout.box with
  | none => c.stencil (layout.text.turn turn) left top black
  | some box =>
    (c.stencil (box.turn turn) left top black).stencil (layout.text.turn turn) left top white

/-- **Draw a text** with its corner at `(x, y)`; the answer is its size before it is turned. -/
def drawText (fonts : FontSource) (text : List Char) (x y : Int) (style : TextStyle) :
    Draw (Int × Int) := do
  let layout ← ofExcept (TextLayout.ofText fonts text style)
  let turn ← ofExcept (Turn.ofDegrees? style.rotation)
  let (left, top) := turnedOrigin x y layout.text.width layout.text.height turn
  let turned := layout.text.turn turn
  ofExcept (checkEdges left top turned.width turned.height)
  edit (·.stencilText layout turn left top)
  return (layout.width, style.height)

end Canvas

end LabelPress
