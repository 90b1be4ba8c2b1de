import LabelPress.Canvas.Ellipse
import LabelPress.Number.Binary64

/-!
# Boxes with rounded corners

A rounded box consists of four quarter discs or rings in its corners and of straight boxes between
them. When the corners are as wide as the box, opposite corners join into half discs; when they are
also as high, the box is an ellipse.

* `Canvas.roundedBox`: the box between two corners.
* `Canvas.roundedRect`: the box of a given size, the radius limited to half of either side.
-/

namespace LabelPress

/-- How a box is drawn. -/
inductive Finish where
  /-- All of it. -/
  | filled
  /-- Its border, so many dots thick. -/
  | outlined (thickness : Int)
deriving Repr, DecidableEq

namespace Canvas

/-- The lesser of two lengths. -/
def lesser (a b : Rat) : Rat := if a ≤ b then a else b

/-- A coordinate some way from a whole one; if the way is fractional, it is reckoned in doubles. -/
def offsetBy (base : Int) (way : Rat) : Except DrawError Rat :=
  if way.den = 1 then .ok (base + way)
  else if Binary64.isFinite base then .ok (Binary64.nearest (Binary64.nearest base + way))
  else .error .coordinateTooLarge

/-- A coordinate as the canvas compares it. -/
def roundSurface (q : Rat) : Rat := if q.den = 1 then surfaceOf q.num else q

/-- The dot of a coordinate; a fraction is dropped. -/
def roundDot (q : Rat) : Int :=
  if q.den = 1 then dotOf q.num else countOf (Binary64.truncate q)

/-- A part of the round border: the square between two corners, and the sides that are drawn. -/
structure Piece where
  /-- The left edge. -/
  left : Rat
  /-- The top edge. -/
  top : Rat
  /-- The right edge. -/
  right : Rat
  /-- The bottom edge. -/
  bottom : Rat
  /-- What is drawn of the ellipse in the square. -/
  sides : Sides
deriving Repr, DecidableEq

/-- Draw a disc or a ring, or a part of it. -/
def drawPiece (finish : Finish) (p : Piece) (whole : Bool) (color : UInt8) : Draw Unit := do
  if let .outlined t := finish then checkThickness t
  if roundSurface p.right < roundSurface p.left then throw .reversedColumns
  if roundSurface p.bottom < roundSurface p.top then throw .reversedRows
  let (x0, y0, x1, y1) := (roundDot p.left, roundDot p.top, roundDot p.right, roundDot p.bottom)
  let shape : Shape ← match finish with
    | .filled => do
      edit (·.disc x0 y0 x1 y1 p.sides color)
      pure Shape.sector
    | .outlined t => do
      edit (·.ring x0 y0 x1 y1 t p.sides color)
      pure Shape.arc
  checkLost (if whole then .ellipse else shape)
    ([p.left, p.top, p.right, p.bottom].any fun q => q.den = 1 && isLost q.num)

/-- The round corners: squares of side `d`, joined in pairs where they are as wide or high as the
box. -/
def cornerPieces (x0 y0 x1 y1 : Int) (d : Rat) (wide high : Bool) :
    Except DrawError (List Piece) := do
  let right ← offsetBy x0 d
  let bottom ← offsetBy y0 d
  let left ← offsetBy x1 (-d)
  let top ← offsetBy y1 (-d)
  if wide then
    return [⟨x0, y0, right, bottom, { upperOnly := true }⟩,
      ⟨x0, top, right, y1, { lowerOnly := true }⟩]
  else if high then
    return [⟨x0, y0, right, bottom, { leftOnly := true }⟩,
      ⟨left, y0, x1, bottom, { rightOnly := true }⟩]
  else
    return [⟨x0, y0, right, bottom, { upperOnly := true, leftOnly := true }⟩,
      ⟨left, y0, x1, bottom, { upperOnly := true, rightOnly := true }⟩,
      ⟨left, top, x1, y1, { lowerOnly := true, rightOnly := true }⟩,
      ⟨x0, top, right, y1, { lowerOnly := true, leftOnly := true }⟩]

/-- Draw pieces in turn. -/
def drawPieces (finish : Finish) (color : UInt8) : List Piece → Draw Unit
  | [] => pure ()
  | p :: pieces => do
    drawPiece finish p false color
    drawPieces finish color pieces

/-- The straight parts between round corners of `r` dots. -/
def straights (finish : Finish) (x0 y0 x1 y1 r : Int) (wide high : Bool) (color : UInt8) :
    Draw Unit :=
  match finish with
  | .filled => do
    if wide then fillBox x0 (y0 + r + 1) x1 (y1 - r - 1) color
    else if x0 + r + 1 ≤ x1 - r - 1 then fillBox (x0 + r + 1) y0 (x1 - r - 1) y1 color
    if !wide && !high then
      fillBox x0 (y0 + r + 1) (x0 + r) (y1 - r - 1) color
      fillBox (x1 - r) (y0 + r + 1) x1 (y1 - r - 1) color
  | .outlined t => do
    if !wide then
      fillBox (x0 + r + 1) y0 (x1 - r - 1) (y0 + t - 1) color
      fillBox (x0 + r + 1) (y1 - t + 1) (x1 - r - 1) y1 color
    if !high then
      fillBox x0 (y0 + r + 1) (x0 + t - 1) (y1 - r - 1) color
      fillBox (x1 - t + 1) (y0 + r + 1) x1 (y1 - r - 1) color

/-- A box with square corners. -/
def squareBox (finish : Finish) (x0 y0 x1 y1 : Int) (color : UInt8) : Draw Unit :=
  match finish with
  | .filled => fillBox x0 y0 x1 y1 color
  | .outlined t => strokeBox x0 y0 x1 y1 t color

/-- **The rounded box between two corners**, with corners of the given radius. -/
def roundedBox (finish : Finish) (x0 y0 x1 y1 : Int) (radius : Rat) (color : UInt8) : Draw Unit :=
  let w : Rat := (x1 - x0 : Int)
  let h : Rat := (y1 - y0 : Int)
  let d := lesser (lesser w h) (2 * radius)
  let wide := decide (w - 1 ≤ d)
  let d := if wide then w else d
  let high := decide (h - 1 ≤ d)
  let d := if high then h else d
  if wide && high then drawPiece finish ⟨x0, y0, x1, y1, {}⟩ true color
  else if d = 0 then squareBox finish x0 y0 x1 y1 color
  else do
    drawPieces finish color (← ofExcept (cornerPieces x0 y0 x1 y1 d wide high))
    straights finish x0 y0 x1 y1 (d / 2).floor wide high color

/-- Half of a side, as the nearest double; sides beyond every double have none. -/
def halfSide (n : Int) : Except DrawError Rat :=
  let q : Rat := (n : Rat) / 2
  if Binary64.isFinite q then .ok (Binary64.nearest q) else .error .quotientTooLarge

/-- A radius limited to half of either side, and never negative. -/
def limitedRadius (width height : Int) (radius : Rat) : Except DrawError Rat := do
  let radius := lesser radius (lesser (← halfSide width) (← halfSide height))
  return if radius < 0 then 0 else radius

/-- **A rounded box** of the given size; nothing if a side is not positive. -/
def roundedRect (x y width height : Int) (radius : Rat) (color : Int) (thickness : Option Int) :
    Draw Unit :=
  if width ≤ 0 ∨ height ≤ 0 then pure ()
  else do
    let radius ← ofExcept (limitedRadius width height radius)
    let gray ← ofExcept (grayOf color)
    let finish := match thickness with
      | none => .filled
      | some t => .outlined (max 1 t)
    roundedBox finish x y (x + width - 1) (y + height - 1) radius gray

end Canvas

end LabelPress
