import LabelPress.Mono.Bitmap

/-!
# Pictures of several modes

A picture may have one gray byte per dot, three of colour, either with an opacity byte that is
ignored, or one bit. Each dot has a luminance, by which it becomes black or white.

* `luminance`: of a colour, by the weights of red, green and blue.
* `Picture.of?`: the picture that data make.
* `Picture.luminances`, `Picture.toMono`: of a whole picture, row by row.
-/

namespace LabelPress

/-- **The luminance of a colour**: weights of 299, 587 and 114 thousandths, the nearest double. -/
def luminance (r g b : Int) : Except ArithmeticError Float :=
  let q : Rat := ((299 * r + 587 * g + 114 * b : Int) : Rat) / 1000
  if Binary64.isFinite q then .ok (Binary64.toFloat q) else .error .quotientTooLarge

/-- The luminance of a colour of three bytes. -/
def luminanceOfBytes (r g b : UInt8) : Float :=
  Binary64.toFloat (((299 * r.toNat + 587 * g.toNat + 114 * b.toNat : Nat) : Rat) / 1000)

/-- What the data of a picture say about each dot. -/
inductive PictureMode where
  /-- One gray byte. -/
  | gray
  /-- A gray byte and an opacity. -/
  | grayAlpha
  /-- Red, green and blue. -/
  | rgb
  /-- Red, green, blue and an opacity. -/
  | rgba
  /-- One bit, rows filled up to whole bytes, 1 for white. -/
  | bilevel
deriving Repr, DecidableEq

/-- The bytes of a row. -/
def PictureMode.rowLength (width : Nat) : PictureMode → Nat
  | gray => width
  | grayAlpha => 2 * width
  | rgb => 3 * width
  | rgba => 4 * width
  | bilevel => (width + 7) / 8

/-- A picture. -/
structure Picture where
  /-- How the data are to be read. -/
  mode : PictureMode
  /-- The number of columns. -/
  width : Nat
  /-- The number of rows. -/
  height : Nat
  /-- The data, row by row. -/
  data : Array UInt8

/-- Why data are no picture. -/
inductive PictureError where
  /-- There is no picture of the size. -/
  | size (e : DrawError)
  /-- There are too few data. -/
  | tooLittleData
deriving Repr, DecidableEq

/-- The wording of a failure. -/
def PictureError.message : PictureError → String
  | size e => e.message
  | tooLittleData => "not enough image data"

namespace Picture

/-- **The picture that data make**; what follows the last row does not count. -/
def of? (mode : PictureMode) (width height : Int) (data : Array UInt8) :
    Except PictureError Picture := do
  (Canvas.checkSize width height).mapError .size
  if data.size < height.toNat * mode.rowLength width.toNat then throw .tooLittleData
  return ⟨mode, width.toNat, height.toNat, data⟩

/-- Byte number `i` of the data. -/
def byte (p : Picture) (i : Nat) : UInt8 := p.data[i]?.getD 0

/-- The luminance of dot number `i` in reading order. -/
def luminanceAt (p : Picture) (i : Nat) : Float :=
  match p.mode with
  | .gray => (p.byte i).toFloat
  | .grayAlpha =>
    let v := p.byte (2 * i)
    luminanceOfBytes v v v
  | .rgb => luminanceOfBytes (p.byte (3 * i)) (p.byte (3 * i + 1)) (p.byte (3 * i + 2))
  | .rgba => luminanceOfBytes (p.byte (4 * i)) (p.byte (4 * i + 1)) (p.byte (4 * i + 2))
  | .bilevel =>
    let x := i % p.width
    let y := i / p.width
    let byte := p.byte (y * ((p.width + 7) / 8) + x / 8)
    if byte.toNat.testBit (7 - x % 8) then 255 else 0

/-- **The luminances of a picture**, row by row. -/
def luminances (p : Picture) : Array Float := (Array.range (p.width * p.height)).map p.luminanceAt

/-- **A picture as a packed bitmap.** -/
def toMono (p : Picture) (diffuse : Bool) : Except MonoError (List UInt8) :=
  LabelPress.toMono p.luminances p.width p.height diffuse

end Picture

end LabelPress
