import LabelPress.Canvas.Bitmap
import LabelPress.Canvas.RoundedBox
import LabelPress.Canvas.Text
import LabelPress.Interpreter.State
import LabelPress.Markup.Command
import LabelPress.Markup.Parameter

/-!
# What each command does

A command reads its parameters, changes the state and may draw. It may fail between two of its
steps; the steps before stay done.

* `perform`: the effect of a command.
-/

namespace LabelPress.Interpreter

open Markup Text

/-- The effect of a command on the session; a failure leaves the changes made so far. -/
abbrev Effect := ExceptT CommandError (StateM Session)

namespace Effect

/-- Change the state. -/
def update (f : State → State) : Effect Unit := modify fun s => { s with state := f s.state }

/-- The state as it is. -/
def state : Effect State := return (← get).state

/-- Draw on the canvas. -/
def draw {α : Type} (d : Draw α) : Effect α :=
  ExceptT.mk fun s =>
    let (r, canvas) := d.run.run s.canvas
    (r.mapError .draw, { s with canvas })

/-- A failure that leaves the session as it is. -/
def ofExcept {ε α : Type} (f : ε → CommandError) (r : Except ε α) : Effect α :=
  ExceptT.mk (pure (r.mapError f))

/-- The integer that parameter `i` begins with; `default` if there is none or it is zero. -/
def leadingOr (params : List Char) (i : Nat) (default : Int) : Effect Int := do
  let n? ← ofExcept .tooManyDigits (leadingInt? (part params i))
  return (n?.filter (· ≠ 0)).getD default

/-- Apply `f` to the integer that parameter `i` is; leave the state alone if it is empty. -/
def withInt (params : List Char) (i : Nat) (what : String) (f : Int → State → State) :
    Effect Unit := do
  let text := part params i
  if text ≠ [] then
    match int? text with
    | none => throw (.invalidNumber what text)
    | some n => update (f n)

/-- Is the parameter, or its default if it is empty, this letter in either case? -/
def letterIs (params : List Char) (i : Nat) (default letter : Char) : Bool :=
  let text := part params i
  upper (if text = [] then [default] else text) == [letter]

/-- Choose the orientation that a letter names. -/
def orient (letter : Char) : Effect Unit :=
  match Orientation.ofLetter? [letter] with
  | none => throw (.unknownOrientation [letter])
  | some o => update ({ · with orientation := o })

end Effect

open Effect

/-- Move the cursor, never left of or above the label, and end a pending reversal. -/
def fieldOrigin (params : List Char) : Effect Unit := do
  let x ← leadingOr params 0 0
  update ({ · with x := max 0 x })
  let y ← leadingOr params 1 0
  update ({ · with y := max 0 y })
  update ({ · with fieldReverse := false })

/-- Choose font, orientation, height and width, as far as they are given. -/
def font (params : List Char) : Effect Unit := do
  let choice := FontChoice.ofParams params
  if let some c := choice.font then
    update ({ · with font := upperChar c })
  if let some c := choice.orientation then
    orient c
  if let some ds := choice.height then
    let height ← ofExcept .tooManyDigits (digits? ds)
    update ({ · with fontHeight := height })
    match choice.width with
    | none => update ({ · with fontWidth := height })
    | some ds =>
      let width ← ofExcept .tooManyDigits (digits? ds)
      update ({ · with fontWidth := width })

/-- Choose font, height and width, as far as they are given; a height alone sets both. -/
def changeFont (params : List Char) : Effect Unit := do
  let letter := part params 0
  if letter ≠ [] then
    update ({ · with font := upper letter })
  withInt params 1 "font height" fun n s => { s with fontHeight := n, fontWidth := n }
  withInt params 2 "font width" fun n s => { s with fontWidth := n }

/-- Draw a text at the cursor; a pending reversal ends with it, drawn or not. -/
def fieldData (fonts : FontSource) (params : List Char) : Effect Unit := do
  let s ← state
  let style : TextStyle :=
    { font := s.font, height := s.fontHeight, width := some s.fontWidth,
      rotation := s.orientation.degrees, reverse := s.fieldReverse }
  try
    let _ ← draw (Canvas.drawText fonts (fieldText params) s.x s.y style)
    update ({ · with fieldReverse := false })
  catch e =>
    update ({ · with fieldReverse := false })
    throw e

/-- Record the width of text blocks; by default it is that of the label. -/
def fieldBlock (params : List Char) : Effect Unit := do
  let width ← leadingOr params 0 (← get).canvas.width
  update ({ · with blockWidth := some width })

/--
**Draw a box** at the cursor. A border at least half as thick as the box fills it. Rounded corners
have a radius of at most half of either side.
-/
def graphicBox (params : List Char) : Effect Unit := do
  let width ← leadingOr params 0 1
  let height ← leadingOr params 1 1
  let thickness ← leadingOr params 2 1
  let color := (if letterIs params 3 'B' 'W' then Canvas.white else Canvas.black).toNat
  let rounding ← leadingOr params 4 0
  let half := fun n => ofExcept .draw (Canvas.halfSide n)
  let solid := decide ((← half (min width height)) ≤ thickness)
  let s ← state
  if 0 < rounding then
    let radius := Canvas.lesser rounding (Canvas.lesser (← half width) (← half height))
    draw (Canvas.roundedRect s.x s.y width height radius color
      (if solid then none else some thickness))
  else if solid then
    draw (Canvas.fillRect s.x s.y width height color)
  else
    draw (Canvas.strokeRect s.x s.y width height thickness color)

/-- Draw a bitmap at the cursor. -/
def graphicField (params : List Char) : Effect Unit := do
  let field ← ofExcept .graphicField (GraphicField.ofParams params)
  let s ← state
  draw (Canvas.blit field.data field.rowBytes field.rows s.x s.y)

/-- Record module width, ratio and height of bar codes, as far as they are given. -/
def barcodeDefaults (params : List Char) : Effect Unit := do
  withInt params 0 "module width" fun n s => { s with moduleWidth := n }
  let ratio := part params 1
  if ratio ≠ [] then
    match float? ratio with
    | none => throw (.invalidNumber "wide to narrow ratio" ratio)
    | some x => update ({ · with barcodeRatio := x })
  withInt params 2 "barcode height" fun n s => { s with barcodeHeight := n }

/-- The orientation that a bar code is announced with. -/
def barcodeOrientation (params : List Char) : List Char :=
  if part params 0 = [] then ['N'] else part params 0

/-- Record a Code 128 bar code. -/
def code128 (params : List Char) : Effect Unit := do
  let s ← state
  let height ← leadingOr params 1 s.barcodeHeight
  update ({ · with pending := some {
    kind := .code128
    orientation := barcodeOrientation params
    x := s.x
    y := s.y
    height := some height
    moduleWidth := some s.moduleWidth
    printText := letterIs params 2 'Y' 'Y'
    textAbove := letterIs params 3 'N' 'Y' } })

/-- Record a QR code. -/
def qrCode (params : List Char) : Effect Unit := do
  let s ← state
  let model ← leadingOr params 1 2
  let magnification ← leadingOr params 2 3
  update ({ · with pending := some {
    kind := .qr
    orientation := barcodeOrientation params
    x := s.x
    y := s.y
    model := some model
    magnification := some magnification } })

/-- Record the label's home. -/
def labelHome (params : List Char) : Effect Unit := do
  let x ← leadingOr params 0 0
  update ({ · with homeX := x })
  let y ← leadingOr params 1 0
  update ({ · with homeY := y })

/-- Choose the orientation that the first parameter letter names, if there is one. -/
def fieldOrientation : List Char → Effect Unit
  | [] => pure ()
  | c :: _ => orient c

/-- **The effect of a command** with the given parameters. -/
def perform (fonts : FontSource) : Command → List Char → Effect Unit
  | .startFormat, _ | .endFormat, _ | .fieldSeparator, _ | .labelLength, _ | .printWidth, _ =>
    pure ()
  | .fieldOrigin, params => fieldOrigin params
  | .fieldData, params => fieldData fonts params
  | .font, params => font params
  | .changeFont, params => changeFont params
  | .fieldBlock, params => fieldBlock params
  | .graphicBox, params => graphicBox params
  | .graphicField, params => graphicField params
  | .barcodeDefaults, params => barcodeDefaults params
  | .code128, params => code128 params
  | .qrCode, params => qrCode params
  | .fieldReverse, _ => update ({ · with fieldReverse := true })
  | .labelHome, params => labelHome params
  | .fieldOrientation, params => fieldOrientation params

end LabelPress.Interpreter
