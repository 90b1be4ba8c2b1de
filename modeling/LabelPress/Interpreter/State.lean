import LabelPress.Canvas.Draw
import LabelPress.Markup.GraphicField
import LabelPress.Markup.Orientation

/-!
# The state of a label in progress

Commands leave traces for the commands after them: the cursor, the font, the orientation, the
reverse flag, and settings of bar codes and blocks that are recorded but never drawn from. The
canvas is the other half of what a label in progress is.
-/

namespace LabelPress.Interpreter

open Markup

/-- The kind of a bar code. -/
inductive BarcodeKind where
  /-- Code 128. -/
  | code128
  /-- A QR code. -/
  | qr
deriving Repr, DecidableEq

/-- The name of a kind of bar code. -/
def BarcodeKind.name : BarcodeKind → String
  | code128 => "128"
  | qr => "QR"

/-- A bar code that was announced and waits for its data. -/
structure PendingBarcode where
  /-- Its kind. -/
  kind : BarcodeKind
  /-- The orientation as written. -/
  orientation : List Char
  /-- The cursor's column when it was announced. -/
  x : Int
  /-- The cursor's row when it was announced. -/
  y : Int
  /-- The height of the bars. -/
  height : Option Int := none
  /-- The width of a module. -/
  moduleWidth : Option Int := none
  /-- Print the text as well. -/
  printText : Bool := true
  /-- Print it above the bars. -/
  textAbove : Bool := false
  /-- The model of a QR code. -/
  model : Option Int := none
  /-- The magnification of a QR code. -/
  magnification : Option Int := none
deriving Repr, DecidableEq

/-- What commands leave for later ones; a label begins with the defaults. -/
structure State where
  /-- The cursor's column. -/
  x : Int := 0
  /-- The cursor's row. -/
  y : Int := 0
  /-- The letter of the font. -/
  font : List Char := ['0']
  /-- The height of text. -/
  fontHeight : Int := 30
  /-- The width of text. -/
  fontWidth : Int := 30
  /-- The orientation of fields. -/
  orientation : Orientation := .normal
  /-- Draw the next text reversed. -/
  fieldReverse : Bool := false
  /-- The width of a bar code's module. -/
  moduleWidth : Int := 2
  /-- The ratio of wide to narrow bars. -/
  barcodeRatio : Float := 3
  /-- The height of a bar code. -/
  barcodeHeight : Int := 100
  /-- The bar code that waits for data. -/
  pending : Option PendingBarcode := none
  /-- The column of the label's home. -/
  homeX : Int := 0
  /-- The row of the label's home. -/
  homeY : Int := 0
  /-- The width of text blocks. -/
  blockWidth : Option Int := none
deriving Repr

/-- A label in progress. -/
structure Session where
  /-- What earlier commands left. -/
  state : State
  /-- What has been drawn. -/
  canvas : Canvas

/-- Why a command fails. -/
inductive CommandError where
  /-- A numeral is too long. -/
  | tooManyDigits (e : Text.TooManyDigits)
  /-- A letter names no orientation. -/
  | unknownOrientation (letter : List Char)
  /-- A parameter is not the number it should be. -/
  | invalidNumber (what : String) (text : List Char)
  /-- A graphic field cannot be read. -/
  | graphicField (e : GraphicFieldError)
  /-- The drawing fails. -/
  | draw (e : DrawError)
deriving Repr, DecidableEq

/-- The wording of a letter that names no orientation. -/
def unknownOrientationMessage (letter : List Char) : String :=
  s!"unknown orientation '{String.ofList letter}'"

/-- The wording of a failure. -/
def CommandError.message : CommandError → String
  | tooManyDigits e => e.message
  | unknownOrientation letter => unknownOrientationMessage letter
  | invalidNumber what text => s!"invalid {what} '{String.ofList text}'"
  | graphicField e => e.message
  | draw e => e.message

/-- A remark on a command: it is unknown, or it failed. -/
structure Diagnostic where
  /-- The command's name as written. -/
  name : List Char
  /-- Why it failed; none if it is unknown. -/
  cause : Option CommandError
deriving Repr, DecidableEq

/-- The wording of a remark. -/
def Diagnostic.message (d : Diagnostic) : String :=
  String.ofList d.name ++ ": " ++ (d.cause.map CommandError.message).getD "unknown command"

end LabelPress.Interpreter
