/-!
# The commands of the label language

Eighteen commands are known; each has a fixed name, except that the font command `A` may carry its
first parameter, the font's letter, as the second letter of its name.

* `resolve`: the command that a name stands for, with the part of the name that is a parameter.
* `resolve_code`: every command answers to its own name.
* `code_injective`: no two commands share a name.
-/

namespace LabelPress.Markup

/-- What a label file can ask for. -/
inductive Command where
  /-- Begin a label. -/
  | startFormat
  /-- End a label. -/
  | endFormat
  /-- Move the cursor. -/
  | fieldOrigin
  /-- Draw a text. -/
  | fieldData
  /-- End a field. -/
  | fieldSeparator
  /-- Choose font, orientation and size. -/
  | font
  /-- Choose the default font and size. -/
  | changeFont
  /-- Set the width of a text block. -/
  | fieldBlock
  /-- Draw a box. -/
  | graphicBox
  /-- Draw a bitmap. -/
  | graphicField
  /-- Set the defaults of bar codes. -/
  | barcodeDefaults
  /-- Announce a Code 128 bar code. -/
  | code128
  /-- Announce a QR code. -/
  | qrCode
  /-- Draw the next text reversed. -/
  | fieldReverse
  /-- Set the label's home position. -/
  | labelHome
  /-- Set the label's length. -/
  | labelLength
  /-- Set the print width. -/
  | printWidth
  /-- Choose the orientation of fields. -/
  | fieldOrientation
deriving Repr, DecidableEq

namespace Command

/-- The name of a command in a label file. -/
def code : Command → List Char
  | startFormat => ['X', 'A']
  | endFormat => ['X', 'Z']
  | fieldOrigin => ['F', 'O']
  | fieldData => ['F', 'D']
  | fieldSeparator => ['F', 'S']
  | font => ['A']
  | changeFont => ['C', 'F']
  | fieldBlock => ['F', 'B']
  | graphicBox => ['G', 'B']
  | graphicField => ['G', 'F']
  | barcodeDefaults => ['B', 'Y']
  | code128 => ['B', 'C']
  | qrCode => ['B', 'Q']
  | fieldReverse => ['F', 'R']
  | labelHome => ['L', 'H']
  | labelLength => ['L', 'L']
  | printWidth => ['P', 'W']
  | fieldOrientation => ['F', 'W']

/-- Every command. -/
def all : List Command :=
  [startFormat, endFormat, fieldOrigin, fieldData, fieldSeparator, font, changeFont, fieldBlock,
    graphicBox, graphicField, barcodeDefaults, code128, qrCode, fieldReverse, labelHome,
    labelLength, printWidth, fieldOrientation]

theorem mem_all (c : Command) : c ∈ all := by cases c <;> decide

theorem code_injective {c d : Command} : c.code = d.code → c = d := by
  cases c <;> cases d <;> decide

end Command

/--
**The command that a name stands for**, and the characters of the name that belong in front of the
parameters. Names are compared as they are, capitals only.
-/
def resolve (name : List Char) : Option (Command × List Char) :=
  match Command.all.find? (·.code == name) with
  | some c => some (c, [])
  | none =>
    match name with
    | ['A', x] => some (.font, [x])
    | _ => none

theorem resolve_code (c : Command) : resolve c.code = some (c, []) := by cases c <;> decide

theorem resolve_font_letter {x : Char} (h : Command.all.find? (·.code == ['A', x]) = none) :
    resolve ['A', x] = some (.font, [x]) := by
  simp [resolve, h]

end LabelPress.Markup
