import LabelPress.Number.Binary64
import LabelPress.Number.Room
import LabelPress.Text.Numeral
import LabelPress.Text.UpperCase

/-!
# Graphic fields

A graphic field is a packed bitmap written into a label file: its encoding, its declared size in
bytes, an unused size, the bytes of a row, and the data. A bit 0 is black.

* `decodeHex`, `decodeBinary`, `decodeInto`: the three encodings.
* `decodeCompressed_zero`: nothing is decoded into no room.
* `GraphicField.ofParams`: the field that a parameter text describes, or why there is none.
-/

namespace LabelPress.Markup

open Text

/-- A decoded bitmap. -/
structure GraphicField where
  /-- The packed bits, possibly fewer or more than the rows need. -/
  data : List UInt8
  /-- The bytes of one row. -/
  rowBytes : Nat
  /-- The number of rows. -/
  rows : Nat
deriving Repr, DecidableEq

namespace GraphicField

/-- The width in dots. -/
def width (g : GraphicField) : Nat := 8 * g.rowBytes

end GraphicField

/-- Why a graphic field could not be read. -/
inductive GraphicFieldError where
  /-- The parameters are not of the five-part form. -/
  | malformed
  /-- A number is too long. -/
  | tooManyDigits (e : TooManyDigits)
  /-- A row of no bytes. -/
  | emptyRow
  /-- There would be more rows than a double can count. -/
  | tooManyRows
  /-- There is no room for the declared size. -/
  | noRoom (e : RoomError)
deriving Repr, DecidableEq

/-- The wording of a failure. -/
def GraphicFieldError.message : GraphicFieldError → String
  | malformed => "expected format,total_bytes,field_bytes,row_bytes,data"
  | tooManyDigits e => e.message
  | emptyRow => "row bytes must be positive"
  | tooManyRows => "integer division result too large for a float"
  | noRoom e => e.message

/-- The value of a hexadecimal digit. -/
def hexDigit? (c : Char) : Option Nat :=
  if c.isDigit then some (c.toNat - 48)
  else if 'a' ≤ c ∧ c ≤ 'f' then some (c.toNat - 87)
  else if 'A' ≤ c ∧ c ≤ 'F' then some (c.toNat - 55)
  else none

/--
The byte that up to two characters stand for: the value of the hexadecimal digits they begin with,
zero if they begin with none.
-/
def hexByte (c : Char) (d : Option Char) : UInt8 :=
  match hexDigit? c, d.bind hexDigit? with
  | none, _ => 0
  | some a, none => UInt8.ofNat a
  | some a, some b => UInt8.ofNat (16 * a + b)

/-- Pairs of characters as bytes; a last character without a partner is dropped. -/
def hexPairs : List Char → List UInt8
  | c :: d :: s => hexByte c (some d) :: hexPairs s
  | _ => []

/-- **Plain hexadecimal.** Blanks do not count, not even inside a pair. -/
def decodeHex (data : List Char) : List UInt8 := hexPairs (squeeze data)

/-- **Binary.** One byte per character, its code point modulo 256. -/
def decodeBinary (data : List Char) : List UInt8 := data.map fun c => UInt8.ofNat c.toNat

/-- How often a run letter repeats what follows: `G` to `Y` 1 to 19 times, `g` to `z` 20 to 400. -/
def runLength? (c : Char) : Option Nat :=
  if 'G' ≤ c ∧ c ≤ 'Y' then some (c.toNat - 'F'.toNat)
  else if 'g' ≤ c ∧ c ≤ 'z' then some (20 * (c.toNat - 'f'.toNat))
  else none

/-- The byte that a run repeats: its digit in both halves, zero for anything but a digit. -/
def runByte (c : Option Char) : UInt8 :=
  UInt8.ofNat (17 * ((c.bind hexDigit?).getD 0))

/--
**Compressed hexadecimal** into `room` bytes at most. A run letter takes the next character with
it, a digit takes the next character as the other half of its byte, and anything else is skipped.
-/
def decodeCompressed : List Char → Nat → List UInt8
  | _, 0 => []
  | [], _ => []
  | [c], room =>
    match runLength? c, hexDigit? c with
    | some n, _ => List.replicate (min n room) (runByte none)
    | none, some _ => [hexByte c none]
    | none, none => []
  | c :: d :: s, room =>
    match runLength? c, hexDigit? c with
    | some n, _ => List.replicate (min n room) (runByte (some d)) ++ decodeCompressed s (room - n)
    | none, some _ => hexByte c (some d) :: decodeCompressed s (room - 1)
    | none, none => decodeCompressed (d :: s) room

/-- Compressed hexadecimal into as much room as is declared. -/
def decodeInto (data : List Char) (total : Int) : Except RoomError (List UInt8) :=
  (roomFor total).map (decodeCompressed data)

@[simp] theorem decodeCompressed_zero (s : List Char) : decodeCompressed s 0 = [] := by
  cases s <;> simp [decodeCompressed]

/-- Read a number and the comma after it. -/
def takeDigitsComma (s : List Char) : Option (List Char × List Char) :=
  match s.takeWhile isDigit, s.dropWhile isDigit with
  | [], _ => none
  | ds, ',' :: rest => some (ds, rest)
  | _, _ => none

/-- The parts of a graphic field as written: encoding letter, declared size, row size, data. -/
def graphicParts? (params : List Char) : Option (Char × List Char × List Char × List Char) :=
  match params with
  | e :: ',' :: s => do
    guard (e.toUpper ∈ ['A', 'B', 'H'])
    let (total, s) ← takeDigitsComma s
    let (_, s) ← takeDigitsComma s
    let (row, data) ← takeDigitsComma s
    guard (data ≠ [])
    pure (e.toUpper, total, row, data)
  | _ => none

/--
The number of rows: the declared size over the row size, as the nearest double, rounded up. Nothing
is there to be rounded when the quotient exceeds every double.
-/
def rowCount? (total row : Nat) : Option Nat :=
  let q : Rat := (total : Rat) / (row : Rat)
  if Binary64.isFinite q then some (Binary64.nearest q).ceil.toNat else none

/-- **The bitmap that a parameter text describes.** -/
def GraphicField.ofParams (params : List Char) : Except GraphicFieldError GraphicField := do
  match graphicParts? params with
  | none => throw .malformed
  | some (encoding, total, row, data) =>
    let total ← (digits? total).mapError .tooManyDigits
    let row ← (digits? row).mapError .tooManyDigits
    if row = 0 then throw .emptyRow
    let bytes ←
      if encoding = 'A' then pure (decodeHex data)
      else if encoding = 'B' then pure (decodeBinary data)
      else (decodeInto data total).mapError .noRoom
    match rowCount? total row with
    | none => throw .tooManyRows
    | some rows => pure ⟨bytes, row, rows⟩

end LabelPress.Markup
