import LabelPress.Text.Quoted
import LabelPress.Text.UpperCase

/-!
# Formats of preview pictures

A preview is stored in a picture format that is named in letters of either case. Most formats keep
one bit per dot; some store a gray value, a colour or a number instead, and some take no such
picture.

* `PreviewFormat.ofName?`: the format of a name, or why a preview cannot be stored under it.
* `PreviewFormat.ofName?_eq_ok_iff`: the names of the formats are those of one table.
-/

namespace LabelPress

/-- What a picture format keeps of a dot. -/
inductive DotDepth where
  /-- One bit. -/
  | bit
  /-- A gray value. -/
  | gray
  /-- A colour. -/
  | color
  /-- A number. -/
  | real
deriving Repr, DecidableEq

/-- How large the pictures of a format are. -/
inductive PictureSize where
  /-- As large as what is stored. -/
  | own
  /-- As large as an icon, which has one of a few sizes. -/
  | icon
  /-- A square of a given side. -/
  | square (side : Nat)
deriving Repr, DecidableEq

/-- A picture format. -/
structure PreviewFormat where
  /-- The name that stands in a stored picture. -/
  name : String
  /-- What it keeps of a dot. -/
  depth : DotDepth
  /-- How large its pictures are. -/
  size : PictureSize := .own
deriving Repr, DecidableEq

namespace PreviewFormat

/-- The formats that keep one bit per dot. -/
def bitFormats : List String :=
  ["PNG", "BMP", "DIB", "TIFF", "PCX", "PPM", "IM", "MSP", "XBM", "TGA"]

/-- The formats of pictures that are as large as what is stored, under the names that they are asked
for by. -/
def dotFormats : List (String × PreviewFormat) :=
  let format (name : String) (depth : DotDepth) : PreviewFormat := { name, depth }
  (bitFormats.map fun n => (n, format n .bit)) ++
    [("GIF", format "GIF" .gray), ("JPEG", format "JPEG" .gray), ("MPO", format "JPEG" .gray),
      ("WEBP", format "WEBP" .color), ("AVIF", format "AVIF" .color),
      ("SPIDER", format "SPIDER" .real)]

/-- The formats under the names that they are asked for by. -/
def formats : List (String × PreviewFormat) :=
  dotFormats ++ [("ICO", ⟨"ICO", .bit, .icon⟩), ("ICNS", ⟨"ICNS", .bit, .square 1024⟩)]

/-- Why a known format does not store a preview. -/
inductive Refusal where
  /-- It stores no pictures of one bit per dot. -/
  | noBits (wording : String)
  /-- Writing it fails. -/
  | notWritten (wording : String)
deriving Repr, DecidableEq

/-- The wording of a failure. -/
def Refusal.message : Refusal → String
  | noBits wording | notWritten wording => wording

/-- The formats that do not store a preview. -/
def refusals : List (String × Refusal) :=
  (["SGI", "BLP", "QOI"].map fun n => (n, .noBits s!"Unsupported {n} image mode")) ++
    (["BUFR", "GRIB", "HDF5", "WMF"].map fun n =>
      (n, .notWritten s!"{n} save handler not installed")) ++
    [("EPS", .noBits "image mode is not supported"),
      ("DDS", .notWritten "cannot write mode 1 as DDS"),
      ("JPEG2000", .notWritten "broken data stream when writing image file")]

/-- Why there is no format to store a preview in. -/
inductive FormatError where
  /-- The name is empty. -/
  | empty
  /-- No format has the name. -/
  | unknown (name : List Char)
  /-- The format of the name does not store a preview. -/
  | refused (why : Refusal)
deriving Repr, DecidableEq

/-- The wording of a failure. -/
def FormatError.message : FormatError → List Char
  | empty => "unknown file extension: ".toList
  | unknown name => Text.quoted name
  | refused why => why.message.toList

/-- **The format of a name.** -/
def ofName? (name : List Char) : Except FormatError PreviewFormat :=
  let upper := Text.upper name
  let text := String.ofList upper
  if name = [] then .error .empty
  else match formats.lookup text, refusals.lookup text with
    | some format, _ => .ok format
    | none, some why => .error (.refused why)
    | none, none => .error (.unknown upper)

theorem ofName?_eq_ok_iff {name : List Char} (h : name ≠ []) {format : PreviewFormat} :
    ofName? name = .ok format ↔
      formats.lookup (String.ofList (Text.upper name)) = some format := by
  simp only [ofName?, if_neg h]
  cases formats.lookup (String.ofList (Text.upper name)) <;>
    cases refusals.lookup (String.ofList (Text.upper name)) <;> simp

end PreviewFormat

end LabelPress
