import LabelPress.Files.Search
import LabelPress.Number.Measure

/-!
# Font faces

What the letters of a face look like is not known here. A face at one size is what it answers about
a text: how far the pen goes, where the ink ends, and which dots it covers. It may also give no
answer. Where faces come from is left open as well, so whatever is set, measured or drawn with them
holds for all faces.

* `Font`: a face at one size.
* `Typefaces`: where faces come from.
* `FontSource`: how the letter of a font and a height lead to a face.
* `Font.block`: the simplest face.
-/

namespace LabelPress

/-- Why a face cannot be had, or gives no answer. -/
inductive FaceError where
  /-- The system refuses, as it does with a file that is no font. -/
  | system (what : List Char)
  /-- A number is too large. -/
  | overflow (what : List Char)
  /-- A value is not accepted. -/
  | value (what : List Char)
deriving Repr, DecidableEq

/-- The wording of a failure. -/
def FaceError.message : FaceError → String
  | system what | overflow what | value what => String.ofList what

/-- **A face at one size.** -/
structure Font where
  /-- How far the pen goes over a text, in dots. -/
  length : List Char → Except FaceError Float
  /-- The row at which the ink of a text ends. -/
  bottom : List Char → Except FaceError Measure
  /-- The mask of a text that is set on an area of some columns and rows. -/
  mask : List Char → (width height : Nat) → Except FaceError (Nat → Nat → UInt8)

/-- **Where faces come from.** -/
structure Typefaces where
  /-- The face in one of the files, at a size. -/
  inFile? : FileTree → Path → Nat → Except FaceError Font
  /-- The face that is there without a file, at a size. -/
  builtin? : Nat → Except FaceError Font

/-- Why there is no font, or no answer from it. -/
inductive FontError where
  /-- The places of fonts cannot be searched. -/
  | search (e : SearchError)
  /-- The face fails. -/
  | face (e : FaceError)
deriving Repr, DecidableEq

/-- The wording of a failure. -/
def FontError.message : FontError → String
  | search e => e.message
  | face e => e.message

/-- How a font is found for a font letter and a height in dots. -/
abbrev FontSource := List Char → Int → Except FontError Font

/-- The size of a font for a height; a height below one dot counts as one. -/
def fontSize (height : Int) : Nat := (max 1 height).toNat

namespace Font

/-- **A face of blocks**: a character is a full square, and a blank is an empty one. -/
def block (size : Nat) : Font where
  length text := .ok (Float.ofNat (size * text.length))
  bottom _ := .ok (.whole size)
  mask text _ _ := .ok fun x y =>
    if y < size ∧ (text[x / size]?).any (· ≠ ' ') then 255 else 0

/-- The source that knows only the face of blocks. -/
def blockSource : FontSource := fun _ height => .ok (block (fontSize height))

end Font

/-- Blocks for every file that can be read, and without a file. -/
def Typefaces.blocks : Typefaces where
  inFile? files p size :=
    match files.read p with
    | .ok _ => .ok (.block size)
    | .error e => .error (.system (e.message p).toList)
  builtin? size := .ok (.block size)

end LabelPress
