import LabelPress.Text.Numeral

/-!
# Parameters

Most commands separate their parameters by commas; blanks around a parameter do not matter, and a
parameter that is missing is the empty one.

* `part`: one parameter of a list.
* `fieldText`: the text that field data stand for, by two passes over the whole of them.
-/

namespace LabelPress.Markup

open Text

/-- Parameter number `i` of a comma-separated list, counting from zero. -/
def part (params : List Char) (i : Nat) : List Char :=
  trim (((params.splitOn ',')[i]?).getD [])

/-- Replace `\&` by `&`. -/
def unescapeAmpersand : List Char → List Char
  | '\\' :: '&' :: s => '&' :: unescapeAmpersand s
  | c :: s => c :: unescapeAmpersand s
  | [] => []

/-- Replace two backslashes by one. -/
def unescapeBackslash : List Char → List Char
  | '\\' :: '\\' :: s => '\\' :: unescapeBackslash s
  | c :: s => c :: unescapeBackslash s
  | [] => []

/--
**The text of field data**: first every `\&` becomes `&`, then every pair of backslashes becomes
one backslash.
-/
def fieldText (params : List Char) : List Char := unescapeBackslash (unescapeAmpersand params)

/-- The parameters of the font command, each absent or as written. -/
structure FontChoice where
  /-- The font's letter or digit. -/
  font : Option Char
  /-- The letter of an orientation. -/
  orientation : Option Char
  /-- The digits of the height. -/
  height : Option (List Char)
  /-- The digits of the width. -/
  width : Option (List Char)
deriving Repr, DecidableEq

/-- Take the first character if it passes the test. -/
def takeIf (p : Char → Bool) : List Char → Option Char × List Char
  | c :: s => if p c then (some c, s) else (none, c :: s)
  | [] => (none, [])

/-- Take a comma and the digits after it; a comma without a digit is not taken. -/
def takeCommaDigits : List Char → Option (List Char) × List Char
  | ',' :: s =>
    match s.takeWhile isDigit with
    | [] => (none, ',' :: s)
    | ds => (some ds, s.dropWhile isDigit)
  | s => (none, s)

/-- May the character name a font? -/
def isFontLetter (c : Char) : Bool :=
  c.isAlphanum || c == '\u0130' || c == '\u0131' || c == '\u017f' || c == '\u212a'

/-- Does the character look like the letter of an orientation? The two Turkish letters `I` do. -/
def isOrientationLetter (c : Char) : Bool :=
  c.toUpper ∈ ['N', 'R', 'I', 'B'] || c == '\u0130' || c == '\u0131'

/-- The font command's parameters, read greedily from the left; what remains is ignored. -/
def FontChoice.ofParams (params : List Char) : FontChoice :=
  let (font, s) := takeIf isFontLetter params
  let (orientation, s) := takeIf isOrientationLetter s
  let (height, s) := takeCommaDigits s
  let (width, _) := takeCommaDigits s
  ⟨font, orientation, height, width⟩

end LabelPress.Markup
