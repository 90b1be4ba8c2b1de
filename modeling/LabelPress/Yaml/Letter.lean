import LabelPress.Text.LowerCase
import LabelPress.Text.Quoted

/-!
# Letters

A scalar is made of letters. A letter is a character, or one half of the pair of code units that
stands for a character elsewhere: escapes can name such a half, and then the scalar spells no text.

* `Letter`, `Letters`: the types.
* `Letters.chars?`: the text that letters spell; `chars?_letters` says that a text spells itself.
* `Letters.quoted`, `Letters.shown`: their wordings.
-/

namespace LabelPress.Yaml

/-- A letter. -/
inductive Letter where
  /-- A character. -/
  | char (c : Char)
  /-- Half of a character. -/
  | half (unit : Nat)
deriving Repr, DecidableEq

/-- A sequence of letters. -/
abbrev Letters := List Letter

/-- The letters of a text. -/
def letters (s : List Char) : Letters := s.map .char

namespace Letter

/-- The letter of a code point. -/
def ofCode (n : Nat) : Letter :=
  if 0xd800 ≤ n ∧ n < 0xe000 then half n else char (Char.ofNat n)

/-- The character that a letter is. -/
def char? : Letter → Option Char
  | char c => some c
  | half _ => none

/-- A letter inside quotes. -/
def quoted (quote : Char) : Letter → List Char
  | char c => Text.quotedChar quote c
  | half n => '\\' :: 'u' :: Text.hexText n 4

/-- A letter, or three signs of replacement for half of a character. -/
def shown : Letter → List Char
  | char c => [c]
  | half _ => ['\ufffd', '\ufffd', '\ufffd']

end Letter

namespace Letters

/-- **The text that letters spell**, if no half of a character is among them. -/
def chars? (s : Letters) : Option (List Char) := s.mapM Letter.char?

/-- The text before the first half of a character. -/
def beginning (s : Letters) : List Char :=
  (s.takeWhile (·.char?.isSome)).filterMap Letter.char?

/-- The letters without one sign in front of them. -/
def dropSign : Letters → Letters
  | .char '+' :: s => s
  | .char '-' :: s => s
  | s => s

/-- The letters in lower case; each run of characters is a text of its own. -/
def lower (s : Letters) : Letters :=
  (s.splitBy fun a b => a.char?.isSome && b.char?.isSome).flatMap fun run =>
    match chars? run with
    | some t => letters (Text.lower t)
    | none => run

/-- The quoted letters. -/
def quoted (s : Letters) : List Char :=
  let quote := if Letter.char '\'' ∈ s ∧ Letter.char '"' ∉ s then '"' else '\''
  quote :: s.flatMap (Letter.quoted quote) ++ [quote]

/-- The letters as a text that has signs of replacement where they spell none. -/
def shown (s : Letters) : List Char := s.flatMap Letter.shown

/-- The letters of a text spell the text. -/
theorem chars?_letters (s : List Char) : chars? (letters s) = some s := by
  induction s with
  | nil => rfl
  | cons c s ih =>
    simp only [chars?, letters] at ih
    simp [chars?, letters, Letter.char?, ih]

/-- The letters of a text are quoted as the text is. -/
theorem quoted_letters (s : List Char) : quoted (letters s) = Text.quoted s := by
  have mem (c : Char) : Letter.char c ∈ letters s ↔ c ∈ s := by simp [letters]
  simp only [quoted, Text.quoted, mem]
  congr 2
  simp [letters, List.flatMap_map, Letter.quoted]

end Letters

end LabelPress.Yaml
