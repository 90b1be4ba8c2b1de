/-!
# Characters of a document

A document is read as a list of characters that know where they stand. A zero character ends it; it
cannot occur inside, because a document may hold printing characters, tabs and line breaks only.

* `isPrintable`: the characters that a document may hold.
* `readable`: the portions of a document before the first that holds another one.
* `locate`: the characters of a document with their places, closed by the end mark.
-/

namespace LabelPress.Yaml

/-- May the character stand in a document? -/
def isPrintable (c : Char) : Bool :=
  let n := c.toNat
  n == 0x09 || n == 0x0a || n == 0x0d || (0x20 ≤ n && n ≤ 0x7e) || n == 0x85 ||
    (0xa0 ≤ n && n ≤ 0xd7ff) || (0xe000 ≤ n && n ≤ 0xfffd) || 0x10000 ≤ n

/-- How many characters the portions of a document have that precede the one with the character
after so many. The first portion has 8192 characters, the others have 4096. -/
def portionStart (n : Nat) : Nat := if n < 8192 then 0 else n / 4096 * 4096

/-- **The portions of a document** before the first that holds a character it may not hold; a
portion is looked through before anything in it is read. -/
def readable (s : List Char) : List Char :=
  match s.findIdx? (!isPrintable ·) with
  | none => s
  | some n => s.take (portionStart n)

/-- The end mark. -/
def endMark : Char := '\x00'

/-- The mark that may precede a text and takes no room in it. -/
def orderMark : Char := '\ufeff'

/-- Is it a line break? -/
def isBreak (c : Char) : Bool :=
  c == '\n' || c == '\r' || c == '\u0085' || c == '\u2028' || c == '\u2029'

/-- Is it a line break or the end mark? -/
def isBreakOrEnd (c : Char) : Bool := isBreak c || c == endMark

/-- Is it a space, a line break or the end mark? -/
def isSpaceOrEnd (c : Char) : Bool := c == ' ' || isBreakOrEnd c

/-- Is it a space, a tab, a line break or the end mark? -/
def isGapOrEnd (c : Char) : Bool := c == '\t' || isSpaceOrEnd c

/-- A space or a tab. -/
def isSpaceOrTab (c : Char) : Bool := c == ' ' || c == '\t'

/-- An ASCII letter or digit, a hyphen or an underscore. -/
def isWordChar (c : Char) : Bool := c.isAlphanum || c == '-' || c == '_'

/-- A character and its place. -/
structure Spot where
  /-- The character. -/
  char : Char
  /-- How many characters precede it. -/
  index : Nat
  /-- How many line breaks precede it. -/
  line : Nat
  /-- How many characters precede it in its line. -/
  column : Nat
deriving Repr, DecidableEq

/-- Characters with their places, the first one at the given place, and the end mark. -/
def locateFrom (index line column : Nat) : List Char → List Spot
  | [] => [⟨endMark, index, line, column⟩]
  | c :: s =>
    let ends := isBreak c && !(c == '\r' && s.head? == some '\n')
    let (nextLine, nextColumn) :=
      if ends then (line + 1, 0)
      else if c == orderMark then (line, column)
      else (line, column + 1)
    ⟨c, index, line, column⟩ :: locateFrom (index + 1) nextLine nextColumn s

/-- **The characters of a document with their places**, and the end mark. -/
def locate (s : List Char) : List Spot := locateFrom 0 0 0 s

theorem length_locateFrom (index line column : Nat) (s : List Char) :
    (locateFrom index line column s).length = s.length + 1 := by
  induction s generalizing index line column with
  | nil => rfl
  | cons c s ih => simp [locateFrom, ih]

end LabelPress.Yaml
