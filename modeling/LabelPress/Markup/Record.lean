import LabelPress.Text.Blank
import LabelPress.Text.UpperCase

/-!
# Command records

A label file is a text in which a *designator*, `^` or `~`, introduces a command: one or two letters
for its name, then its parameters up to the next designator. Text that no designator introduces is
skipped, and so is a designator that no letter follows.

* `Record.read?`: the command at the head of a text and what follows it.
* `parse`: all commands of a text, in order.
* `length_lt_of_read?`: reading a command consumes text, which is why `parse` ends.
-/

namespace LabelPress.Markup

open Text

/-- A command as written: its name in upper case, its parameters without the blanks around them. -/
structure Record where
  /-- The command's name. -/
  name : List Char
  /-- Everything between the name and the next command. -/
  params : List Char
deriving Repr, DecidableEq

/-- Does the character introduce a command? -/
def isDesignator (c : Char) : Bool := c == '^' || c == '~'

/--
May the character stand in a command's name? Besides the ASCII letters these are the four
characters that some script pairs with an ASCII letter: dotted `İ`, dotless `ı`, long `ſ` and the
kelvin sign.
-/
def isNameLetter (c : Char) : Bool :=
  c.isAlpha || c == '\u0130' || c == '\u0131' || c == '\u017f' || c == '\u212a'

/-- The name at the head of a text, after its first letter `a`: a second letter if there is one. -/
def splitName (a : Char) : List Char → List Char × List Char
  | b :: s => if isNameLetter b then ([a, b], s) else ([a], b :: s)
  | [] => ([a], [])

/-- **One command**: the record at the head of the text, if there is one, and the text after it. -/
def Record.read? : List Char → Option (Record × List Char)
  | c :: a :: s =>
    if isDesignator c && isNameLetter a then
      let (name, body) := splitName a s
      some (⟨upper name, trim (body.takeWhile (!isDesignator ·))⟩,
        body.dropWhile (!isDesignator ·))
    else none
  | _ => none

theorem length_splitName_snd_le (a : Char) (s : List Char) :
    (splitName a s).2.length ≤ s.length := by
  cases s with
  | nil => simp [splitName]
  | cons b s => simp only [splitName]; split <;> simp

theorem length_dropWhile_le (p : Char → Bool) (s : List Char) :
    (s.dropWhile p).length ≤ s.length :=
  (List.dropWhile_sublist p).length_le

theorem length_lt_of_read? {s rest : List Char} {r : Record} (h : Record.read? s = some (r, rest)) :
    rest.length < s.length := by
  match s with
  | [] => simp [Record.read?] at h
  | [_] => simp [Record.read?] at h
  | c :: a :: s =>
    simp only [Record.read?] at h
    split at h
    · have h1 := length_splitName_snd_le a s
      have h2 := length_dropWhile_le (!isDesignator ·) (splitName a s).2
      simp only [Option.some.injEq, Prod.mk.injEq] at h
      rw [← h.2]
      simp only [List.length_cons]
      omega
    · simp at h

/-- **All commands of a text**, in the order in which they begin. -/
def parse : List Char → List Record
  | [] => []
  | c :: s =>
    match h : Record.read? (c :: s) with
    | some (r, rest) =>
      have := length_lt_of_read? h
      r :: parse rest
    | none => parse s
termination_by s => s.length
decreasing_by
  · exact this
  · exact Nat.lt_succ_self _

end LabelPress.Markup
