import LabelPress.Text.UpperCase

/-!
# Field orientation

A field is drawn upright or turned clockwise by a quarter, a half or three quarters of a turn. A
label file names the four orientations by letters of either case.
-/

namespace LabelPress.Markup

/-- How far a field is turned clockwise. -/
inductive Orientation where
  /-- Upright. -/
  | normal
  /-- A quarter turn. -/
  | rotated
  /-- A half turn. -/
  | inverted
  /-- Three quarters of a turn, so that the text reads upwards. -/
  | bottomUp
deriving Repr, DecidableEq

namespace Orientation

/-- The letter of an orientation. -/
def letter : Orientation → Char
  | normal => 'N'
  | rotated => 'R'
  | inverted => 'I'
  | bottomUp => 'B'

/-- The clockwise turn in degrees. -/
def degrees : Orientation → Nat
  | normal => 0
  | rotated => 90
  | inverted => 180
  | bottomUp => 270

/-- Every orientation. -/
def all : List Orientation := [normal, rotated, inverted, bottomUp]

/-- The orientation that a letter of either case names; any other text names none. -/
def ofLetter? (s : List Char) : Option Orientation := all.find? fun o => [o.letter] == Text.upper s

theorem ofLetter?_letter (o : Orientation) : ofLetter? [o.letter] = some o := by
  cases o <;> decide

end Orientation

end LabelPress.Markup
