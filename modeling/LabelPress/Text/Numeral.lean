import LabelPress.Number.Binary64
import LabelPress.Text.Blank
import LabelPress.Text.Digit

/-!
# Numbers as written

How a label file, a command line and a configuration file spell numbers. Digits may come from any
script; a single underscore may stand between two digits; blanks may surround the whole, but not the
information separators among them.

* `leadingInt?`: the integer at the head of a parameter, with whatever follows ignored.
* `int?`, `float?`: the whole text must be one number.
* `digits?`: a run of digits is a number only up to `digitLimit` digits.
-/

namespace LabelPress.Text

/-- A numeral of more digits than this is refused. -/
def digitLimit : Nat := 4300

/-- A numeral was refused for its length. -/
structure TooManyDigits where
  /-- How many digits it has. -/
  count : Nat
deriving Repr, DecidableEq

/-- The wording of the refusal. -/
def TooManyDigits.message (e : TooManyDigits) : String :=
  s!"Exceeds the limit ({digitLimit} digits) for integer string conversion: value has " ++
    s!"{e.count} digits; use sys.set_int_max_str_digits() to increase the limit"

/-- The value of a run of digits. -/
def digits? (ds : List Char) : Except TooManyDigits Nat :=
  if digitLimit < ds.length then .error ⟨ds.length⟩ else .ok (digitsValue ds)

/-- Split off one leading sign: is it a minus, and what follows. -/
def splitSign : List Char → Bool × List Char
  | '+' :: s => (false, s)
  | '-' :: s => (true, s)
  | s => (false, s)

/-- Apply a sign. -/
def signed (negative : Bool) (n : Nat) : Int := if negative then -(n : Int) else n

/-- The integer that a parameter begins with, after blanks: a sign and digits, or nothing. -/
def leadingInt? (s : List Char) : Except TooManyDigits (Option Int) :=
  let (negative, rest) := splitSign (trimLeft s)
  match rest.takeWhile isDigit with
  | [] => .ok none
  | ds => (digits? ds).map fun n => some (signed negative n)

/-- Does every underscore stand between two digits? `prev` tells whether a digit came before it. -/
def underscoresOk : Bool → List Char → Bool
  | _, [] => true
  | prev, '_' :: s => prev && (s.head?.any isDigit) && underscoresOk false s
  | _, c :: s => underscoresOk (isDigit c) s

/-- The text without its underscores. -/
def dropUnderscores (s : List Char) : List Char := s.filter (· != '_')

/-- The integer that the whole text spells. -/
def int? (s : List Char) : Option Int :=
  let (negative, rest) := splitSign (trimMargin s)
  let ds := dropUnderscores rest
  if ds ≠ [] ∧ ds.all isDigit ∧ underscoresOk false rest then
    (digits? ds).toOption.map (signed negative)
  else none

/-- ASCII lower case. -/
def asciiLower (s : List Char) : List Char := s.map Char.toLower

/-- The exponent part of a numeral: `e`, an optional sign, digits. -/
def exponent? : List Char → Option Int
  | [] => some 0
  | c :: s =>
    let (negative, ds) := splitSign s
    if (c == 'e' || c == 'E') && !ds.isEmpty && ds.all isDigit then
      some (signed negative (digitsValue ds))
    else none

/-- The magnitude that an unsigned numeral without underscores spells. -/
def magnitude? (s : List Char) : Option Float :=
  if asciiLower s ∈ ["inf".toList, "infinity".toList] then some (1 / 0)
  else if asciiLower s = "nan".toList then some (0 / 0)
  else
    let whole := s.takeWhile isDigit
    let rest := s.dropWhile isDigit
    let (fraction, rest) := match rest with
      | '.' :: r => (r.takeWhile isDigit, r.dropWhile isDigit)
      | r => ([], r)
    if whole.isEmpty && fraction.isEmpty then none
    else (exponent? rest).map fun e =>
      Binary64.ofDecimal (digitsValue (whole ++ fraction)) (e - fraction.length)

/-- The double nearest to the number that the whole text spells. -/
def float? (s : List Char) : Option Float :=
  let (negative, rest) := splitSign (trimMargin s)
  if underscoresOk false rest then
    (magnitude? (dropUnderscores rest)).map fun x => if negative then -x else x
  else none

@[simp] theorem splitSign_plus (s : List Char) : splitSign ('+' :: s) = (false, s) := rfl

@[simp] theorem splitSign_minus (s : List Char) : splitSign ('-' :: s) = (true, s) := rfl

theorem digits?_eq_error_iff {ds : List Char} {e : TooManyDigits} :
    digits? ds = .error e ↔ digitLimit < ds.length ∧ e = ⟨ds.length⟩ := by
  unfold digits?
  split <;> grind

end LabelPress.Text
