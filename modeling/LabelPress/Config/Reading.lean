import LabelPress.Config.Verdict
import LabelPress.Files.Path
import LabelPress.Number.Measure
import LabelPress.Number.Shortest
import LabelPress.Text.Numeral
import LabelPress.Yaml.Value

/-!
# Reading fields

How a value of a document is understood where a certain kind of value is wanted. Numbers may be
given as texts and truth values as words or as numbers, and bytes may stand for the text that they
encode; texts, lists and mappings may not be anything else.

* `text`, `integer`, `real`, `truth`, `path`, `listOf`, `tableOf`: the kinds of values.
* `required`, `optional`: the fields of a mapping.
* `count`, `amount`: numbers that have to be large enough.
-/

namespace LabelPress.Config

open Yaml (Value Document)

/-- The pairs of a mapping. -/
abbrev Fields := List (Value × Value)

/-! ## Numerals -/

/-- The text without its underscores, if single ones stand inside it and nowhere else. -/
def dropSeparators? (s : List Char) : Option (List Char) :=
  let doubled := (s.zip (s.drop 1)).any fun (a, b) => a == '_' && b == '_'
  if !s.contains '_' || s.head? == some '_' || s.getLast? == some '_' || doubled then none
  else some (s.filter (· != '_'))

/-- Is the character an ASCII digit? -/
def isAsciiDigit (c : Char) : Bool := '0' ≤ c && c ≤ '9'

/-- The text without one sign in front of it; a plus before a minus is no sign. -/
def dropPlus? : List Char → Option (List Char)
  | '+' :: s => if s.head? == some '-' then none else some s
  | s => some s

/-- A numeral without the zeros in front of it, among which underscores may stand, and with one
minus at most, which may stand before or behind them. A zero before a point or at the end stays. -/
def dropZeros? (s : List Char) : Option (Bool × List Char) :=
  let isZero (c : Char) : Bool := c == '0' || c == '_'
  let (negative, digits) := match s with
    | '-' :: rest => (true, rest)
    | rest => (false, rest)
  match digits.head?, digits.dropWhile isZero with
  | some '0', [] => some (negative, if digits.getLast? == some '0' then ['0'] else digits)
  | some '0', '.' :: rest =>
    if (digits.takeWhile isZero).getLast? == some '0' then some (negative, '0' :: '.' :: rest)
    else none
  | some '0', '-' :: rest => if negative then none else some (true, rest)
  | some '0', rest => some (negative, rest)
  | some _, _ => some (negative, digits)
  | none, _ => none

/-- A text without a point and zeros at its end, of which there must be one at least. -/
def dropFraction (s : List Char) : List Char :=
  match s.dropWhile (· != '.') with
  | '.' :: z :: zeros => if (z :: zeros).all (· == '0') then s.takeWhile (· != '.') else s
  | _ => s

/-- The number that digits spell, of which the first is a zero only if it is alone. -/
def canonicalNumber (ds : List Char) : Verdict Nat :=
  let run := ds.takeWhile isAsciiDigit
  if run.isEmpty || (run.head? == some '0' && 1 < ds.length) then .flaw .unreadableInteger
  else if Text.digitLimit < run.length then .flaw .integerTooLong
  else if run.length < ds.length then .flaw .unreadableInteger
  else .accepted (Text.digitsValue run)

/-- **The whole number that a text spells.** -/
def integerOfText (s : List Char) : Verdict Int :=
  match (dropPlus? (Text.trimMargin s)).bind dropZeros? with
  | none => .flaw .unreadableInteger
  | some (negative, digits) =>
    let digits := dropFraction digits
    Text.signed negative <$> canonicalNumber ((dropSeparators? digits).getD digits)

/-- The double that a text without margins and separators spells. -/
def plainReal? (s : List Char) : Option Float :=
  let (negative, rest) := Text.splitSign s
  if rest.all (·.toNat < 0x80) then
    (Text.magnitude? rest).map fun x => if negative then -x else x
  else none

/-- The double that a text spells. -/
def realOfText (s : List Char) : Verdict Float :=
  match plainReal? (Text.trimMargin s) <|> (dropSeparators? s).bind plainReal? with
  | some x => .accepted x
  | none => .flaw .unreadableNumber

/-! ## Kinds of values -/

/-- The text that bytes encode; `flaw` is told if they encode none. -/
def textOfBytes (flaw : Flaw) (bs : List UInt8) : Verdict (List Char) :=
  match String.fromUTF8? ⟨bs.toArray⟩ with
  | some s => .accepted s.toList
  | none => .flaw flaw

/-- A text. -/
def text : Value → Verdict (List Char)
  | .text s => .accepted s
  | .garbled _ => .flaw .notUnicode
  | .bytes bs => textOfBytes .notUnicode bs
  | _ => .flaw .notText

/-- No whole number of this size or more can be told from a double. -/
def wordBound : Rat := (2 : Rat) ^ (63 : Int)

/-- A whole number of a double, if it is within 63 bits. -/
def integerOfReal (x : Float) : Verdict Int :=
  match Binary64.ofFloat? x with
  | none => .flaw .notFinite
  | some q =>
    if q.den ≠ 1 then .flaw .fractional
    else if -wordBound < q ∧ q < wordBound then .accepted q.num
    else .flaw .integerTooLong

/-- A whole number; a truth value counts as one or zero. -/
def integer : Value → Verdict Int
  | .int n => .accepted n
  | .bool b => .accepted b.toNat
  | .real x _ => integerOfReal x
  | .text s => integerOfText s
  | .garbled _ => .flaw .notUnicode
  | .bytes bs => (textOfBytes .unreadableInteger bs).andThen integerOfText
  | _ => .flaw .notInteger

/-- A double; a truth value counts as one or zero. -/
def real : Value → Verdict Float
  | .real x _ => .accepted x
  | .int n => match Measure.ofInt? n with
    | .ok x => .accepted x
    | .error _ => .flaw .notNumber
  | .bool b => .accepted (if b then 1 else 0)
  | .text s => realOfText s
  | .garbled _ => .flaw .notUnicode
  | .bytes bs => (textOfBytes .unreadableNumber bs).andThen realOfText
  | _ => .flaw .notNumber

/-- The words for truth values, in any case. -/
def truthWords : List (String × Bool) :=
  [("0", false), ("off", false), ("f", false), ("false", false), ("n", false), ("no", false),
    ("1", true), ("on", true), ("t", true), ("true", true), ("y", true), ("yes", true)]

/-- The truth value that a word stands for. -/
def truthOfText (s : List Char) : Verdict Bool :=
  match truthWords.lookup (String.ofList (Text.asciiLower s)) with
  | some b => .accepted b
  | none => .flaw .unreadableTruth

/-- The truth value that a whole number stands for. -/
def truthOfInt (n : Int) : Verdict Bool :=
  if n = 0 then .accepted false
  else if n = 1 then .accepted true
  else if -wordBound ≤ (n : Rat) ∧ (n : Rat) < wordBound then .flaw .unreadableTruth
  else .flaw .notTruth

/-- A truth value. -/
def truth : Value → Verdict Bool
  | .bool b => .accepted b
  | .int n => truthOfInt n
  | .real x _ => match integerOfReal x with
    | .accepted n => truthOfInt n
    | .rejected _ => .flaw .notTruth
  | .text s => truthOfText s
  | .garbled _ => .flaw .notUnicode
  | .bytes bs => (textOfBytes .unreadableTruth bs).andThen truthOfText
  | _ => .flaw .notTruth

/-- A path. -/
def path : Value → Verdict Path
  | .text s => .accepted (.ofText s)
  | _ => .flaw .notPath

/-- A list of values of one kind; a set is taken for one. -/
def listOf {α : Type} (d : Document) (read : Value → Verdict α) (v : Value) : Verdict (List α) :=
  match d.collection? v with
  | some (.sequence items) | some (.set items) =>
    Verdict.each (fun (v, i) => (read v).below (toString i).toList) items.zipIdx
  | _ => .flaw .notList

/-- The pairs of a mapping in which fields are looked up. -/
def fields (d : Document) (v : Value) : Verdict Fields :=
  match d.collection? v with
  | some (.mapping m) => .accepted m
  | _ => .flaw .notRecord

/-- How a whole number is called on the way to an issue. -/
def integerName (n : Int) : List Char :=
  let name := (toString n).toList
  if Text.digitLimit < (name.filter isAsciiDigit).length then "<unprintable int object>".toList
  else name

/-- How a key is called on the way to an issue. -/
def keyName : Value → List Char
  | .text s => s
  | .garbled s => s.shown
  | .int n => integerName n
  | .bool b => if b then ['1'] else ['0']
  | .real x _ => Binary64.realText x
  | .null => "None".toList
  | .bytes bs => Yaml.bytesText bs
  | .time t => t.text.toList
  | _ => []

/-- A pair of a mapping of names. -/
def entry {α : Type} (read : Value → Verdict α) (pair : Value × Value) :
    Verdict (List Char × α) :=
  (Prod.mk <$> (text pair.1).below "[key]".toList <*> read pair.2).below (keyName pair.1)

/-- Put what has a name into a table, over what has that name already. -/
def putIn {α : Type} (name : List Char) (a : α) :
    List (List Char × α) → List (List Char × α)
  | [] => [(name, a)]
  | (n, b) :: rest => if n = name then (n, a) :: rest else (n, b) :: putIn name a rest

/-- A mapping of names to values of one kind. -/
def tableOf {α : Type} (d : Document) (read : Value → Verdict α) (v : Value) :
    Verdict (List (List Char × α)) :=
  match d.collection? v with
  | some (.mapping m) =>
    (·.foldl (fun table (name, a) => putIn name a table) []) <$> Verdict.each (entry read) m
  | _ => .flaw .notTable

/-! ## Fields -/

/-- The value of a field. -/
def valueOf? (name : String) (m : Fields) : Option Value := Value.lookup (.text name.toList) m

/-- A field that must be there. -/
def required {α : Type} (name : String) (read : Value → Verdict α) (m : Fields) : Verdict α :=
  (match valueOf? name m with
  | some v => read v
  | none => .flaw .missing).below name.toList

/-- A field that may be left out. -/
def optional {α : Type} (name : String) (default : α) (read : Value → Verdict α) (m : Fields) :
    Verdict α :=
  match valueOf? name m with
  | some v => (read v).below name.toList
  | none => .accepted default

/-- The condition that a whole number is above zero. -/
def positive (n : Int) : Verdict Int := if 0 < n then .accepted n else .flaw .tooSmall

/-- The condition that a double is at least zero. -/
def atLeastZero (x : Float) : Verdict Float := if 0 ≤ x then .accepted x else .flaw .belowBound

/-- A whole number above zero. -/
def count (v : Value) : Verdict Int := (integer v).andThen positive

/-- A double of at least zero. -/
def amount (v : Value) : Verdict Float := (real v).andThen atLeastZero

theorem positive_eq_accepted_iff {n m : Int} : positive n = .accepted m ↔ 0 < n ∧ n = m := by
  unfold positive
  split <;> simp [Verdict.flaw] <;> grind

theorem atLeastZero_eq_accepted_iff {x y : Float} :
    atLeastZero x = .accepted y ↔ 0 ≤ x ∧ x = y := by
  unfold atLeastZero
  split <;> simp [Verdict.flaw] <;> grind

/-- An accepted field is the default, or its value was read. -/
theorem optional_eq_accepted {α : Type} {name : String} {default : α}
    {read : Value → Verdict α} {m : Fields} {a : α}
    (h : optional name default read m = .accepted a) :
    a = default ∨ ∃ v, read v = .accepted a := by
  unfold optional at h
  split at h
  next v _ => exact .inr ⟨v, Verdict.below_eq_accepted_iff.1 h⟩
  next => exact .inl (by simpa using h.symm)

end LabelPress.Config
