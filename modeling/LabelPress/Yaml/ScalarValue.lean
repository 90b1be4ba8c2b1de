import LabelPress.Number.Measure
import LabelPress.Text.Numeral
import LabelPress.Yaml.Letter
import LabelPress.Yaml.Scalar
import LabelPress.Yaml.Token
import LabelPress.Yaml.Value

/-!
# What scalars denote

The value of a scalar by its tag. A tag that is written may not fit the text, and a number or date
may be too large or not exist, so there are several ways to fail.

* `ValueError`: why a document has no value, with its wording.
* `intValue`, `realValue`: the numbers, among them those in parts of base sixty.
* `scalarValue`: the value of a tag and a text.
-/

namespace LabelPress.Yaml

/-- Why a document has no value. -/
inductive ValueError where
  /-- It breaks a rule of the notation, or a tag does not fit. -/
  | malformed
  /-- An escape names a code point that no character has. -/
  | noSuchCharacter
  /-- An escape names a number that has no room in 31 bits. -/
  | codeTooLarge
  /-- A number is asked for where nothing is written. -/
  | emptyNumber
  /-- A text is no whole number to the given base. -/
  | notInteger (base : Nat) (text : Letters)
  /-- A whole number is too long. -/
  | tooManyDigits (e : Text.TooManyDigits)
  /-- A text is no number. -/
  | notNumber (text : Letters)
  /-- The value of a place in a number of base sixty exceeds every double. -/
  | tooManyPlaces
  /-- A text is no truth value. -/
  | notBoolean (text : Letters)
  /-- A text is no date. -/
  | notTimestamp
  /-- A mapping is no text of a date. -/
  | notTimestampText
  /-- A date is not in the calendar. -/
  | notDate (flaw : Timestamp.Flaw)
  /-- Collections nest too deep, or a mapping that stands for one of its values stands for itself.
  -/
  | tooDeep
deriving Repr, DecidableEq

/-- A breach of the notation as a failure of the document. -/
def ValueError.ofSyntax : SyntaxError → ValueError
  | .malformed => malformed
  | .noSuchCharacter => noSuchCharacter
  | .codeTooLarge => codeTooLarge
  | .versionTooLong e => tooManyDigits e
  | .tooDeep => tooDeep

/-- A refused numeral is quoted no further than this. -/
def quotationLimit : Nat := 200

/-- The wording of a failure. -/
def ValueError.message : ValueError → List Char
  | malformed => "malformed document".toList
  | noSuchCharacter => "chr() arg not in range(0x110000)".toList
  | codeTooLarge => "Python int too large to convert to C int".toList
  | emptyNumber => "string index out of range".toList
  | notInteger base text =>
    s!"invalid literal for int() with base {base}: ".toList ++
      text.quoted.take quotationLimit
  | tooManyDigits e => e.message.toList
  | notNumber text => "could not convert string to float: ".toList ++ text.quoted
  | tooManyPlaces => ArithmeticError.integerTooLarge.message.toList
  | notBoolean text => text.quoted
  | notTimestamp => "'NoneType' object has no attribute 'groupdict'".toList
  | notTimestampText => "expected string or bytes-like object, got 'list'".toList
  | notDate flaw => flaw.message.toList
  | tooDeep => "maximum recursion depth exceeded".toList

/-! ## Whole numbers -/

/-- The value of a digit beyond nine or of a decimal digit of any script. -/
def digitValue? (c : Char) : Option Nat := Text.digit? c <|> hexValue? c

/-- The number that digits to a base denote. -/
def ofBase? (base : Nat) (ds : List Char) : Option Nat :=
  if ds.isEmpty then none
  else ds.foldl (fun n c => do
    let d ← digitValue? c
    guard (d < base)
    return base * (← n) + d) (some 0)

/-- Apply a sign. -/
def signedBy (negative : Bool) (n : Int) : Int := if negative then -n else n

/-- A whole number in the digits of any script. -/
def wholeNumber (text : Letters) : Except ValueError Int :=
  match text.chars?.bind Text.int? with
  | some n => .ok n
  | none =>
    let ds := (Text.splitSign (Text.trimMargin text.beginning)).2.takeWhile Text.isDigit
    if Text.digitLimit < ds.length then .error (.tooManyDigits ⟨ds.length⟩)
    else .error (.notInteger 10 text)

/-- The letter that introduces digits to a base of two, eight or sixteen. -/
def baseLetter (base : Nat) : Char := if base = 2 then 'b' else if base = 8 then 'o' else 'x'

/-- The digits after a zero of any script and the letter that introduces digits to a base. -/
def dropBaseMark (base : Nat) : List Char → List Char
  | zero :: c :: ds =>
    if Text.digit? zero = some 0 ∧ c.toLower = baseLetter base then ds else zero :: c :: ds
  | ds => ds

/-- A whole number to a base; blanks around it, a sign and an introducing letter are allowed. -/
def basedNumber (base : Nat) (text : Letters) : Except ValueError Int :=
  let number? : Option Int := do
    let (negative, rest) := Text.splitSign (Text.trimMargin (← text.chars?))
    return Text.signed negative (← ofBase? base (dropBaseMark base rest))
  match number? with
  | some n => .ok n
  | none => .error (.notInteger base text)

/-- A whole number as written: to base two, eight, ten or sixteen, or in parts of base sixty. -/
def intValue (text : Letters) : Except ValueError Int := do
  let text : Letters := text.filter (· ≠ .char '_')
  let negative := text.head? = some (.char '-')
  let n ← match text.dropSign with
    | [] => throw .emptyNumber
    | [.char '0'] => pure 0
    | .char '0' :: .char 'b' :: ds => basedNumber 2 ds
    | .char '0' :: .char 'x' :: ds => basedNumber 16 ds
    | .char '0' :: ds => basedNumber 8 (.char '0' :: ds)
    | ds => do
      let parts ← (ds.splitOn (.char ':')).mapM wholeNumber
      pure (parts.foldl (fun n d => 60 * n + d) 0)
  return signedBy negative n

/-! ## Doubles -/

/-- A double as written. -/
def plainReal (text : Letters) : Except ValueError Float :=
  match text.chars?.bind Text.float? with
  | some x => .ok x
  | none => .error (.notNumber text)

/-- The sum of the parts of a number of base sixty, the last part first, where `unit` is the value
of the first place and `total` the sum so far. -/
def sumOfSixtieths : List Float → (unit : Nat) → (total : Float) → Except ValueError Float
  | [], _, total => .ok total
  | part :: parts, unit, total =>
    match Measure.ofInt? unit with
    | .ok factor => sumOfSixtieths parts (60 * unit) (total + part * factor)
    | .error _ => .error .tooManyPlaces

/-- A number with a point as written, possibly in parts of base sixty. What is no number comes from
the scalar of the given number, unless it is spelled as such. -/
def realValue (scalar : Nat) (text : Letters) : Except ValueError Value := do
  let text := Letters.lower (text.filter (· ≠ .char '_'))
  if text.isEmpty then throw .emptyNumber
  let sign : Float := if text.head? = some (.char '-') then -1 else 1
  let body := text.dropSign
  if body = letters ".inf".toList then return .real (sign * (1 / 0)) none
  if body = letters ".nan".toList then return .real (0 / 0) none
  if body.contains (.char ':') then
    let parts ← (body.splitOn (.char ':')).mapM plainReal
    return .real (sign * (← sumOfSixtieths parts.reverse 1 0)) (some scalar)
  return .real (sign * (← plainReal body)) (some scalar)

/-! ## Other scalars -/

/-- A date that the calendar has. -/
def timeValue (text : Letters) : Except ValueError Timestamp :=
  match text.chars?.bind fun s => Timestamp.ofText? false (dropFinalBreak s) with
  | none => .error .notTimestamp
  | some t => (t.check.mapError .notDate).map fun _ => t

/-- The truth value of a word in any case. -/
def boolValue (text : Letters) : Except ValueError Bool :=
  let word := text.lower
  let isOneOf (words : List String) : Bool := words.any fun w => word == letters w.toList
  if isOneOf ["yes", "true", "on"] then .ok true
  else if isOneOf ["no", "false", "off"] then .ok false
  else .error (.notBoolean word)

/-- The text of letters, if they spell one. -/
def textValue (text : Letters) : Value :=
  match text.chars? with
  | some s => .text s
  | none => .garbled text

/-- The names of the tags that make a scalar of a text. -/
def scalarTags : List (List Char) :=
  ["str", "null", "bool", "int", "float", "timestamp", "binary"].map coreTag

/-- **The value of a scalar** with a given number. -/
def scalarValue (scalar : Nat) (tag : List Char) (text : Letters) : Except ValueError Value :=
  if tag = coreTag "str" then .ok (textValue text)
  else if tag = coreTag "null" then .ok .null
  else if tag = coreTag "bool" then (boolValue text).map .bool
  else if tag = coreTag "int" then (intValue text).map .int
  else if tag = coreTag "float" then realValue scalar text
  else if tag = coreTag "timestamp" then (timeValue text).map .time
  else if tag = coreTag "binary" then
    match text.chars?.bind rawBytes? with
    | some bytes => .ok (.bytes bytes)
    | none => .error .malformed
  else .error .malformed

end LabelPress.Yaml
