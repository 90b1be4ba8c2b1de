import LabelPress.Yaml.Timestamp

/-!
# What plain scalars mean

A scalar that is written without quotes and without a tag gets its tag from its text: it may be a
truth value, a number, a date, the merge key or nothing at all, and otherwise it is a text. Each
kind is a small grammar over the ASCII characters.

* `implicitTag`: the tag of a plain scalar.
* `isIntText`, `isFloatText`: the larger grammars.
-/

namespace LabelPress.Yaml

/-- A tag of the notation itself. -/
def coreTag (name : String) : List Char := ("tag:yaml.org,2002:" ++ name).toList

/-- The text after one optional sign. -/
def dropSign : List Char → List Char
  | '+' :: s => s
  | '-' :: s => s
  | s => s

/-- A digit or an underscore. -/
def isDigitOrLine (c : Char) : Bool := c.isDigit || c == '_'

/-- Digits with underscores among them, the first a digit. -/
def isDigitRun : List Char → Bool
  | c :: s => c.isDigit && s.all isDigitOrLine
  | [] => false

/-- One number of base sixty, `0` to `59`. -/
def isSixtieth : List Char → Bool
  | [a] => a.isDigit
  | [a, b] => '0' ≤ a && a ≤ '5' && b.isDigit
  | _ => false

/-- The spellings of integers: binary, octal, decimal, hexadecimal, and parts of base sixty. -/
def isIntText (s : List Char) : Bool :=
  match dropSign s with
  | '0' :: 'b' :: ds => !ds.isEmpty && ds.all fun c => c == '0' || c == '1' || c == '_'
  | '0' :: 'x' :: ds =>
    !ds.isEmpty && ds.all fun c =>
      isDigitOrLine c || ('a' ≤ c && c ≤ 'f') || ('A' ≤ c && c ≤ 'F')
  | '0' :: ds => ds.all fun c => ('0' ≤ c && c ≤ '7') || c == '_'
  | c :: s =>
    c.isDigit &&
      match (c :: s).splitOn ':' with
      | first :: parts => isDigitRun first && parts.all isSixtieth
      | [] => false
  | [] => false

/-- The exponent of a decimal fraction: nothing, or the letter, a sign and digits. -/
def isExponent : List Char → Bool
  | [] => true
  | e :: sign :: ds =>
    (e == 'e' || e == 'E') && (sign == '+' || sign == '-') && !ds.isEmpty && ds.all Char.isDigit
  | _ => false

/-- Digits after the point, and an exponent. -/
def isFractionTail (s : List Char) : Bool := isExponent (s.dropWhile isDigitOrLine)

/-- Parts of base sixty, a point after the last. -/
def isSixtiethFraction (s : List Char) : Bool :=
  let whole := s.takeWhile (· ≠ '.')
  match whole.splitOn ':', s.dropWhile (· ≠ '.') with
  | first :: part :: parts, '.' :: tail =>
    isDigitRun first && (part :: parts).all isSixtieth && tail.all isDigitOrLine
  | _, _ => false

/-- The spellings of numbers with a point; infinity and what is no number begin with one. -/
def isFloatText (s : List Char) : Bool :=
  let body := dropSign s
  let text := String.ofList body
  (match body.takeWhile isDigitOrLine, body.dropWhile isDigitOrLine with
    | whole, '.' :: tail => isDigitRun whole && isFractionTail tail
    | _, _ => false) ||
  (match s with
    | '.' :: c :: tail => c.isDigit && isFractionTail tail
    | _ => false) ||
  isSixtiethFraction body ||
  text == ".inf" || text == ".Inf" || text == ".INF" ||
  [".nan", ".NaN", ".NAN"].contains (String.ofList s)

/-- The spellings of truth values. -/
def boolTexts : List String :=
  ["yes", "Yes", "YES", "no", "No", "NO", "true", "True", "TRUE", "false", "False", "FALSE", "on",
    "On", "ON", "off", "Off", "OFF"]

/-- The spellings of nothing. -/
def nullTexts : List String := ["", "~", "null", "Null", "NULL"]

/-- The tag of a text that spells more than itself; most do not. -/
def spelledTag (s : List Char) : List Char :=
  let text := String.ofList s
  if boolTexts.contains text then coreTag "bool"
  else if isFloatText s then coreTag "float"
  else if isIntText s then coreTag "int"
  else if text == "<<" then coreTag "merge"
  else if nullTexts.contains text then coreTag "null"
  else if (Timestamp.ofText? true s).isSome then coreTag "timestamp"
  else if text == "=" then coreTag "value"
  else if ["!", "&", "*"].contains text then coreTag "yaml"
  else coreTag "str"

/-- The text without a line break at its end. -/
def dropFinalBreak (s : List Char) : List Char := if s.getLast? = some '\n' then s.dropLast else s

/-- **The tag of a scalar that tells it by its text.** A line break at its end does not count,
unless it is all there is. -/
def implicitTag (s : List Char) : List Char :=
  if s = ['\n'] then coreTag "str" else spelledTag (dropFinalBreak s)

end LabelPress.Yaml
