import LabelPress.Text.Blank

/-!
# Assignments

A file of assignments gives values to names, one assignment a line: `NAME=value`, with or without
the word `export` in front. A value may stand in quotes, and then it may run over several lines and
hold escapes; without quotes it ends at the line's end or at a comment. A line that breaks the rules
is passed over. A value may take up the values of other names.

* `assignments`: the assignments of a file.
* `expand`: a value with the values of other names in place.
* `resolve`: the names of a file with their values.
-/

namespace LabelPress.Config

open Text (isBlank trimRight)

/-- A name and what is given to it; a name alone is given nothing. -/
structure Assignment where
  /-- The name. -/
  name : List Char
  /-- The value. -/
  value : Option (List Char)
deriving Repr, DecidableEq

/-! ## Lines -/

/-- Drop the blanks that do not end the line. -/
def skipBlanks (s : List Char) : List Char := s.dropWhile fun c => isBlank c && c != '\n'

/-- What comes after the line. -/
def nextLine (s : List Char) : List Char := (s.dropWhile (· != '\n')).drop 1

/-- Drop the word `export`, if blanks follow it. -/
def dropExport (s : List Char) : List Char :=
  let word := "export".toList
  if word.isPrefixOf s then
    let rest := s.drop word.length
    if skipBlanks rest = rest then s else skipBlanks rest
  else s

/-- Can the character stand in a name without quotes? -/
def isNameChar (c : Char) : Bool := c != '=' && c != '#' && !isBlank c

/-- The name at the head of a line and what follows; a comment has no name. A line without a name is
an error, from where its rest is passed over. -/
def readName (s : List Char) : Except (List Char) (Option (List Char) × List Char) :=
  match s with
  | '#' :: _ => .ok (none, s)
  | '\x27' :: rest =>
    match rest.takeWhile (· != '\x27'), rest.dropWhile (· != '\x27') with
    | c :: cs, _ :: after => .ok (some (c :: cs), after)
    | _, _ => .error s
  | _ =>
    match s.takeWhile isNameChar with
    | [] => .error s
    | name => .ok (some name, s.dropWhile isNameChar)

/-- The text before the closing quote and what comes after it. A backslash takes the character after
it into the text, so that a quote there closes nothing. -/
def untilQuote? (quote : Char) : List Char → Option (List Char × List Char)
  | [] => none
  | '\\' :: c :: s => (untilQuote? quote s).map fun (text, rest) => ('\\' :: c :: text, rest)
  | c :: s =>
    if c = quote then some ([], s)
    else (untilQuote? quote s).map fun (text, rest) => (c :: text, rest)

/-- What a backslash and a character stand for between double quotes. -/
def doubleEscape? : Char → Option Char
  | '\\' => some '\\'
  | '\x27' => some '\x27'
  | '\x22' => some '\x22'
  | 'a' => some '\x07'
  | 'b' => some '\x08'
  | 'f' => some '\x0c'
  | 'n' => some '\n'
  | 'r' => some '\r'
  | 't' => some '\t'
  | 'v' => some '\x0b'
  | _ => none

/-- What a backslash and a character stand for between single quotes. -/
def singleEscape? : Char → Option Char
  | '\\' => some '\\'
  | '\x27' => some '\x27'
  | _ => none

/-- Replace escapes; a backslash that begins none stays. -/
def unescape (escape? : Char → Option Char) : List Char → List Char
  | '\\' :: c :: s =>
    match escape? c with
    | some d => d :: unescape escape? s
    | none => '\\' :: unescape escape? (c :: s)
  | c :: s => c :: unescape escape? s
  | [] => []

/-- The text before a comment, which begins with a blank and a number sign. -/
def cutComment : List Char → List Char
  | c :: s => if isBlank c && s.head? == some '#' then [] else c :: cutComment s
  | [] => []

/-- The value at the head of a text and what follows. -/
def readValue (s : List Char) : Except (List Char) (List Char × List Char) :=
  let start := skipBlanks s
  let quotedBy (quote : Char) (escape? : Char → Option Char) (rest : List Char) :=
    match untilQuote? quote rest with
    | some (text, after) => .ok (unescape escape? text, after)
    | none => .error start
  match start with
  | '\x27' :: rest => quotedBy '\x27' singleEscape? rest
  | '\x22' :: rest => quotedBy '\x22' doubleEscape? rest
  | _ =>
    let text := cutComment (s.takeWhile (· != '\n'))
    .ok (trimRight (skipBlanks text), s.dropWhile (· != '\n'))

/-- What comes after the end of the line, before which only a comment may stand. -/
def endLine (s : List Char) : Except (List Char) (List Char) :=
  match skipBlanks s with
  | '#' :: rest => .ok (nextLine rest)
  | '\n' :: rest => .ok rest
  | [] => .ok []
  | _ => .error s

/-- The assignment of a line, if it has one, and what comes after the line. -/
def readLine (s : List Char) : Except (List Char) (Option Assignment × List Char) := do
  let (name, s) ← readName (dropExport s)
  match skipBlanks s with
  | '=' :: rest =>
    let (value, rest) ← readValue rest
    return (name.map (⟨·, some value⟩), ← endLine rest)
  | s => return (name.map (⟨·, none⟩), ← endLine s)

/-- The assignments of a text. -/
def assignmentsOf (s : List Char) : List Assignment :=
  let line := Text.trimLeft s
  if line.isEmpty then []
  else
    let (found, rest) := match readLine line with
      | .ok r => r
      | .error rest => (none, nextLine rest)
    if rest.length < s.length then found.toList ++ assignmentsOf rest else found.toList
termination_by s.length

/-- The mark of the byte order, which may stand at the head of a file. -/
def byteOrderMark : Char := '\ufeff'

/-- **The assignments of a file**; a mark of the byte order in front of them says nothing. -/
def assignments (s : List Char) : List Assignment :=
  assignmentsOf (if s.head? = some byteOrderMark then s.tail else s)

/-! ## Values that take up others -/

/-- A name in braces after a dollar sign, with the value it has otherwise, and what follows. -/
def reference? (s : List Char) : Option (List Char × List Char × List Char) :=
  let isInner (c : Char) := c != '\x7d' && c != ':'
  match s with
  | '$' :: '\x7b' :: s =>
    let name := s.takeWhile isInner
    match s.dropWhile isInner with
    | '\x7d' :: rest => some (name, [], rest)
    | ':' :: '-' :: s =>
      match s.dropWhile (· != '\x7d') with
      | _ :: rest => some (name, s.takeWhile (· != '\x7d'), rest)
      | [] => none
    | _ => none
  | _ => none

/-- **A value with the values of other names in place**; `valueOf name otherwise` is one. -/
def expand (valueOf : List Char → List Char → List Char) : List Char → List Char
  | [] => []
  | c :: s =>
    match reference? (c :: s) with
    | some (name, otherwise, rest) =>
      if rest.length < (c :: s).length then valueOf name otherwise ++ expand valueOf rest
      else valueOf name otherwise
    | none => c :: expand valueOf s
termination_by s => s.length
decreasing_by
  · assumption
  · exact Nat.lt_succ_self _

/-- Names with their values, if they have any, in the order in which they first occur. -/
abbrev Bindings := List (List Char × Option (List Char))

/-- Give a value to a name. -/
def bind (name : List Char) (value : Option (List Char)) : Bindings → Bindings
  | [] => [(name, value)]
  | (n, v) :: rest =>
    if n = name then (n, value) :: rest else (n, v) :: bind name value rest

/-- The value of a name among assignments made before and then in the surroundings. -/
def valueIn (surroundings : List (List Char × List Char)) (before : Bindings)
    (name otherwise : List Char) : List Char :=
  match before.lookup name with
  | some value => value.getD []
  | none => (surroundings.lookup name).getD otherwise

/-- **The names of a file with their values.** -/
def resolve (surroundings : List (List Char × List Char)) (as : List Assignment) : Bindings :=
  as.foldl (fun before a =>
    bind a.name (a.value.map (expand (valueIn surroundings before))) before) []

theorem lookup_bind (name other : List Char) (value : Option (List Char)) (b : Bindings) :
    (bind name value b).lookup other = if other = name then some value else b.lookup other := by
  have miss {m : List Char} (h : other ≠ m) : (other == m) = false := beq_eq_false_iff_ne.2 h
  induction b with
  | nil =>
    by_cases h : other = name
    · simp [bind, h]
    · simp [bind, List.lookup_cons, h, miss h]
  | cons p b ih =>
    obtain ⟨n, v⟩ := p
    simp only [bind]
    split
    next h =>
      subst h
      by_cases ho : other = n
      · simp [ho]
      · simp [List.lookup_cons, ho, miss ho]
    next h =>
      by_cases ho : other = n
      · subst ho
        simp [h]
      · simp [List.lookup_cons, ih, miss ho]

end LabelPress.Config
