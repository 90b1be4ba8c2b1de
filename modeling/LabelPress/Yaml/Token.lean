import LabelPress.Text.Numeral
import LabelPress.Yaml.Character
import LabelPress.Yaml.Letter

/-!
# Tokens of a document

What the characters of a document say, one after the other: marks of documents and collections,
entries, keys and values, anchors, tags and scalars. How deep a block is indented is said by tokens
that open and close blocks.

* `Token`: the tokens.
* `Anchor`, `Tag`, `Scalar`: how single tokens are read, each answering the rest of the characters.

A reader of a single token takes the characters from its first one on, and fails if they do not
begin with such a token.
-/

namespace LabelPress.Yaml

/-- Why a document has no value. -/
inductive SyntaxError where
  /-- It breaks a rule of the notation. -/
  | malformed
  /-- An escape names a code point that no character has. -/
  | noSuchCharacter
  /-- An escape names a number that has no room in 31 bits. -/
  | codeTooLarge
  /-- A part of a version number is too long. -/
  | versionTooLong (e : Text.TooManyDigits)
  /-- Its collections nest too deep to be followed. -/
  | tooDeep
deriving Repr, DecidableEq

/-- What a directive says. -/
inductive Directive where
  /-- The version of the notation. -/
  | version (major minor : Nat)
  /-- A handle stands for the beginning of tags. -/
  | handle (handle beginning : List Char)
  /-- Anything else. -/
  | other
deriving Repr, DecidableEq

/-- The tokens of a document. -/
inductive Token where
  /-- A directive. -/
  | directive (d : Directive)
  /-- The beginning of a document. -/
  | documentStart
  /-- The end of a document. -/
  | documentEnd
  /-- The beginning of a block of entries. -/
  | blockSequenceStart
  /-- The beginning of a block of keys and values. -/
  | blockMappingStart
  /-- The end of a block. -/
  | blockEnd
  /-- An opening bracket. -/
  | flowSequenceStart
  /-- A closing bracket. -/
  | flowSequenceEnd
  /-- An opening brace. -/
  | flowMappingStart
  /-- A closing brace. -/
  | flowMappingEnd
  /-- A hyphen before an entry. -/
  | blockEntry
  /-- A comma. -/
  | flowEntry
  /-- The beginning of a key. -/
  | key
  /-- The beginning of a value. -/
  | value
  /-- The name of a node given elsewhere. -/
  | alias (name : List Char)
  /-- A name for the node that follows. -/
  | anchor (name : List Char)
  /-- A tag, its beginning given by a handle if there is one. -/
  | tag (handle : Option (List Char)) (suffix : List Char)
  /-- A scalar; a plain one is written without quotes and in no block of its own. -/
  | scalar (text : Letters) (isPlain : Bool)
deriving Repr, DecidableEq

/-- Characters still to be read. -/
abbrev Rest := List Spot

namespace Rest

/-- The next character. -/
def peek (r : Rest) : Char := (r.head?.map Spot.char).getD endMark

/-- The character after so many. -/
def peekAt (r : Rest) (n : Nat) : Char := (r[n]?.map Spot.char).getD endMark

/-- The column of the next character. -/
def column (r : Rest) : Nat := (r.head?.map Spot.column).getD 0

/-- The characters as long as they satisfy a test, and the rest. -/
def takeWhile (p : Char → Bool) (r : Rest) : List Char × Rest :=
  ((List.takeWhile (fun s => p s.char) r).map Spot.char, r.dropWhile fun s => p s.char)

/-- The rest after characters that satisfy a test. -/
def skip (p : Char → Bool) (r : Rest) : Rest := r.dropWhile fun s => p s.char

/-- Do these characters come next? -/
def startsWith (r : Rest) (w : List Char) : Bool := (r.take w.length).map Spot.char == w

/-- Does a document begin or end here, given that a line does? -/
def atDocumentMark (r : Rest) : Bool :=
  (r.startsWith ['-', '-', '-'] || r.startsWith ['.', '.', '.']) && isGapOrEnd (r.peekAt 3)

/-- A line break, if one comes next: what it counts as, and the rest. -/
def takeBreak? (r : Rest) : Option (Char × Rest) :=
  let c := r.peek
  if c == '\r' && r.peekAt 1 == '\n' then some ('\n', r.drop 2)
  else if c == '\r' || c == '\n' || c == '\u0085' then some ('\n', r.drop 1)
  else if c == '\u2028' || c == '\u2029' then some (c, r.drop 1)
  else none

/-- The rest after a comment and the line break behind it; nothing else may come before that. -/
def skipLineEnd (r : Rest) : Except SyntaxError Rest :=
  let r := r.skip (· == ' ')
  let r := if r.peek == '#' then r.skip (!isBreakOrEnd ·) else r
  if isBreakOrEnd r.peek then .ok ((r.takeBreak?.map Prod.snd).getD r) else .error .malformed

end Rest

/-- A test that must hold. -/
def require (b : Bool) : Except SyntaxError Unit := if b then .ok () else .error .malformed

/-! ## Names, tags and directives -/

/-- The name of an anchor or alias, after its mark. -/
def readName (r : Rest) : Except SyntaxError (List Char × Rest) := do
  let (name, r) := r.takeWhile isWordChar
  require (name ≠ [])
  require (isGapOrEnd r.peek || "?:,]\x7d%@\x60".toList.contains r.peek)
  return (name, r)

/-- The value of a hexadecimal digit. -/
def hexValue? (c : Char) : Option Nat :=
  if c.isDigit then some (c.toNat - 48)
  else if 'a' ≤ c ∧ c ≤ 'f' then some (c.toNat - 87)
  else if 'A' ≤ c ∧ c ≤ 'F' then some (c.toNat - 55)
  else none

/-- The value of hexadecimal digits, if all of them are. -/
def hexNumber? (ds : List Char) : Option Nat :=
  ds.foldl (fun n c => do return 16 * (← n) + (← hexValue? c)) (some 0)

/-- May the character stand in the name of a tag? -/
def isTagChar (c : Char) : Bool := c.isAlphanum || "-;/?:@&=+$,_.!~*\x27()[]%".toList.contains c

/-- The bytes that percent signs and two digits each stand for, at the head of a text. -/
def percentBytes : List Char → Option (List UInt8 × List Char)
  | '%' :: a :: b :: s => do
    let n ← hexNumber? [a, b]
    let (bytes, s) ← percentBytes s
    return (UInt8.ofNat n :: bytes, s)
  | '%' :: _ => none
  | s => some ([], s)

/-- A tag's name with the bytes after percent signs in place. -/
def unescapeTag : Nat → List Char → Option (List Char)
  | 0, _ => some []
  | _, [] => some []
  | n + 1, '%' :: s => do
    let (bytes, s) ← percentBytes ('%' :: s)
    let text ← String.fromUTF8? ⟨bytes.toArray⟩
    return text.toList ++ (← unescapeTag n s)
  | n + 1, c :: s => do return c :: (← unescapeTag n s)

/-- The name of a tag. -/
def readTagName (r : Rest) : Except SyntaxError (List Char × Rest) := do
  let (text, r) := r.takeWhile isTagChar
  require (text ≠ [])
  match unescapeTag text.length text with
  | some name => return (name, r)
  | none => throw .malformed

/-- A handle: an exclamation mark, or a word between two of them. -/
def readHandle (r : Rest) : Except SyntaxError (List Char × Rest) := do
  require (r.peek == '!')
  if r.peekAt 1 == ' ' then return (['!'], r.drop 1)
  let (word, after) := Rest.takeWhile isWordChar (r.drop 1)
  require (after.peek == '!')
  return ('!' :: word ++ ['!'], after.drop 1)

/-- A tag, from its exclamation mark on. -/
def readTag (r : Rest) : Except SyntaxError (Token × Rest) := do
  let next := r.peekAt 1
  let (token, r) ←
    if next == '<' then do
      let (suffix, r) ← readTagName (r.drop 2)
      require (r.peek == '>')
      pure (Token.tag none suffix, r.drop 1)
    else if isGapOrEnd next then pure (Token.tag none ['!'], r.drop 1)
    else do
      let (word, _) := Rest.takeWhile (!isSpaceOrEnd ·) (r.drop 1)
      let (handle, r) ← if word.contains '!' then readHandle r else pure (['!'], r.drop 1)
      let (suffix, r) ← readTagName r
      pure (Token.tag (some handle) suffix, r)
  require (isSpaceOrEnd (Rest.peek r))
  return (token, r)

/-- A number in decimal digits. -/
def readNumber (r : Rest) : Except SyntaxError (Nat × Rest) := do
  let (ds, r) := r.takeWhile Char.isDigit
  require (ds ≠ [])
  if Text.digitLimit < ds.length then throw (.versionTooLong ⟨ds.length⟩)
  return (ds.foldl (fun n c => 10 * n + (c.toNat - 48)) 0, r)

/-- What a version directive says, after its name. -/
def readVersion (r : Rest) : Except SyntaxError (Directive × Rest) := do
  let (major, r) ← readNumber (r.skip (· == ' '))
  require (r.peek == '.')
  let (minor, r) ← readNumber (r.drop 1)
  require (isSpaceOrEnd r.peek)
  return (.version major minor, r)

/-- What a handle directive says, after its name. -/
def readHandleDirective (r : Rest) : Except SyntaxError (Directive × Rest) := do
  let (handle, r) ← readHandle (r.skip (· == ' '))
  require (r.peek == ' ')
  let (beginning, r) ← readTagName (r.skip (· == ' '))
  require (isSpaceOrEnd r.peek)
  return (.handle handle beginning, r)

/-- A directive, from its percent sign on, with the line it stands on. -/
def readDirective (r : Rest) : Except SyntaxError (Token × Rest) := do
  let (name, r) := Rest.takeWhile isWordChar (r.drop 1)
  require (name ≠ [])
  require (isSpaceOrEnd r.peek)
  let (d, r) ←
    if name = "YAML".toList then readVersion r
    else if name = "TAG".toList then readHandleDirective r
    else pure (.other, r.skip (!isBreakOrEnd ·))
  return (.directive d, ← r.skipLineEnd)

/-! ## Scalars -/

/-- What stands for a line break and the empty lines after it, once lines are joined. -/
def foldBreaks (first : Char) (more : List Char) : List Char :=
  if first ≠ '\n' then first :: more else if more = [] then [' '] else more

/-- What a letter after a backslash stands for. -/
def escapes : List (Char × Char) :=
  [('0', '\x00'), ('a', '\x07'), ('b', '\x08'), ('t', '\t'), ('\t', '\t'), ('n', '\n'),
    ('v', '\x0b'), ('f', '\x0c'), ('r', '\r'), ('e', '\x1b'), (' ', ' '), ('"', '"'),
    ('\\', '\\'), ('/', '/'), ('N', '\u0085'), ('_', '\u00a0'), ('L', '\u2028'), ('P', '\u2029')]

/-- How many digits follow a letter that introduces a code point. -/
def codeLength? : Char → Option Nat
  | 'x' => some 2
  | 'u' => some 4
  | 'U' => some 8
  | _ => none

/-- Line breaks inside quotes; a document may neither begin nor end there. -/
def takeQuotedBreaks : Nat → Rest → Except SyntaxError (List Char × Rest)
  | 0, r => .ok ([], r)
  | n + 1, r => do
    require (!r.atDocumentMark)
    match (r.skip isSpaceOrTab).takeBreak? with
    | none => return ([], r.skip isSpaceOrTab)
    | some (b, r) =>
      let (bs, r) ← takeQuotedBreaks n r
      return (b :: bs, r)

/-- What a backslash stands for, from the character after it on. -/
def readEscape (r : Rest) : Except SyntaxError (Letters × Rest) := do
  let c := r.peek
  if let some d := escapes.lookup c then
    return ([.char d], r.drop 1)
  else if let some n := codeLength? c then
    match hexNumber? (((r.drop 1).take n).map Spot.char) with
    | none => throw .malformed
    | some code =>
      if 0x7fffffff < code then throw .codeTooLarge
      if 0x10ffff < code then throw .noSuchCharacter
      return ([.ofCode code], r.drop (n + 1))
  else match r.takeBreak? with
    | none => throw .malformed
    | some (_, after) =>
      let (breaks, r) ← takeQuotedBreaks after.length after
      return (letters breaks, r)

/-- The letters inside quotes up to the closing one. -/
def readQuotedText (isDouble : Bool) : Nat → Rest → Except SyntaxError (Letters × Rest)
  | 0, _ => .error .malformed
  | n + 1, r => do
    let c := r.peek
    let quote := if isDouble then '"' else '\''
    if c == quote then
      if !isDouble && r.peekAt 1 == quote then
        let (text, r) ← readQuotedText isDouble n (r.drop 2)
        return (.char quote :: text, r)
      else return ([], r.drop 1)
    else if isDouble && c == '\\' then
      let (piece, r) ← readEscape (r.drop 1)
      let (text, r) ← readQuotedText isDouble n r
      return (piece ++ text, r)
    else if isGapOrEnd c then
      let (blanks, after) := r.takeWhile isSpaceOrTab
      if after.peek == endMark then throw .malformed
      let (piece, after) ← match after.takeBreak? with
        | none => pure (blanks, after)
        | some (first, after) => do
          let (more, after) ← takeQuotedBreaks after.length after
          pure (foldBreaks first more, after)
      let (text, r) ← readQuotedText isDouble n after
      return (letters piece ++ text, r)
    else
      let (text, r) ← readQuotedText isDouble n (r.drop 1)
      return (.char c :: text, r)

/-- A quoted scalar, from its opening quote on. -/
def readQuoted (isDouble : Bool) (r : Rest) : Except SyntaxError (Token × Rest) := do
  let (text, r) ← readQuotedText isDouble r.length (r.drop 1)
  return (.scalar text false, r)

/-- What becomes of the line breaks at the end of a block scalar. -/
inductive Chomping where
  /-- The last one stays. -/
  | clip
  /-- None stays. -/
  | strip
  /-- All stay. -/
  | keep
deriving Repr, DecidableEq

/-- The head of a block scalar: its chomping and its indentation, if given. -/
def readBlockHead (r : Rest) : Except SyntaxError ((Chomping × Option Nat) × Rest) := do
  let chomp? : Char → Option Chomping
    | '+' => some .keep
    | '-' => some .strip
    | _ => none
  let digit? (c : Char) : Option Nat := if c.isDigit then some (c.toNat - 48) else none
  let (chomping, indent, r) :=
    match chomp? r.peek, digit? r.peek with
    | some c, _ =>
      match digit? (r.peekAt 1) with
      | some d => (c, some d, r.drop 2)
      | none => (c, none, r.drop 1)
    | none, some d =>
      match chomp? (r.peekAt 1) with
      | some c => (c, some d, r.drop 2)
      | none => (.clip, some d, r.drop 1)
    | none, none => (.clip, none, r)
  require (indent ≠ some 0)
  require (isSpaceOrEnd (Rest.peek r))
  return ((chomping, indent), ← Rest.skipLineEnd r)

/-- The empty lines that begin a block scalar, and the deepest column reached by their spaces. -/
def takeLeadingLines : Nat → Nat → Rest → List Char × Nat × Rest
  | 0, deepest, r => ([], deepest, r)
  | n + 1, deepest, r =>
    let r := r.skip (· == ' ')
    let deepest := max deepest r.column
    match r.takeBreak? with
    | none => ([], deepest, r)
    | some (b, r) =>
      let (bs, deepest, r) := takeLeadingLines n deepest r
      (b :: bs, deepest, r)

/-- The rest after the spaces that indent a line, up to a column. -/
def skipIndent (indent : Nat) (r : Rest) : Rest :=
  r.dropWhile fun s => s.char == ' ' && decide (s.column < indent)

/-- Empty lines inside a block scalar, and the rest after the spaces that indent the next line. -/
def takeEmptyLines (indent : Nat) : Nat → Rest → List Char × Rest
  | 0, r => ([], r)
  | n + 1, r =>
    let r := skipIndent indent r
    match r.takeBreak? with
    | none => ([], r)
    | some (b, r) =>
      let (bs, r) := takeEmptyLines indent n r
      (b :: bs, r)

/-- The lines of a block scalar; `breaks` are the empty lines read before them. -/
def readBlockLines (isFolded : Bool) (chomping : Chomping) (indent : Nat) :
    Nat → (breaks : List Char) → Rest → List Char × Rest
  | 0, _, r => ([], r)
  | n + 1, breaks, r =>
    if r.column ≠ indent ∨ r.peek = endMark then
      (if chomping = .keep then breaks else [], r)
    else
      let (line, after) := r.takeWhile (!isBreakOrEnd ·)
      let (ending, after) := match after.takeBreak? with
        | some (b, after) => ([b], after)
        | none => ([], after)
      let (more, next) := takeEmptyLines indent after.length after
      if next.column = indent ∧ next.peek ≠ endMark then
        let joined := isFolded && ending == ['\n'] && !isSpaceOrTab r.peek &&
          !isSpaceOrTab next.peek
        let glue := if joined then (if more.isEmpty then [' '] else []) else ending
        let (text, rest) := readBlockLines isFolded chomping indent n more next
        (breaks ++ line ++ glue ++ text, rest)
      else
        let tail := match chomping with
          | .strip => []
          | .clip => ending
          | .keep => ending ++ more
        (breaks ++ line ++ tail, next)

/-- A block scalar, from its mark on, inside a block that is indented by `outer`. -/
def readBlock (isFolded : Bool) (outer : Int) (r : Rest) : Except SyntaxError (Token × Rest) := do
  let ((chomping, given), r) ← readBlockHead (r.drop 1)
  let least := (max 1 (outer + 1)).toNat
  let (breaks, indent, r) := match given with
    | none =>
      let (breaks, deepest, r) := takeLeadingLines r.length 0 r
      (breaks, max least deepest, r)
    | some n =>
      let indent := least + n - 1
      let (breaks, r) := takeEmptyLines indent r.length r
      (breaks, indent, r)
  let (text, r) := readBlockLines isFolded chomping indent r.length breaks r
  return (.scalar (letters text) false, r)

/-- Does a plain scalar stop before this character? -/
def stopsPlain (inFlow : Bool) (r : Rest) : Bool :=
  let c := r.peek
  isGapOrEnd c ||
    (c == ':' && (isGapOrEnd (r.peekAt 1) ||
      (inFlow && ",[]\x7b\x7d".toList.contains (r.peekAt 1)))) ||
    (inFlow && ",?[]\x7b\x7d".toList.contains c)

/-- The characters of a plain scalar without blanks between them. -/
def takePlainRun (inFlow : Bool) : Rest → List Char × Rest
  | [] => ([], [])
  | s :: r =>
    if stopsPlain inFlow (s :: r) then ([], s :: r)
    else
      let (run, rest) := takePlainRun inFlow r
      (s.char :: run, rest)

/-- What stands between two runs of a plain scalar. -/
inductive PlainGap where
  /-- Blanks, or joined line breaks, as they appear in the text. -/
  | text (s : List Char)
  /-- A document begins or ends in between. -/
  | documentMark

/-- Empty lines after the first line break inside a plain scalar; none if a document begins or ends
there. -/
def takePlainBreaks : Nat → Rest → Option (List Char) × Rest
  | 0, r => (some [], r)
  | n + 1, r =>
    let r := r.skip (· == ' ')
    match r.takeBreak? with
    | none => (some [], r)
    | some (b, r) =>
      if r.atDocumentMark then (none, r)
      else
        let (bs, r) := takePlainBreaks n r
        (bs.map (b :: ·), r)

/-- The gap after a run of a plain scalar: what it stands for, whether it holds a line break, and
the rest. -/
def takePlainGap (r : Rest) : PlainGap × Bool × Rest :=
  let (blanks, r) := r.takeWhile (· == ' ')
  match r.takeBreak? with
  | none => (.text blanks, false, r)
  | some (first, r) =>
    if r.atDocumentMark then (.documentMark, true, r)
    else match takePlainBreaks r.length r with
      | (none, r) => (.documentMark, true, r)
      | (some more, r) => (.text (foldBreaks first more), true, r)

/-- The runs of a plain scalar from here on, after the gap `before`; and whether a line break was
the last thing read, after which a key may begin. -/
def readPlainRuns (inFlow : Bool) (indent : Int) :
    Nat → (before : List Char) → (afterBreak : Bool) → Rest → List Char × Bool × Rest
  | 0, _, afterBreak, r => ([], afterBreak, r)
  | n + 1, before, afterBreak, r =>
    let (run, rest) := takePlainRun inFlow r
    if r.peek = '#' ∨ run = [] then ([], afterBreak, r)
    else
      match takePlainGap rest with
      | (.documentMark, broke, rest) => (before ++ run, broke, rest)
      | (.text gap, broke, rest) =>
        if gap = [] ∨ rest.peek = '#' ∨ (!inFlow ∧ (rest.column : Int) < indent) then
          (before ++ run, broke, rest)
        else
          let (text, broke, rest) := readPlainRuns inFlow indent n gap broke rest
          (before ++ run ++ text, broke, rest)

/-- A plain scalar, inside a block that is indented by `outer`; and whether a key may begin after
it. -/
def readPlain (inFlow : Bool) (outer : Int) (r : Rest) : Token × Bool × Rest :=
  let (text, broke, r) := readPlainRuns inFlow (outer + 1) r.length [] false r
  (.scalar (letters text) true, broke, r)

/-- May a plain scalar begin here? -/
def startsPlain (inFlow : Bool) (r : Rest) : Bool :=
  let c := r.peek
  !(isGapOrEnd c || "-?:,[]\x7b\x7d#&*!|>\x27\x22%@\x60".toList.contains c) ||
    (!isGapOrEnd (r.peekAt 1) && (c == '-' || (!inFlow && (c == '?' || c == ':'))))

end LabelPress.Yaml
