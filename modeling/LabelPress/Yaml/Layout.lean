import LabelPress.Yaml.Token

/-!
# The layout of a document

Tokens depend on where they stand. Outside of brackets and braces a block is held together by its
indentation, so a line that begins further right opens a block and one further left closes some.
And what looks like a value may turn out to be a key when a colon follows it on the same line; the
token that begins a key is then put before it.

* `TokenStream`: the tokens before a failure.
* `Layout`: what is known between two tokens.
* `Layout.token`: the next token and those that go with it.
* `tokens`: all tokens of a document.
-/

namespace LabelPress.Yaml

/-- The tokens of a document as far as they can be told, and why no more of them can. What is wrong
further on does not matter if the tokens before it are wrong already. -/
structure TokenStream where
  /-- The tokens that can be told. -/
  ready : List Token
  /-- What is wrong with what follows; nothing, if the document ends there. -/
  failure : Option SyntaxError
deriving Repr

/-- A place where a key may have begun. -/
structure KeyPlace where
  /-- How many tokens precede it. -/
  number : Nat
  /-- Must a colon follow? -/
  required : Bool
  /-- Where it begins. -/
  spot : Spot
deriving Repr, DecidableEq

/-- A key that is not introduced by a question mark is no longer than this. -/
def keyLengthLimit : Nat := 1024

/-- What is known between two tokens. -/
structure Layout where
  /-- The characters still to be read. -/
  rest : Rest
  /-- How many brackets and braces are open. -/
  flow : Nat := 0
  /-- The column of the innermost block; before all blocks it is left of the first column. -/
  indent : Int := -1
  /-- The columns of the blocks around it. -/
  outer : List Int := []
  /-- May a key begin here without a question mark? -/
  keyAllowed : Bool := true
  /-- Where keys may have begun, for each number of open brackets. -/
  keys : List (Nat × KeyPlace) := []
  /-- The tokens so far. -/
  tokens : Array Token := #[]
deriving Repr

namespace Layout

/-- The place of the next character. -/
def spot (l : Layout) : Spot := l.rest.head?.getD ⟨endMark, 0, 0, 0⟩

/-- Are brackets open? -/
def inFlow (l : Layout) : Bool := l.flow != 0

/-- Add a token. -/
def push (l : Layout) (t : Token) : Layout := { l with tokens := l.tokens.push t }

/-- Add a token of so many characters. -/
def take (l : Layout) (t : Token) (n : Nat) : Layout :=
  { l with tokens := l.tokens.push t, rest := l.rest.drop n }

/-- Put a token before those that are there, but after so many. -/
def insert (l : Layout) (i : Nat) (t : Token) : Layout :=
  { l with tokens := (l.tokens.toList.take i ++ t :: l.tokens.toList.drop i).toArray }

/-! ## Blocks -/

/-- Close every block that begins right of a column. -/
def closeBlocks (column : Int) : List Int → Layout → Layout
  | [], l => l
  | outer :: outers, l =>
    if column < l.indent then
      closeBlocks column outers { l.push .blockEnd with indent := outer, outer := outers }
    else l

/-- Close the blocks that end before a column; inside brackets nothing is closed. -/
def unindent (l : Layout) (column : Int) : Layout :=
  if l.inFlow then l else closeBlocks column l.outer l

/-- Enter a block at a column, if it lies right of the innermost one. -/
def enter? (l : Layout) (column : Nat) : Option Layout :=
  if l.indent < column then
    some { l with indent := column, outer := l.indent :: l.outer }
  else none

/-- Enter a block at the next character, and say so by a token. -/
def enterHere (l : Layout) (start : Token) : Layout :=
  match l.enter? l.spot.column with
  | some l => l.push start
  | none => l

/-! ## Keys -/

/-- Forget the key that may have begun between the present brackets; it must not be a required
one. -/
def forgetKey (l : Layout) : Except SyntaxError Layout :=
  match l.keys.lookup l.flow with
  | none => .ok l
  | some k =>
    if k.required then .error .malformed
    else .ok { l with keys := l.keys.filter (·.1 != l.flow) }

/-- Has a key begun on another line or too far back? -/
def isStale (l : Layout) (k : KeyPlace) : Bool :=
  k.spot.line != l.spot.line || decide (keyLengthLimit < l.spot.index - k.spot.index)

/-- Forget the keys that have begun on other lines or too far back. -/
def forgetStaleKeys (l : Layout) : Except SyntaxError Layout :=
  if l.keys.any fun (_, k) => l.isStale k && k.required then .error .malformed
  else .ok { l with keys := l.keys.filter fun (_, k) => !l.isStale k }

/-- Note that a key may begin here. -/
def noteKey (l : Layout) : Except SyntaxError Layout := do
  if l.keyAllowed then
    let l ← l.forgetKey
    let place : KeyPlace :=
      ⟨l.tokens.size, !l.inFlow && decide (l.indent = (l.spot.column : Int)), l.spot⟩
    return { l with keys := (l.flow, place) :: l.keys }
  else return l

/-! ## Tokens -/

/-- The rest after blanks, comments and line breaks; after a line break outside of brackets a key
may begin. -/
def skipGap : Nat → Layout → Layout
  | 0, l => l
  | n + 1, l =>
    let r := l.rest.skip (· == ' ')
    let r := if r.peek == '#' then r.skip (!isBreakOrEnd ·) else r
    match r.takeBreak? with
    | none => { l with rest := r }
    | some (_, r) => skipGap n { l with rest := r, keyAllowed := l.keyAllowed || !l.inFlow }

/-- A token that begins or ends a document. -/
def documentMark (l : Layout) (t : Token) : Except SyntaxError Layout := do
  let l ← (l.unindent (-1)).forgetKey
  return { l.take t 3 with keyAllowed := false }

/-- A directive. -/
def directive (l : Layout) : Except SyntaxError Layout := do
  let l ← (l.unindent (-1)).forgetKey
  let (t, r) ← readDirective l.rest
  return { l.push t with rest := r, keyAllowed := false }

/-- An opening bracket or brace. -/
def openFlow (l : Layout) (t : Token) : Except SyntaxError Layout := do
  let l ← l.noteKey
  return { l.take t 1 with flow := l.flow + 1, keyAllowed := true }

/-- A closing bracket or brace; one must be open. -/
def closeFlow (l : Layout) (t : Token) : Except SyntaxError Layout := do
  let l ← l.forgetKey
  require l.inFlow
  return { l.take t 1 with flow := l.flow - 1, keyAllowed := false }

/-- A comma. -/
def flowEntry (l : Layout) : Except SyntaxError Layout := do
  let l ← { l with keyAllowed := true }.forgetKey
  return l.take .flowEntry 1

/-- A hyphen before an entry. -/
def blockEntry (l : Layout) : Except SyntaxError Layout := do
  require (l.inFlow || l.keyAllowed)
  let l := if l.inFlow then l else l.enterHere .blockSequenceStart
  let l ← { l with keyAllowed := true }.forgetKey
  return l.take .blockEntry 1

/-- A question mark before a key. -/
def explicitKey (l : Layout) : Except SyntaxError Layout := do
  require (l.inFlow || l.keyAllowed)
  let l := if l.inFlow then l else l.enterHere .blockMappingStart
  let l ← { l with keyAllowed := !l.inFlow }.forgetKey
  return l.take .key 1

/-- A colon after something that may have been a key: now it is one. -/
def valueOf (l : Layout) (k : KeyPlace) : Layout :=
  let l := { l with keys := l.keys.filter (·.1 != l.flow), keyAllowed := false }
  let l := l.insert k.number .key
  let l :=
    if l.inFlow then l
    else match l.enter? k.spot.column with
      | some l => l.insert k.number .blockMappingStart
      | none => l
  l.take .value 1

/-- A colon. -/
def value (l : Layout) : Except SyntaxError Layout := do
  match l.keys.lookup l.flow with
  | some k => return l.valueOf k
  | none =>
    require (l.inFlow || l.keyAllowed)
    let l := if l.inFlow then l else l.enterHere .blockMappingStart
    let l ← { l with keyAllowed := !l.inFlow }.forgetKey
    return l.take .value 1

/-- A token that may begin a key, read by `read` from the next character on. -/
def node (l : Layout) (read : Rest → Except SyntaxError (Token × Rest)) :
    Except SyntaxError Layout := do
  let l ← l.noteKey
  let (t, r) ← read l.rest
  return { l.push t with rest := r, keyAllowed := false }

/-- A scalar in a block of its own. -/
def blockScalar (l : Layout) (isFolded : Bool) : Except SyntaxError Layout := do
  let l ← { l with keyAllowed := true }.forgetKey
  let (t, r) ← readBlock isFolded l.indent l.rest
  return { l.push t with rest := r }

/-- A scalar without quotes. -/
def plain (l : Layout) : Except SyntaxError Layout := do
  let l ← l.noteKey
  let (t, keyAllowed, r) := readPlain l.inFlow l.indent l.rest
  return { l.push t with rest := r, keyAllowed }

/-- An anchor or alias. -/
def readNamed (f : List Char → Token) (r : Rest) : Except SyntaxError (Token × Rest) := do
  let (name, r) ← readName (r.drop 1)
  return (f name, r)

/-- **The next token** and those that go with it, from its first character on. -/
def token (l : Layout) : Except SyntaxError Layout :=
  let r := l.rest
  let c := r.peek
  let atLineStart := l.spot.column == 0
  let gapFollows := isGapOrEnd (r.peekAt 1)
  if c == '%' && atLineStart then l.directive
  else if c == '-' && atLineStart && r.atDocumentMark then l.documentMark .documentStart
  else if c == '.' && atLineStart && r.atDocumentMark then l.documentMark .documentEnd
  else if c == '[' then l.openFlow .flowSequenceStart
  else if c == '\x7b' then l.openFlow .flowMappingStart
  else if c == ']' then l.closeFlow .flowSequenceEnd
  else if c == '\x7d' then l.closeFlow .flowMappingEnd
  else if c == ',' then l.flowEntry
  else if c == '-' && gapFollows then l.blockEntry
  else if c == '?' && (l.inFlow || gapFollows) then l.explicitKey
  else if c == ':' && (l.inFlow || gapFollows) then l.value
  else if c == '*' then l.node (readNamed .alias)
  else if c == '&' then l.node (readNamed .anchor)
  else if c == '!' then l.node readTag
  else if c == '|' && !l.inFlow then l.blockScalar false
  else if c == '>' && !l.inFlow then l.blockScalar true
  else if c == '\'' then l.node (readQuoted false)
  else if c == '"' then l.node (readQuoted true)
  else if startsPlain l.inFlow r then l.plain
  else .error .malformed

/-- Read on: up to the end of the document, if that is what comes next, or past the next token. -/
def step (l : Layout) : Except SyntaxError (Layout × Bool) := do
  let l ← (skipGap l.rest.length l).forgetStaleKeys
  let l := l.unindent l.spot.column
  if l.rest.peek == endMark then
    return (← (l.unindent (-1)).forgetKey, true)
  return (← l.token, false)

/-- How many tokens can be told before reading on: those before the first that may begin a key. -/
def settled (l : Layout) : Nat :=
  (l.keys.filter fun (_, k) => !l.isStale k).foldl (fun n (_, k) => min n k.number) l.tokens.size

/-- The tokens told so far, if reading on fails. -/
def brokenBy (l : Layout) (e : SyntaxError) : TokenStream :=
  ⟨l.tokens.toList.take l.settled, some e⟩

/-- Read tokens up to the end of the document, with room for `n` of them. -/
def readAll : Nat → Layout → TokenStream
  | 0, l => l.brokenBy .malformed
  | n + 1, l =>
    match l.step with
    | .error e => l.brokenBy e
    | .ok (l, true) => ⟨l.tokens.toList, none⟩
    | .ok (l, false) => readAll n l

end Layout

/-- **The tokens of a document.** Each takes at least one character. -/
def tokens (text : List Char) : TokenStream :=
  let spots := locate text
  let rest := if text.head? = some orderMark then spots.drop 1 else spots
  Layout.readAll spots.length { rest }

end LabelPress.Yaml
