import LabelPress.Text.Digit
import LabelPress.Text.Quoted

/-!
# Grammars of command lines

A command line is a list of arguments: options, with or without a value, and operands. An option has
a short name with one dash or a long one with two; a long name may be cut short, a value may follow
its option or be attached to it, and after two dashes alone everything is an operand.

* `OptionSpec`: the options of a grammar; `readings?` says what an argument may mean.
* `Grammar.scan`: what a command line says, handed over piece by piece.
* `UsageError`: what may be wrong with it.
-/

namespace LabelPress.CommandLine

/-- An argument. -/
abbrev Argument := List Char

/-- An option. -/
structure OptionSpec (κ : Type) where
  /-- What it is about. -/
  key : κ
  /-- Its names, with their dashes. -/
  names : List Argument
  /-- Does it take a value? -/
  takesValue : Bool
deriving Repr

/-- How an option or an operand is called in messages. -/
def calledAs (names : List Argument) : Argument := ['/'].intercalate names

/-- What is wrong with a command line. -/
inductive UsageError where
  /-- An option is cut too short. -/
  | ambiguous (given : Argument) (names : List Argument)
  /-- The value of an option is not there. -/
  | noValue (called : Argument)
  /-- A value is attached to an option that takes none. -/
  | needlessValue (called : Argument) (value : Argument)
  /-- A value is not of its kind. -/
  | invalidValue (called : Argument) (kind : String) (value : Argument)
  /-- A value is none of the choices. -/
  | invalidChoice (called : Argument) (value : Argument) (choices : List Argument)
  /-- An operand is not there. -/
  | missing (called : Argument)
  /-- There is more than is understood. -/
  | unrecognized (arguments : List Argument)
deriving Repr, DecidableEq

/-- The wording of a failure. -/
def UsageError.message : UsageError → List Char
  | ambiguous given names =>
    "ambiguous option: ".toList ++ given ++ " could match ".toList ++ ", ".toList.intercalate names
  | noValue called => "argument ".toList ++ called ++ ": expected one argument".toList
  | needlessValue called value =>
    "argument ".toList ++ called ++ ": ignored explicit argument ".toList ++ Text.quoted value
  | invalidValue called kind value =>
    "argument ".toList ++ called ++ s!": invalid {kind} value: ".toList ++ Text.quoted value
  | invalidChoice called value choices =>
    "argument ".toList ++ called ++ ": invalid choice: ".toList ++ Text.quoted value ++
      " (choose from ".toList ++ ", ".toList.intercalate (choices.map Text.quoted) ++ [')']
  | missing called => "the following arguments are required: ".toList ++ called
  | unrecognized arguments =>
    "unrecognized arguments: ".toList ++ [' '].intercalate arguments

/-! ## What an argument may mean -/

/-- An option that an argument may mean. -/
structure Reading (κ : Type) where
  /-- The option. -/
  spec : OptionSpec κ
  /-- The name that it is meant by. -/
  name : Argument
  /-- What is attached. -/
  attached : Option Argument
deriving Repr

/-- Options with each of their names. -/
def named {κ : Type} (options : List (OptionSpec κ)) : List (Argument × OptionSpec κ) :=
  options.flatMap fun o => o.names.map (·, o)

/-- An argument before its first equals sign and what follows the sign, if there is one. -/
def splitEquals (a : Argument) : Argument × Option Argument :=
  (a.takeWhile (· != '='), match a.dropWhile (· != '=') with
    | _ :: text => some text
    | [] => none)

/-- Is the argument a negative number: a minus, digits, and maybe a point with digits after it? -/
def isNegativeNumber (a : Argument) : Bool :=
  match (if a.getLast? = some '\n' then a.dropLast else a) with
  | '-' :: s =>
    let digits := s.takeWhile Text.isDigit
    match s.dropWhile Text.isDigit with
    | [] => !digits.isEmpty
    | '.' :: fraction => !fraction.isEmpty && fraction.all Text.isDigit
    | _ => false
  | _ => false

/-- The options whose long names an argument cuts short, or to whose short name a text is
attached. -/
def candidates {κ : Type} (options : List (OptionSpec κ)) (a : Argument) : List (Reading κ) :=
  if a[1]? = some '-' then
    let (head, tail) := splitEquals a
    (named options).filterMap fun (name, spec) =>
      if head.isPrefixOf name then some ⟨spec, name, tail⟩ else none
  else
    (named options).filterMap fun (name, spec) =>
      if name = a.take 2 then some ⟨spec, name, some (a.drop 2)⟩ else none

/-- **What an argument may mean as an option**: nothing if it is an operand, and no option at all if
it only looks like one. -/
def readings? {κ : Type} (options : List (OptionSpec κ)) (a : Argument) :
    Option (List (Reading κ)) :=
  match a with
  | '-' :: _ :: _ =>
    let (head, tail) := splitEquals a
    match (named options).lookup a, tail, (named options).lookup head with
    | some spec, _, _ => some [⟨spec, a, none⟩]
    | none, some text, some spec => some [⟨spec, head, some text⟩]
    | _, _, _ =>
      match candidates options a with
      | [] => if isNegativeNumber a || a.contains ' ' then none else some []
      | rs => some rs
  | _ => none

/-- An argument's part in a command line. -/
inductive Word (κ : Type) where
  /-- Two dashes alone, the first time. -/
  | separator
  /-- An operand, or the value of an option. -/
  | plain
  /-- An option; one that is not known has no reading. -/
  | option (reading : Option (Reading κ))

/-- The part of an argument that is no separator; it may not mean several options. -/
def wordOf {κ : Type} (options : List (OptionSpec κ)) (a : Argument) : Except UsageError (Word κ) :=
  match readings? options a with
  | none => .ok .plain
  | some [] => .ok (.option none)
  | some [r] => .ok (.option (some r))
  | some rs => .error (.ambiguous a (rs.map (·.name)))

/-- The arguments with their parts. -/
def words {κ : Type} (options : List (OptionSpec κ)) :
    List Argument → Except UsageError (List (Argument × Word κ))
  | [] => .ok []
  | a :: as =>
    if a = ['-', '-'] then .ok ((a, .separator) :: as.map (·, .plain))
    else do
      let word ← wordOf options a
      return (a, word) :: (← words options as)

/-! ## What a command line says -/

/-- A piece of what a command line says. -/
inductive Piece (κ : Type) where
  /-- An option without a value. -/
  | flag (key : κ)
  /-- An option with its value. -/
  | value (key : κ) (text : Argument)
  /-- The operand. -/
  | operand (arguments : List Argument)

/-- The operand of a grammar. -/
inductive Operand where
  /-- There is none. -/
  | none
  /-- One argument. -/
  | one (name : String)
  /-- A word and everything after it. -/
  | rest (name : String)
deriving Repr, DecidableEq

/-- The operand at the head of a command line, and what follows. Two dashes around one argument are
not part of it; in front of a word they are. -/
def Operand.split? {κ : Type} (o : Operand) (ws : List (Argument × Word κ)) :
    Option (List Argument × List (Argument × Word κ)) :=
  match o, ws with
  | .one _, (_, .separator) :: (a, .plain) :: ws => some ([a], ws)
  | .one _, (a, .plain) :: (_, .separator) :: ws => some ([a], ws)
  | .one _, (a, .plain) :: ws => some ([a], ws)
  | .rest _, (dashes, .separator) :: (a, .plain) :: ws => some (dashes :: a :: ws.map (·.1), [])
  | .rest _, (a, .plain) :: ws => some (a :: ws.map (·.1), [])
  | _, _ => Option.none

/-- The pieces that an option with what is attached to it makes, and the words after its value.
Short options may be run together, as long as those before the last one take no value. -/
def pieces {κ : Type} (options : List (OptionSpec κ)) (spec : OptionSpec κ) (name : Argument)
    (attached : Option Argument) (ws : List (Argument × Word κ)) :
    Except UsageError (List (Piece κ) × List (Argument × Word κ)) :=
  match attached with
  | none =>
    if !spec.takesValue then .ok ([.flag spec.key], ws)
    else match ws with
      | (a, .plain) :: ws => .ok ([.value spec.key a], ws)
      | _ => .error (.noValue (calledAs spec.names))
  | some text =>
    if spec.takesValue then .ok ([.value spec.key text], ws)
    else
      let needless := UsageError.needlessValue (calledAs spec.names) text
      match text with
      | [] => .error needless
      | c :: more =>
        match if name[1]? = some '-' then none else (named options).lookup ['-', c] with
        | none => .error needless
        | some next => do
          let rest := if more = [] then none else some more
          let (ps, ws) ← pieces options next ['-', c] rest ws
          return (.flag spec.key :: ps, ws)
termination_by (attached.map List.length).getD 0
decreasing_by
  simp only [Option.map_some, Option.getD_some, List.length_cons]
  split <;> grind

/-- What an option says; one that is not known says nothing. -/
def optionPieces {κ : Type} (options : List (OptionSpec κ)) (reading : Option (Reading κ))
    (ws : List (Argument × Word κ)) :
    Except UsageError (List (Piece κ) × List (Argument × Word κ)) :=
  match reading with
  | none => .ok ([], ws)
  | some r => pieces options r.spec r.name r.attached ws

/-- A grammar: what is understood, and what becomes of it. -/
structure Grammar (κ σ ε : Type) where
  /-- The options. -/
  options : List (OptionSpec κ)
  /-- The operand. -/
  operand : Operand
  /-- Take a piece in. -/
  take : σ → Piece κ → Except ε σ
  /-- A failure of the grammar. -/
  fail : UsageError → ε

/-- Where a scan stands. -/
structure Scan (σ : Type) where
  /-- What was taken in. -/
  state : σ
  /-- Was the operand taken in? -/
  hasOperand : Bool := false
  /-- What was not understood. -/
  extras : List Argument := []

namespace Grammar

variable {κ σ ε : Type}

/-- Scan words, at most `fuel` of them. -/
def scanWords (g : Grammar κ σ ε) :
    Nat → List (Argument × Word κ) → Scan σ → Except ε (Scan σ)
  | 0, _, s | _, [], s => .ok s
  | fuel + 1, (a, .option reading) :: ws, s => do
    let (ps, ws) ← (optionPieces g.options reading ws).mapError g.fail
    let state ← ps.foldlM g.take s.state
    let unknown := if reading.isNone then [a] else []
    g.scanWords fuel ws { s with state, extras := s.extras ++ unknown }
  | fuel + 1, (a, word) :: ws, s =>
    match if s.hasOperand then none else g.operand.split? ((a, word) :: ws) with
    | some (texts, ws) => do
      let state ← g.take s.state (.operand texts)
      g.scanWords fuel ws { s with state, hasOperand := true }
    | none => g.scanWords fuel ws { s with extras := s.extras ++ [a] }

/-- **Scan a command line**: the state at its end, and what was not understood. -/
def scan (g : Grammar κ σ ε) (arguments : List Argument) (start : σ) :
    Except ε (σ × List Argument) := do
  let ws ← (words g.options arguments).mapError g.fail
  let s ← g.scanWords ws.length ws { state := start }
  let missing (name : String) := g.fail (.missing name.toList)
  match g.operand with
  | .none => return (s.state, s.extras)
  | .one name | .rest name =>
    if s.hasOperand then return (s.state, s.extras) else throw (missing name)

end Grammar

end LabelPress.CommandLine
