import LabelPress.CommandLine.Grammar
import LabelPress.Files.Path
import LabelPress.Text.Numeral

/-!
# The command line

Four commands: render a label into a file, print it, feed paper, and print a test pattern. In front
of the command stand the options that all of them share.

* `Arguments`: what a command line says.
* `Arguments.parse`: the reading of a command line, or why it has none.
-/

namespace LabelPress.CommandLine

/-- What an option is about. -/
inductive Setting where
  /-- Help. -/
  | help
  /-- The configuration file. -/
  | config
  /-- Tell more than usual. -/
  | debug
  /-- The name of a label size. -/
  | label
  /-- The width of a label. -/
  | width
  /-- The height of a label. -/
  | height
  /-- Do not dither. -/
  | noDither
  /-- The file to make. -/
  | output
  /-- What to put into the file. -/
  | format
  /-- The number of copies. -/
  | copies
  /-- How far to feed. -/
  | distance
deriving Repr, DecidableEq

/-- What is put into a file. -/
inductive OutputFormat where
  /-- A picture of what would be printed. -/
  | picture
  /-- What would go over the wire. -/
  | stream
deriving Repr, DecidableEq

/-- The words for what is put into a file. -/
def OutputFormat.words : List (Argument × OutputFormat) :=
  [("png".toList, picture), ("bin".toList, stream)]

/-- Which label is meant, and how it is rendered. -/
structure LabelArguments where
  /-- The label file; a dash stands for the standard input. -/
  source : Argument
  /-- The name of its size. -/
  preset : Option Argument
  /-- Its width in millimetres, over that of the name. -/
  widthMm : Option Float
  /-- Its height in millimetres, over that of the name. -/
  heightMm : Option Float
  /-- Is it not dithered? -/
  noDither : Bool
deriving Repr

/-- A command. -/
inductive Command where
  /-- Render a label into a file. -/
  | render (label : LabelArguments) (output : Path) (format : OutputFormat)
  /-- Print copies of a label. -/
  | print (label : LabelArguments) (copies : Int)
  /-- Feed paper. -/
  | feed (mm : Float)
  /-- Print the test pattern. -/
  | test
deriving Repr

/-- What a command line says. -/
structure Arguments where
  /-- The configuration file. -/
  config : Option Path
  /-- Is more told than usual? -/
  debug : Bool
  /-- The command. -/
  command : Command
deriving Repr

/-- Why a command line is not followed. -/
inductive Refusal where
  /-- It asks for help, with a command or without. -/
  | help (command : Option String)
  /-- Something is wrong with it, in the part of a command or outside. -/
  | usage (command : Option String) (e : UsageError)
deriving Repr, DecidableEq

/-- The name of the program. -/
def programName : String := "thermalabel"

/-- The name of the program with a command. -/
def nameWith (command : Option String) : String :=
  match command with
  | none => programName
  | some c => programName ++ " " ++ c

/-- What is said to a command line that is not followed. -/
def Refusal.text : Refusal → List Char
  | help command =>
    s!"usage: {nameWith command} [options]\n\nRender labels and print them.\n".toList
  | usage command e => s!"{nameWith command}: error: ".toList ++ e.message ++ ['\n']

/-! ## The options of the commands -/

/-- The option for help. -/
def helpOption : OptionSpec Setting := ⟨.help, ["-h".toList, "--help".toList], false⟩

/-- The options in front of a command. -/
def sharedOptions : List (OptionSpec Setting) :=
  [helpOption, ⟨.config, ["-c".toList, "--config".toList], true⟩,
    ⟨.debug, ["--debug".toList], false⟩]

/-- The options that say which label is meant. -/
def labelOptions : List (OptionSpec Setting) :=
  [⟨.label, ["--label".toList], true⟩, ⟨.width, ["--width-mm".toList], true⟩,
    ⟨.height, ["--height-mm".toList], true⟩, ⟨.noDither, ["--no-dither".toList], false⟩]

/-- The options of a command. -/
def optionsOf (command : String) : List (OptionSpec Setting) :=
  helpOption :: match command with
    | "render" => labelOptions ++ [⟨.output, ["-o".toList, "--output".toList], true⟩,
        ⟨.format, ["--format".toList], true⟩]
    | "print" => labelOptions ++ [⟨.copies, ["-n".toList, "--copies".toList], true⟩]
    | "feed" => [⟨.distance, ["--mm".toList], true⟩]
    | _ => []

/-- The operand of a command. -/
def operandOf (command : String) : Operand :=
  if command = "render" ∨ command = "print" then .one "zpl" else .none

/-- The names of the commands. -/
def commandNames : List String := ["render", "print", "feed", "test"]

/-! ## Reading -/

/-- What was read so far. -/
structure Draft where
  /-- The configuration file. -/
  config : Option Path := none
  /-- Is more told than usual? -/
  debug : Bool := false
  /-- The label. -/
  label : LabelArguments := ⟨[], none, none, none, false⟩
  /-- The file to make. -/
  output : Path := .ofText "preview.png".toList
  /-- What to put into it. -/
  format : OutputFormat := .picture
  /-- The number of copies. -/
  copies : Int := 1
  /-- How far to feed. -/
  distance : Float := 5
  /-- The command. -/
  command : String := ""
  /-- What its part did not understand. -/
  extras : List Argument := []

/-- How an option of a list is called in messages. -/
def calledIn (options : List (OptionSpec Setting)) (key : Setting) : Argument :=
  ((options.find? fun o => o.key == key).map fun o => calledAs o.names).getD []

/-- A number given to an option. -/
def realValue (called : Argument) (text : Argument) : Except UsageError Float :=
  match Text.float? text with
  | some x => .ok x
  | none => .error (.invalidValue called "float" text)

/-- A whole number given to an option. -/
def intValue (called : Argument) (text : Argument) : Except UsageError Int :=
  match Text.int? text with
  | some n => .ok n
  | none => .error (.invalidValue called "int" text)

/-- The choice that a text makes. -/
def formatValue (called : Argument) (text : Argument) : Except UsageError OutputFormat :=
  match OutputFormat.words.lookup text with
  | some f => .ok f
  | none => .error (.invalidChoice called text (OutputFormat.words.map (·.1)))

namespace Draft

/-- Take in the value of an option. -/
def setValue (d : Draft) (called : Argument) (key : Setting) (text : Argument) :
    Except UsageError Draft :=
  match key with
  | .config => .ok { d with config := some (.ofText text) }
  | .label => .ok { d with label.preset := some text }
  | .width => (realValue called text).map fun x => { d with label.widthMm := some x }
  | .height => (realValue called text).map fun x => { d with label.heightMm := some x }
  | .output => .ok { d with output := .ofText text }
  | .format => (formatValue called text).map fun f => { d with format := f }
  | .copies => (intValue called text).map fun n => { d with copies := n }
  | .distance => (realValue called text).map fun x => { d with distance := x }
  | .help | .debug | .noDither => .ok d

/-- Take in an option without a value. -/
def setFlag (d : Draft) (key : Setting) : Draft :=
  match key with
  | .debug => { d with debug := true }
  | .noDither => { d with label.noDither := true }
  | _ => d

/-- Take in a piece of a command's part. -/
def takeInCommand (command : String) (d : Draft) : Piece Setting → Except Refusal Draft
  | .flag .help => .error (.help (some command))
  | .flag key => .ok (d.setFlag key)
  | .value key text =>
    (d.setValue (calledIn (optionsOf command) key) key text).mapError (.usage (some command))
  | .operand texts => .ok { d with label.source := texts.headD [] }

/-- The grammar of a command's part. -/
def commandGrammar (command : String) : Grammar Setting Draft Refusal where
  options := optionsOf command
  operand := operandOf command
  take := takeInCommand command
  fail := .usage (some command)

/-- Take in a command with its part. -/
def setCommand (d : Draft) : List Argument → Except Refusal Draft
  | [] => .ok d
  | name :: part =>
    let command := String.ofList name
    if command ∈ commandNames then do
      let (d, extras) ← (commandGrammar command).scan part d
      return { d with command, extras }
    else .error (.usage none (.invalidChoice "command".toList name
      (commandNames.map String.toList)))

/-- Take in a piece of what all commands share. -/
def takeShared (d : Draft) : Piece Setting → Except Refusal Draft
  | .flag .help => .error (.help none)
  | .flag key => .ok (d.setFlag key)
  | .value key text => (d.setValue (calledIn sharedOptions key) key text).mapError (.usage none)
  | .operand texts => d.setCommand texts

/-- The grammar of the whole. -/
def sharedGrammar : Grammar Setting Draft Refusal where
  options := sharedOptions
  operand := .rest "command"
  take := takeShared
  fail := .usage none

/-- The command that was read. -/
def toCommand (d : Draft) : Command :=
  match d.command with
  | "render" => .render d.label d.output d.format
  | "print" => .print d.label d.copies
  | "feed" => .feed d.distance
  | _ => .test

end Draft

/-- **The reading of a command line**, or why it is not followed. -/
def Arguments.parse (arguments : List Argument) : Except Refusal Arguments := do
  let (d, extras) ← Draft.sharedGrammar.scan arguments {}
  match extras ++ d.extras with
  | [] => return ⟨d.config, d.debug, d.toCommand⟩
  | unknown => throw (.usage none (.unrecognized unknown))

end LabelPress.CommandLine
