import LabelPress.CommandLine.Arguments
import LabelPress.Config.App
import LabelPress.Config.Settings
import LabelPress.Font.Library
import LabelPress.Link.Basic

/-!
# Runs

What a run of the program does: it reads the configuration, follows its command, and tells how that
went. Failures that concern the user end the run with a message; all others leave it as they are.

* `Surroundings`: the files, the standard input and the other ends of connections.
* `run`: a run, with everything that can be seen of it.
* `Trouble.opening?`: which failures end in a message.
-/

namespace LabelPress.CommandLine

open Transmission
open Wire (Bytes)

/-- What surrounds a run. -/
structure Surroundings where
  /-- The files below the working directory. -/
  files : FileTree
  /-- The standard input, if it is text. -/
  input : Option (List Char)
  /-- The flaw that is found in the notation of bytes before those that are no text. -/
  flaw? : ByteArray → Option Yaml.SyntaxError := fun _ => none
  /-- Where the system keeps fonts. -/
  fontDirs : List Path := []
  /-- Where faces come from. -/
  faces : Typefaces
  /-- The link to the other end of a connection. -/
  link : Connection → Link

/-- What went wrong. -/
inductive Trouble where
  /-- The configuration. -/
  | config (e : ConfigError)
  /-- A part of the configuration file that has no value. -/
  | content (e : Yaml.ValueError)
  /-- What was read is no text. -/
  | notText
  /-- A file. -/
  | file (e : FileError) (path : Path)
  /-- The label cannot be rendered. -/
  | rendering (e : RenderError)
  /-- The label has no stream. -/
  | encoding (e : Wire.WireError)
  /-- The job. -/
  | job (e : Failure)
deriving Repr, DecidableEq

namespace Trouble

/-- The wording of a failure. -/
def message : Trouble → List Char
  | config e => e.message
  | content e => e.message
  | notText => "The bytes are no text".toList
  | file e path => (e.message path).toList
  | rendering e => e.message.toList
  | encoding e => e.message.toList
  | job e => e.message

/-- **How a message begins**, for the failures that end in one. -/
def opening? : Trouble → Option String
  | file .nullByte _ => none
  | config _ | file .. | job (.system _) => some "Error: "
  | job (.transport _) | job (.busy _) => some "Print failed: "
  | rendering e | job (.rendering e) => if e.isSize then some "Error: " else none
  | encoding e | job (.encoding e) => if e.isSize then some "Error: " else none
  | content _ | notText | job _ => none

end Trouble

/-- How a run ends, if it does. -/
inductive Ending where
  /-- With an exit code. -/
  | exit (code : Nat)
  /-- With a failure that nobody expected. -/
  | raised (t : Trouble)
  /-- It waits for ever. -/
  | endless
deriving Repr, DecidableEq

/-- What is in a file that a run makes. -/
inductive Content where
  /-- The preview of a label. -/
  | picture (label : RenderedLabel)
  /-- Bytes. -/
  | stream (bytes : Bytes)
deriving Repr, DecidableEq

/-- What can be seen of a run. -/
structure Outcome where
  /-- How it ends. -/
  ending : Ending
  /-- The standard output. -/
  output : List Char := []
  /-- The standard error. -/
  errors : List Char := []
  /-- The files that were made. -/
  made : List (Path × Content) := []
  /-- What happened at the link. -/
  events : List LinkEvent := []

/-! ## Labels -/

/-- Read a label file. -/
def readLabel (s : Surroundings) (source : Argument) : Except Trouble (List Char) :=
  if source = ['-'] then s.input.elim (.error .notText) .ok
  else
    let path := Path.ofText source
    match s.files.read path with
    | .error e => .error (.file e path)
    | .ok bytes =>
      match String.fromUTF8? bytes with
      | some text => .ok (Text.unifyNewlines text.toList)
      | none => .error .notText

/-- The size of a label: what is given wins over what its name says. -/
def LabelArguments.dimensions (a : LabelArguments) (c : AppConfig) :
    Except ConfigError LabelDimensions :=
  (c.label a.preset).map fun preset =>
    ⟨a.widthMm.getD preset.widthMm, a.heightMm.getD preset.heightMm⟩

/-- The fonts that a configuration leads to. -/
def fontsOf (s : Surroundings) (c : AppConfig) : FontSource :=
  FontLibrary.source { custom := c.fontPaths, system := s.fontDirs } s.faces s.files

/-- Render a label. -/
def renderLabel (s : Surroundings) (c : AppConfig) (a : LabelArguments) :
    Except Trouble RenderedLabel := do
  let file ← readLabel s a.source
  let size ← (a.dimensions c).mapError .config
  (render (fontsOf s c) file (.real size.widthMm) (.real size.heightMm)
    (c.dither && !a.noDither)).mapError .rendering

/-- The remarks on a label file, a line each. -/
def warnings (label : RenderedLabel) : List Char :=
  label.diagnostics.flatMap fun d => "Warning: ".toList ++ d.message.toList ++ ['\n']

/-! ## Commands -/

/-- How a run ends with a failure, and what is said before. -/
def Outcome.ofTrouble (t : Trouble) (said : List Char) (events : List LinkEvent) : Outcome :=
  match t.opening? with
  | some opening =>
    { ending := .exit 1, errors := said ++ opening.toList ++ t.message ++ ['\n'], events }
  | none => { ending := .raised t, errors := said, events }

/-- What is put into a file. -/
def contentOf (c : AppConfig) (label : RenderedLabel) : OutputFormat → Except Trouble Content
  | .picture => .ok (.picture label)
  | .stream =>
    let feed := (c.printer.map (·.feedMm)).getD Wire.defaultFeedMm
    ((Wire.encodeLabel label.bitmap label.width label.height (.real feed)).map .stream).mapError
      .encoding

/-- Put a label into a file. -/
def save (s : Surroundings) (c : AppConfig) (label : RenderedLabel) (output : Path)
    (format : OutputFormat) : Except Trouble (Path × Content) := do
  let content ← contentOf c label format
  (s.files.checkWritable output).mapError (.file · output)
  return (output, content)

/-- **Render a label into a file.** -/
def runRender (s : Surroundings) (c : AppConfig) (a : LabelArguments) (output : Path)
    (format : OutputFormat) : Outcome :=
  match renderLabel s c a with
  | .error t => .ofTrouble t [] []
  | .ok label =>
    match save s c label output format with
    | .error t => .ofTrouble t (warnings label) []
    | .ok file =>
      { ending := .exit 0
        output :=
          s!"Rendered {label.width}x{label.height} label to ".toList ++ output.text ++ ['\n']
        errors := warnings label
        made := [file] }

/-- A part of a whole in percent, as a whole number. -/
def percent (part : Float) : Int :=
  ((Binary64.ofFloat? (part * 100)).map Binary64.roundHalfEven).getD 0

/-- What is shown of a report of progress; the last one ends the line. -/
def progressText : LinkEvent → List Char
  | .reported (.copy index total part) =>
    let ended := index = total ∧ 1 ≤ part
    s!"\rPrinting {index}/{total}... {percent part}%".toList ++ (if ended then ['\n'] else [])
  | _ => []

/-- Do a job at a printer, after something was said. -/
def runJob (s : Surroundings) (p : PrinterConfig) (said : List Char) (job : Job Unit) : Outcome :=
  let (r, l) := (s.link p.connection).whileConnected (job.runOn Link.port)
  let said := said ++ l.events.flatMap progressText
  match r with
  | .ok () => { ending := .exit 0, errors := said, events := l.events }
  | .error .endless => { ending := .endless, errors := said, events := l.events }
  | .error e => .ofTrouble (.job e) said l.events

/-- **Do something at the printer**, if there is one. -/
def runAtPrinter (c : AppConfig) (command : PrinterConfig → Outcome) : Outcome :=
  match c.printer with
  | none => .ofTrouble (.config .noPrinter) [] []
  | some p => command p

/-- Print copies of a label. -/
def runPrint (s : Surroundings) (c : AppConfig) (a : LabelArguments) (copies : Int)
    (p : PrinterConfig) : Outcome :=
  match renderLabel s c a with
  | .error t => .ofTrouble t [] []
  | .ok label =>
    runJob s p (warnings label) (p.printer.printLabel label copies (some .copy))

/-- Follow a command. -/
def runCommand (s : Surroundings) (c : AppConfig) : Command → Outcome
  | .render a output format => runRender s c a output format
  | .print a copies => runAtPrinter c (runPrint s c a copies)
  | .feed mm => runAtPrinter c fun p => runJob s p [] (p.printer.feedPaper (.real mm))
  | .test => runAtPrinter c fun p => runJob s p [] p.printer.printTest

/-- **A run.** Of the failures to read the configuration, only those that concern what it says end
in a message. -/
def run (s : Surroundings) (settings : Settings) (arguments : List Argument) : Outcome :=
  match Arguments.parse arguments with
  | .error r@(.help _) => { ending := .exit 0, output := r.text }
  | .error r@(.usage ..) => { ending := .exit 2, errors := r.text }
  | .ok a =>
    let file := a.config.getD settings.configFile
    match AppConfig.load s.flaw? s.files file with
    | .ok c => runCommand s c a.command
    | .error (.config e) => .ofTrouble (.config e) [] []
    | .error .notText => { ending := .raised .notText }
    | .error (.content e) => { ending := .raised (.content e) }
    | .error (.file e) => { ending := .raised (.file e file) }

/-- A size that is given on both sides is the size, whatever the configuration says. -/
theorem dimensions_of_given (a : LabelArguments) (c : AppConfig) {w h : Float}
    (hw : a.widthMm = some w) (hh : a.heightMm = some h) {size : LabelDimensions}
    (hs : a.dimensions c = .ok size) : size = ⟨w, h⟩ := by
  unfold LabelArguments.dimensions at hs
  cases hl : c.label a.preset with
  | error e => simp [hl, Except.map] at hs
  | ok preset =>
    simp only [hl, Except.map, hw, hh, Option.getD_some, Except.ok.injEq] at hs
    exact hs.symm

end LabelPress.CommandLine
