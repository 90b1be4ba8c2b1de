import LabelPress.Config.Printer
import LabelPress.Files.Tree
import LabelPress.Text.Newline
import LabelPress.Yaml.Document

/-!
# The configuration of the application

What a configuration file may say: the printer, whether to dither, label sizes with names, and where
fonts lie. A file that is not there, or says nothing, leaves everything at its default.

* `AppConfig`: the configuration, with `AppConfig.label` for a size by its name.
* `AppConfig.ofBytes`, `AppConfig.load`: the configuration that a file holds.
* `AppConfig.label_some`: a name leads to its size exactly if there is one of that name.
-/

namespace LabelPress

open Yaml (Value Document)
open Config

/-- The size of a label in millimetres. -/
structure LabelDimensions where
  /-- The width. -/
  widthMm : Float
  /-- The height. -/
  heightMm : Float
deriving Repr

/-- The sizes that have names from the start. -/
def defaultPresets : List (List Char × LabelDimensions) :=
  [("40x30".toList, ⟨40, 30⟩), ("30x15".toList, ⟨30, 15⟩), ("40x20".toList, ⟨40, 20⟩)]

/-- The configuration. -/
structure AppConfig where
  /-- The printer, if there is one. -/
  printer : Option PrinterConfig := none
  /-- Are labels dithered? -/
  dither : Bool := true
  /-- The sizes that have names. -/
  presets : List (List Char × LabelDimensions) := defaultPresets
  /-- The name of the size that is taken if none is given. -/
  defaultLabel : List Char := "40x30".toList
  /-- Where fonts lie, besides the usual places. -/
  fontPaths : List Path := []
deriving Repr

/-- What is wrong with a configuration. -/
inductive ConfigError where
  /-- The file breaks the rules of its notation. -/
  | malformed (file : Path)
  /-- The file holds something else than a mapping. -/
  | notMapping (file : Path)
  /-- The mapping holds something that is not understood. -/
  | invalid (file : Path) (issues : List Issue)
  /-- There is no size of a name. -/
  | unknownLabel (name : List Char) (available : List (List Char))
  /-- There is no printer. -/
  | noPrinter
deriving Repr, DecidableEq

/-- The wording of a failure. -/
def ConfigError.message : ConfigError → List Char
  | malformed file => "Invalid YAML in ".toList ++ file.text
  | notMapping file => "Config file ".toList ++ file.text ++ " must contain a mapping".toList
  | invalid file _ => "Invalid configuration in ".toList ++ file.text
  | unknownLabel name available =>
    let names := if available.isEmpty then "none".toList else ", ".toList.intercalate available
    "Unknown label preset '".toList ++ name ++ "' (available: ".toList ++ names ++ [')']
  | noPrinter => "No printer configured".toList

/-- Why the bytes of a file have no document. -/
inductive NoDocument where
  /-- They are no text. -/
  | notText
  /-- A part of their text has no value, or it breaks a rule of the notation. -/
  | noValue (e : Yaml.ValueError)
deriving Repr, DecidableEq

/-- Why there is no configuration. -/
inductive LoadError where
  /-- The file says something wrong. -/
  | config (e : ConfigError)
  /-- The bytes of the file are no text. -/
  | notText
  /-- A part of the file has no value. -/
  | content (e : Yaml.ValueError)
  /-- The file cannot be opened. -/
  | file (e : FileError)
deriving Repr, DecidableEq

/-- The failure to load a file whose bytes have no document. -/
def LoadError.ofNoDocument (file : Path) : NoDocument → LoadError
  | .notText => .notText
  | .noValue .malformed => .config (.malformed file)
  | .noValue e => .content e

/-- The size that a value tells. -/
def LabelDimensions.read (d : Document) (v : Value) : Verdict LabelDimensions :=
  (fields d v).andThen fun m =>
    LabelDimensions.mk <$> required "width_mm" real m <*> required "height_mm" real m

namespace AppConfig

/-- A value that may say nothing. -/
def orNothing {α : Type} (read : Value → Verdict α) : Value → Verdict (Option α)
  | .null => .accepted none
  | v => some <$> read v

/-- The configuration that fields tell. -/
def ofFields (d : Document) (m : Fields) : Verdict AppConfig :=
  AppConfig.mk <$> optional "printer" none (orNothing (PrinterConfig.read d)) m <*>
    optional "dither" true truth m <*>
    optional "label_presets" defaultPresets (tableOf d (LabelDimensions.read d)) m <*>
    optional "default_label" "40x30".toList text m <*>
    optional "font_paths" [] (listOf d path) m

/-- Is a field left out, or does its value say nothing? -/
def isUnsaid (name : String) (m : Fields) : Bool := (valueOf? name m).all (· matches .null)

/-- Leave out the sizes if they say nothing. -/
def dropNullPresets (m : Fields) : Fields :=
  if isUnsaid "label_presets" m then
    m.filter fun (k, _) => !k.sameKey (.text "label_presets".toList)
  else m

/-- The document with fields for its value, in which the sizes are left out if they say nothing, and
the font paths are an empty list if they do. -/
def settle (d : Document) (m : Fields) : Document :=
  let m := dropNullPresets m
  if isUnsaid "font_paths" m then
    let none := Value.collection d.collections.size
    { d with collections := d.collections.push (.sequence []) }.replace d.root
      (.mapping (Value.insert (.text "font_paths".toList) none m))
  else d.replace d.root (.mapping m)

/-- Does a document say nothing? Zero, false and whatever is empty count as nothing. -/
def isNothing (d : Document) : Bool :=
  match d.root with
  | .null => true
  | .bool b => !b
  | .int n => n == 0
  | .real x _ => x == 0
  | .text s => s.isEmpty
  | .bytes bs => bs.isEmpty
  | v => match d.collection? v with
    | some (.sequence xs) | some (.set xs) => xs.isEmpty
    | some (.mapping m) => m.isEmpty
    | none => false

/-- **The configuration that a document tells.** -/
def ofDocument (file : Path) (d : Document) : Except ConfigError AppConfig :=
  if isNothing d then .ok {}
  else match d.collection? d.root with
    | some (.mapping m) =>
      let d := settle d m
      match (fields d d.root).andThen (ofFields d) with
      | .accepted c => .ok c
      | .rejected issues => .error (.invalid file issues)
    | _ => .error (.notMapping file)

section Bytes
variable (flaw? : ByteArray → Option Yaml.SyntaxError)

/-- The document of the bytes of a file. A file is decoded in portions, so a flaw may be found in
its text before its bytes are met that are no text; `flaw?` tells which one, if one is. -/
def documentOf (bytes : ByteArray) : Except NoDocument Document :=
  match String.fromUTF8? bytes with
  | some text => (Yaml.document? (Text.unifyNewlines text.toList)).mapError .noValue
  | none => .error ((flaw? bytes).elim .notText fun e => .noValue (.ofSyntax e))

/-- **The configuration that the bytes of a file tell.** -/
def ofBytes (file : Path) (bytes : ByteArray) : Except LoadError AppConfig :=
  match documentOf flaw? bytes with
  | .ok d => (ofDocument file d).mapError .config
  | .error e => .error (.ofNoDocument file e)

/-- **The configuration in a file**; if there is none, the default. -/
def load (files : FileTree) (file : Path) : Except LoadError AppConfig :=
  match files.look file with
  | .error e => .error (.file e)
  | .ok none => .ok {}
  | .ok (some _) =>
    match files.read file with
    | .ok bytes => ofBytes flaw? file bytes
    | .error e => .error (.file e)

end Bytes

/-- The names of the sizes, in order. -/
def presetNames (c : AppConfig) : List (List Char) :=
  (c.presets.map (·.1)).mergeSort fun a b => decide (String.ofList a ≤ String.ofList b)

/-- **The size of a name**; no name, or an empty one, stands for the default. -/
def label (c : AppConfig) (name : Option (List Char)) : Except ConfigError LabelDimensions :=
  let key := match name with
    | some (x :: s) => x :: s
    | _ => c.defaultLabel
  match c.presets.lookup key with
  | some size => .ok size
  | none => .error (.unknownLabel key c.presetNames)

/-- A name leads to its size, if there is one of that name. -/
theorem label_some {c : AppConfig} {name : List Char} (h : name ≠ []) {size : LabelDimensions} :
    c.label (some name) = .ok size ↔ c.presets.lookup name = some size := by
  obtain ⟨x, s, rfl⟩ := List.exists_cons_of_ne_nil h
  simp only [label]
  cases c.presets.lookup (x :: s) <;> simp

end AppConfig

end LabelPress
