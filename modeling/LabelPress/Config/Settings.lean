import LabelPress.Config.Assignment
import LabelPress.Config.Reading
import LabelPress.Text.Newline

/-!
# Settings

What the surroundings of a run may say before any configuration is read: where the configuration
file lies, and whether to tell more than usual. The surroundings' own variables win over a file of
assignments; the case of a name does not count.

* `Settings.read`: the settings.
-/

namespace LabelPress

open Config

/-- The settings of a run. -/
structure Settings where
  /-- The configuration file. -/
  configFile : Path := .ofText "config.yaml".toList
  /-- Is more told than usual? -/
  debug : Bool := false
deriving Repr

namespace Settings

/-- The value of a setting, the last one if its name is written in several ways. -/
def valueOf? (name : String) (given : Bindings) : Option (List Char) :=
  let wanted := ("thermalabel_" ++ name).toList
  (given.reverse.find? fun (n, _) => Text.asciiLower n = wanted).bind (·.2)

/-- A setting as a field, if it has a value. -/
def field? (name : String) (given assigned : Bindings) : Fields :=
  match valueOf? name given <|> valueOf? name assigned with
  | some value => [(.text name.toList, .text value)]
  | none => []

/-- **The settings** that variables and a file of assignments make. -/
def read (given : List (List Char × List Char)) (file : List Char) : Verdict Settings :=
  let assigned := resolve given (assignments (Text.unifyNewlines file))
  let given : Bindings := given.map fun (n, v) => (n, some v)
  let m := field? "config_file" given assigned ++ field? "debug" given assigned
  Settings.mk <$> optional "config_file" (.ofText "config.yaml".toList) path m <*>
    optional "debug" false truth m

end Settings

end LabelPress
