import LabelPress.CommandLine.Run
import LabelPress.Label.Png

/-!
# The program

The outer layer: it looks at the files that a run may read, lets the run be worked out, and carries
out what came of it. A serial device is written like a file; there is no way to other printers here,
so these do not answer. There are no faces here either: letters are blocks.

* `main`: the program.
-/

namespace LabelPress.CommandLine

/-- The variables that hold settings. -/
def variableNames : List String := ["THERMALABEL_CONFIG_FILE", "THERMALABEL_DEBUG"]

/-- Look at a path: what cannot be read but is there counts as a directory. -/
def lookAt (files : FileTree) (path : Path) : IO FileTree := do
  try
    return files.put path.names (← IO.FS.readBinFile (String.ofList path.text))
  catch
    | .noFileOrDirectory .. | .noSuchThing .. => return files
    | _ => return files.putDir path.names

/-- Look at paths, and at the directories above them. -/
def lookAtAll (files : FileTree) (paths : List Path) : IO FileTree := do
  let parents := paths.flatMap fun p => (FileTree.parents p.names).map (⟨p.root, ·⟩)
  (parents ++ paths).eraseDups.foldlM lookAt files

/-- The settings that the surroundings make; what they cannot mean is left out. -/
def settingsHere : IO Settings := do
  let given ← variableNames.filterMapM fun name => do
    return (← IO.getEnv name).map fun value => (name.toList, value.toList)
  let files ← lookAt .empty (.ofText ".env".toList)
  let assigned := (files.bytes? [".env".toList]).bind String.fromUTF8?
  match Settings.read given ((assigned.map String.toList).getD []) with
  | .accepted settings => return settings
  | .rejected _ => return {}

/-- The paths that a command names. -/
def Command.paths : Command → List Path
  | .render a output _ => [.ofText a.source, output]
  | .print a _ => [.ofText a.source]
  | .feed _ | .test => []

/-- Does a device open for writing? It has to be there. -/
def isWritable (device : List Char) : IO Bool := do
  try
    let _ ← IO.FS.Handle.mk (String.ofList device) .readWrite
    return true
  catch _ => return false

/-- The link to a printer: a device that opens takes every block. -/
def linkTo (deviceOpens : Bool) (target : Connection) : Link :=
  let opens := match target with
    | .serial _ => deviceOpens
    | .tcp _ | .bluetooth _ => false
  { target, openings := if opens then [] else [.refused] }

/-- The standard input to its end. -/
partial def readInput (input : IO.FS.Stream) (read : ByteArray) : IO ByteArray := do
  let bytes ← input.read 4096
  if bytes.isEmpty then return read else readInput input (read ++ bytes)

/-- What surrounds a run here, and the device that the printer is at, if it opens. -/
def surroundingsHere (settings : Settings) (a : Arguments) :
    IO (Surroundings × Option (List Char)) := do
  let configFile := a.config.getD settings.configFile
  let files ← lookAtAll .empty (configFile :: a.command.paths)
  let config := (AppConfig.load (fun _ => none) files configFile).toOption
  let fontPaths := (config.map (·.fontPaths)).getD []
  let files ← lookAtAll files
    (fontPaths ++ fontPaths.flatMap (FontLibrary.filesIn defaultFace))
  let printer := config.bind AppConfig.printer
  let device ← match a.command, printer.map PrinterConfig.connection with
    | .render .., _ => pure none
    | _, some (.serial c) => pure (if ← isWritable c.device then some c.device else none)
    | _, _ => pure none
  let input ← if a.command.paths.contains (.ofText ['-']) then readInput (← IO.getStdin) .empty
    else pure .empty
  let input := (String.fromUTF8? input).map fun text => Text.unifyNewlines text.toList
  let home := Path.ofText ((← IO.getEnv "HOME").getD "").toList
  let link := linkTo device.isSome
  return ({ files, input, fontDirs := systemFontDirs home, faces := .blocks, link }, device)

/-- Carry out what happened at the link to a device. -/
def carryOutAt (device : IO.FS.Handle) : LinkEvent → IO Unit
  | .written block .stream .taken => device.write ⟨block.toArray⟩
  | .paused seconds => IO.sleep (seconds * 1000).toUInt32
  | _ => pure ()

/-- Make a file. -/
def makeFile (path : Path) (content : Content) : IO Unit :=
  let bytes := match content with
    | .picture label => label.png
    | .stream bytes => bytes
  IO.FS.writeBinFile (String.ofList path.text) ⟨bytes.toArray⟩

/-- Wait for ever. -/
partial def waitForEver : IO UInt32 := do
  IO.sleep 1000000
  waitForEver

/-- Carry out a run: the exit code. -/
def Outcome.carryOut (o : Outcome) (device : Option (List Char)) : IO UInt32 := do
  for (path, content) in o.made do
    makeFile path content
  if let some device := device then
    let handle ← IO.FS.Handle.mk (String.ofList device) .readWrite
    for e in o.events do
      carryOutAt handle e
  (← IO.getStdout).putStr (String.ofList o.output)
  (← IO.getStderr).putStr (String.ofList o.errors)
  match o.ending with
  | .exit code => return code.toUInt32
  | .raised t =>
    (← IO.getStderr).putStrLn (programName ++ ": " ++ String.ofList t.message)
    return 1
  | .endless => waitForEver

end LabelPress.CommandLine

open LabelPress CommandLine in
/-- **The program.** -/
def main (arguments : List String) : IO UInt32 := do
  let arguments := arguments.map String.toList
  let settings ← settingsHere
  let (s, device) ← match Arguments.parse arguments with
    | .ok a => surroundingsHere settings a
    | .error _ =>
      pure ({ files := .empty, input := none, faces := .blocks, link := linkTo false }, none)
  (run s settings arguments).carryOut device
