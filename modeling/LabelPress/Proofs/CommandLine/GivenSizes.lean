import LabelPress.Proofs.CommandLine.Saving
import LabelPress.Proofs.Link.Errand

/-!
# Sizes given on the command line

A width and a height that are both given replace the size that a name stands for. The name is looked
up nevertheless, after the label file was read and before the label is rendered, so an outcome still
tells whether there is a size of that name, and if there is none, which names there are. It tells
nothing else: the outcomes of two runs that differ only in the names of sizes differ exactly if the
lookups end differently.

* `AppConfig.complaint?`: what is said if there is no size of a name.
* `Surroundings.Alike`: surroundings in which a label comes out the same.
* `not_missesSize_runRender`: a failed lookup is told from everything else that may be said.
* `run_render_eq_iff`: when two runs that differ only in the names of sizes have one outcome.
-/

namespace LabelPress

/-- **What is said if there is no size of a name.** -/
def AppConfig.complaint? (c : AppConfig) (name : Option (List Char)) : Option (List Char) :=
  match c.label name with
  | .ok _ => none
  | .error e => some e.message

/-- **Configurations that differ at most in the names of sizes.** -/
structure AppConfig.SameButSizes (c₁ c₂ : AppConfig) : Prop where
  printer : c₁.printer = c₂.printer
  dither : c₁.dither = c₂.dither
  fontPaths : c₁.fontPaths = c₂.fontPaths

namespace CommandLine

/-! ### How messages begin -/

/-- Does a text begin as the messages about sizes, streams and files do? -/
def BeginsOtherwise (t : String) : Prop := ∃ c ∈ "CHIW[".toList, t.toList.head? = some c

theorem BeginsOtherwise.append {t : String} (h : BeginsOtherwise t) (rest : String) :
    BeginsOtherwise (t ++ rest) := by
  obtain ⟨c, hc, ht⟩ := h
  refine ⟨c, hc, ?_⟩
  rw [String.toList_append, List.head?_append, ht, Option.some_or]

theorem beginsOtherwise_sizeError {e : LabelSizeError} (h : ∀ a, e ≠ .reckoning a) :
    BeginsOtherwise e.message := by
  cases e with
  | tooNarrow => exact .append (.append ⟨'W', by decide, by decide⟩ _) _
  | tooWide => exact .append (.append ⟨'W', by decide, by decide⟩ _) _
  | noHeight => exact ⟨'H', by decide, by decide⟩
  | beyondHead => exact .append (.append ⟨'W', by decide, by decide⟩ _) _
  | belowOneDot => exact ⟨'H', by decide, by decide⟩
  | reckoning a => exact absurd rfl (h a)

theorem beginsOtherwise_renderError {e : RenderError} (h : e.isSize = true) :
    BeginsOtherwise e.message := by
  cases e with
  | size e =>
    refine beginsOtherwise_sizeError fun a ha => ?_
    rw [ha] at h
    cases h
  | draw e =>
    cases e with
    | canvasTooWide w =>
      exact .append (.append (.append (.append ⟨'C', by decide, by decide⟩ _) _) _) _
    | _ => cases h
  | mono e => cases h

theorem beginsOtherwise_wireError {e : Wire.WireError} (h : e.isSize = true) :
    BeginsOtherwise e.message := by
  cases e with
  | tooWide w => exact .append (.append (.append (.append ⟨'I', by decide, by decide⟩ _) _) _) _
  | emptySize w h => exact .append (.append (.append ⟨'I', by decide, by decide⟩ _) _) _
  | tooHigh h => exact .append (.append ⟨'I', by decide, by decide⟩ _) _
  | _ => cases h

theorem beginsOtherwise_fileError {e : FileError} (h : e ≠ .nullByte) (path : Path) :
    BeginsOtherwise (e.message path) := by
  have hnumbered (n : Nat) (what : String) : BeginsOtherwise (FileError.numbered n what path) :=
    .append (.append (.append (.append (.append ⟨'[', by decide, by decide⟩ _) _) _) _) _
  cases e with
  | nullByte => exact absurd rfl h
  | _ => exact hnumbered ..

/-- Can a failure come after the size of a label was found? -/
def Trouble.IsLater : Trouble → Prop
  | rendering _ | encoding _ | file .. => True
  | _ => False

/-- A failure after that is told in words that begin otherwise, or not at all. -/
theorem opening?_of_isLater {t : Trouble} (h : t.IsLater) :
    t.opening? = none ∨
      (t.opening? = some "Error: " ∧ ∃ m : String, t.message = m.toList ∧ BeginsOtherwise m) := by
  cases t with
  | rendering e =>
    cases hsize : e.isSize with
    | false => exact .inl (if_neg (by simp [hsize]))
    | true => exact .inr ⟨if_pos hsize, _, rfl, beginsOtherwise_renderError hsize⟩
  | encoding e =>
    cases hsize : e.isSize with
    | false => exact .inl (if_neg (by simp [hsize]))
    | true => exact .inr ⟨if_pos hsize, _, rfl, beginsOtherwise_wireError hsize⟩
  | file e path =>
    by_cases hzero : e = .nullByte
    · rw [hzero]
      exact .inl rfl
    · have htold : (Trouble.file e path).opening? = some "Error: " := by
        cases e <;> first | rfl | exact absurd rfl hzero
      exact .inr ⟨htold, _, rfl, beginsOtherwise_fileError hzero path⟩
  | config e => exact h.elim
  | content e => exact h.elim
  | notText => exact h.elim
  | job e => exact h.elim

/-! ### What a failed lookup says -/

/-- How the message begins that there is no size of a name. -/
def unknownSize : List Char := "Unknown label preset '".toList

/-- How a run tells it. -/
def missingSize : List Char := "Error: ".toList ++ unknownSize

/-- Does a run tell that there is no size of a name? -/
def Outcome.MissesSize (o : Outcome) : Prop := missingSize <+: o.errors

theorem errors_ofTrouble_of_opening {t : Trouble} {opening : String}
    (h : t.opening? = some opening) (said : List Char) (events : List LinkEvent) :
    (Outcome.ofTrouble t said events).errors =
      said ++ (opening.toList ++ (t.message ++ ['\n'])) := by
  rw [Outcome.ofTrouble, h, ← List.append_assoc, ← List.append_assoc]

theorem exists_of_label_eq_error {c : AppConfig} {name : Option (List Char)} {e : ConfigError}
    (h : c.label name = .error e) : ∃ key names, e = .unknownLabel key names := by
  unfold AppConfig.label at h
  dsimp only at h
  split at h
  · cases h
  · exact ⟨_, _, (Except.error.inj h).symm⟩

theorem missesSize_ofTrouble_config {c : AppConfig} {name : Option (List Char)} {e : ConfigError}
    (h : c.label name = .error e) : (Outcome.ofTrouble (.config e) [] []).MissesSize := by
  obtain ⟨key, names, rfl⟩ := exists_of_label_eq_error h
  have hopening : (Trouble.config (.unknownLabel key names)).opening? = some "Error: " := rfl
  have hmessage : (Trouble.config (.unknownLabel key names)).message =
      unknownSize ++ key ++ "' (available: ".toList ++
        (if names.isEmpty then "none".toList else ", ".toList.intercalate names) ++ [')'] := rfl
  have htold : "Error: ".toList ++ unknownSize = missingSize := rfl
  rw [Outcome.MissesSize, errors_ofTrouble_of_opening hopening, hmessage, List.nil_append]
  simp only [← List.append_assoc]
  rw [htold]
  simp only [List.append_assoc]
  exact List.prefix_append ..

/-- Remarks on a label come first, and they begin otherwise. -/
theorem not_missingSize_after_warnings {label : RenderedLabel} {told : List Char}
    (h : ¬missingSize <+: told) : ¬missingSize <+: warnings label ++ told := by
  have herror : missingSize = 'E' :: "rror: Unknown label preset '".toList := by decide
  have hwarning : "Warning: ".toList = 'W' :: "arning: ".toList := by decide
  unfold warnings
  cases label.diagnostics with
  | nil => exact h
  | cons d ds =>
    simp only [List.flatMap_cons, hwarning, herror, List.cons_append, List.cons_prefix_cons]
    exact fun hprefix => absurd hprefix.1 (by decide)

/-- A failure after the lookup is told from one of the lookup. -/
theorem not_missesSize_ofTrouble {t : Trouble} (h : t.IsLater) {said : List Char}
    (hsaid : ∀ told, ¬missingSize <+: told → ¬missingSize <+: said ++ told) :
    ¬(Outcome.ofTrouble t said []).MissesSize := by
  unfold Outcome.MissesSize
  rcases opening?_of_isLater h with hnone | ⟨hsome, m, hm, c, hc, hhead⟩
  · have htold : (Outcome.ofTrouble t said []).errors = said ++ [] := by
      rw [Outcome.ofTrouble, hnone, List.append_nil]
    rw [htold]
    exact hsaid [] (by decide)
  · have htold : missingSize = "Error: ".toList ++ 'U' :: "nknown label preset '".toList := by
      decide
    obtain ⟨rest, hrest⟩ := List.head?_eq_some_iff.1 hhead
    rw [errors_ofTrouble_of_opening hsome, hm, hrest]
    refine hsaid _ ?_
    rw [htold, List.prefix_append_right_inj, List.cons_append, List.cons_prefix_cons]
    rintro ⟨rfl, -⟩
    exact absurd hc (by decide)

/-! ### Labels of a given size -/

section Given
variable {s : Surroundings} {c : AppConfig} {a : LabelArguments} {w h : Float} {output : Path}
  {format : OutputFormat} {file : List Char}

/-- If both sides are given, a size that was found does not matter. -/
theorem dimensions_of_found (hw : a.widthMm = some w) (hh : a.heightMm = some h)
    {size : LabelDimensions} (hfound : c.label a.preset = .ok size) :
    a.dimensions c = .ok ⟨w, h⟩ := by
  rw [LabelArguments.dimensions, hw, hh, hfound]
  rfl

theorem isLater_of_renderLabel {size : LabelDimensions} {t : Trouble}
    (hread : readLabel s a.source = .ok file) (hsize : a.dimensions c = .ok size)
    (ht : renderLabel s c a = .error t) : t.IsLater := by
  rw [renderLabel_of_dimensions hread hsize, Transmission.mapError_eq_error_iff] at ht
  obtain ⟨e, -, rfl⟩ := ht
  trivial

theorem isLater_of_save {label : RenderedLabel} {t : Trouble}
    (ht : save s c label output format = .error t) : t.IsLater := by
  unfold save at ht
  cases hcontent : contentOf c label format with
  | error e =>
    rw [hcontent] at ht
    cases ht
    cases format with
    | picture => cases hcontent
    | stream =>
      obtain ⟨e, -, rfl⟩ := Transmission.mapError_eq_error_iff.1 hcontent
      trivial
  | ok content =>
    rw [hcontent] at ht
    cases hwritable : s.files.checkWritable output with
    | error e =>
      rw [hwritable] at ht
      cases ht
      trivial
    | ok u =>
      rw [hwritable] at ht
      cases ht

/-- **After the lookup** nothing is said that a failed one says. -/
theorem not_missesSize_runRender {size : LabelDimensions}
    (hread : readLabel s a.source = .ok file) (hsize : a.dimensions c = .ok size) :
    ¬(runRender s c a output format).MissesSize := by
  have hremarks {label : RenderedLabel} : ¬missingSize <+: warnings label := by
    rw [← List.append_nil (warnings label)]
    exact not_missingSize_after_warnings (by decide)
  unfold runRender
  cases hlabel : renderLabel s c a with
  | error t =>
    exact not_missesSize_ofTrouble (isLater_of_renderLabel hread hsize hlabel) fun _ => id
  | ok label =>
    dsimp only
    cases hsave : save s c label output format with
    | error t =>
      exact not_missesSize_ofTrouble (isLater_of_save hsave) fun _ => not_missingSize_after_warnings
    | ok saved => exact hremarks

theorem runRender_of_read_error {t : Trouble} (hread : readLabel s a.source = .error t) :
    runRender s c a output format = .ofTrouble t [] [] := by
  simp only [runRender, renderLabel, hread, bind, Except.bind]

theorem runRender_of_label_error {e : ConfigError} (hread : readLabel s a.source = .ok file)
    (he : c.label a.preset = .error e) :
    runRender s c a output format = .ofTrouble (.config e) [] [] := by
  have hsize : a.dimensions c = .error e := by
    rw [LabelArguments.dimensions, he]
    rfl
  simp only [runRender, renderLabel, hread, hsize, Except.mapError, bind, Except.bind]

end Given

/-! ### Runs that differ in the names of sizes -/

/-- **Surroundings in which a label comes out the same**: its file, its fonts, and the place that it
is written to. -/
structure Surroundings.Alike (s₁ s₂ : Surroundings) (a : LabelArguments) (output : Path) :
    Prop where
  label : readLabel s₁ a.source = readLabel s₂ a.source
  fonts : ∀ c, fontsOf s₁ c = fontsOf s₂ c
  writable : s₁.files.checkWritable output = s₂.files.checkWritable output

/-- The arguments with another name for the size. -/
def LabelArguments.withPreset (a : LabelArguments) (name : Option Argument) : LabelArguments :=
  { a with preset := name }

section Two
variable {s₁ s₂ : Surroundings} {c₁ c₂ : AppConfig} {a : LabelArguments}
  {name₁ name₂ : Option Argument} {w h : Float} {output : Path} {format : OutputFormat}

/-- Two failed lookups end a run in the same way exactly if the same is said. -/
theorem ofTrouble_config_inj {e₁ e₂ : ConfigError} :
    Outcome.ofTrouble (.config e₁) [] [] = Outcome.ofTrouble (.config e₂) [] [] ↔
      e₁.message = e₂.message := by
  have hopening (e : ConfigError) : (Trouble.config e).opening? = some "Error: " := rfl
  constructor
  · intro heq
    have herrors := congrArg Outcome.errors heq
    rw [errors_ofTrouble_of_opening (hopening e₁), errors_ofTrouble_of_opening (hopening e₂)]
      at herrors
    exact List.append_cancel_right (List.append_cancel_left (List.append_cancel_left herrors))
  · intro heq
    have htold : (Trouble.config e₁).message = (Trouble.config e₂).message := heq
    unfold Outcome.ofTrouble
    rw [hopening, hopening, htold]

/-- Two labels whose sizes were found come out the same. -/
theorem runRender_eq_of_found (hs : s₁.Alike s₂ a output) (hc : c₁.SameButSizes c₂)
    (hw : a.widthMm = some w) (hh : a.heightMm = some h) {size₁ size₂ : LabelDimensions}
    (h₁ : c₁.label name₁ = .ok size₁) (h₂ : c₂.label name₂ = .ok size₂) :
    runRender s₁ c₁ (a.withPreset name₁) output format =
      runRender s₂ c₂ (a.withPreset name₂) output format := by
  have hfonts : fontsOf s₁ c₁ = fontsOf s₂ c₂ := by
    rw [hs.fonts, fontsOf, hc.fontPaths]
    rfl
  have hsize₁ := dimensions_of_found (a := a.withPreset name₁) hw hh h₁
  have hsize₂ := dimensions_of_found (a := a.withPreset name₂) hw hh h₂
  have hlabel :
      renderLabel s₁ c₁ (a.withPreset name₁) = renderLabel s₂ c₂ (a.withPreset name₂) := by
    rw [renderLabel, renderLabel, hsize₁, hsize₂, hfonts, hc.dither, LabelArguments.withPreset,
      LabelArguments.withPreset, hs.label]
  have hsave (label : RenderedLabel) :
      save s₁ c₁ label output format = save s₂ c₂ label output format := by
    have hcontent : contentOf c₁ label format = contentOf c₂ label format := by
      cases format with
      | picture => rfl
      | stream => rw [contentOf, contentOf, hc.printer]
    rw [save, save, hcontent, hs.writable]
  simp only [runRender, hlabel, hsave]

end Two

section Run
variable {s₁ s₂ : Surroundings} {c₁ c₂ : AppConfig} {a : LabelArguments}
  {name₁ name₂ : Option Argument} {w h : Float} {output : Path} {format : OutputFormat}
  {settings₁ settings₂ : Settings} {arguments₁ arguments₂ : List Argument}
  {config₁ config₂ : Option Path} {debug₁ debug₂ : Bool}

/-- **Two runs that differ only in the names of sizes**, with both sides of the label given, have
one outcome exactly if the label file cannot be read, or the lookups of the names end in the same
way: both with a size, whichever it is, or both with the same message. -/
theorem run_render_eq_iff
    (hparse₁ : Arguments.parse arguments₁ =
      .ok ⟨config₁, debug₁, .render (a.withPreset name₁) output format⟩)
    (hparse₂ : Arguments.parse arguments₂ =
      .ok ⟨config₂, debug₂, .render (a.withPreset name₂) output format⟩)
    (hload₁ : AppConfig.load s₁.flaw? s₁.files (config₁.getD settings₁.configFile) = .ok c₁)
    (hload₂ : AppConfig.load s₂.flaw? s₂.files (config₂.getD settings₂.configFile) = .ok c₂)
    (hs : s₁.Alike s₂ a output) (hc : c₁.SameButSizes c₂) (hw : a.widthMm = some w)
    (hh : a.heightMm = some h) :
    run s₁ settings₁ arguments₁ = run s₂ settings₂ arguments₂ ↔
      (∃ t, readLabel s₁ a.source = .error t) ∨ c₁.complaint? name₁ = c₂.complaint? name₂ := by
  rw [run_of_render hparse₁ hload₁, run_of_render hparse₂ hload₂]
  cases hread : readLabel s₁ a.source with
  | error t =>
    have hread₂ : readLabel s₂ a.source = .error t := hs.label ▸ hread
    rw [runRender_of_read_error (a := a.withPreset name₁) hread,
      runRender_of_read_error (a := a.withPreset name₂) hread₂]
    exact iff_of_true rfl (.inl ⟨t, rfl⟩)
  | ok file =>
    have hread₂ : readLabel s₂ a.source = .ok file := hs.label ▸ hread
    have hfine : ¬∃ t, (Except.ok file : Except Trouble (List Char)) = .error t := nofun
    rw [or_iff_right hfine, AppConfig.complaint?, AppConfig.complaint?]
    cases h₁ : c₁.label name₁ with
    | ok size₁ =>
      have hsize₁ := dimensions_of_found (a := a.withPreset name₁) hw hh h₁
      cases h₂ : c₂.label name₂ with
      | ok size₂ => exact iff_of_true (runRender_eq_of_found hs hc hw hh h₁ h₂) rfl
      | error e₂ =>
        refine iff_of_false (fun heq => ?_) nofun
        rw [runRender_of_label_error (a := a.withPreset name₂) hread₂ h₂] at heq
        exact not_missesSize_runRender (a := a.withPreset name₁) hread hsize₁
          (heq ▸ missesSize_ofTrouble_config h₂)
    | error e₁ =>
      rw [runRender_of_label_error (a := a.withPreset name₁) hread h₁]
      cases h₂ : c₂.label name₂ with
      | ok size₂ =>
        have hsize₂ := dimensions_of_found (a := a.withPreset name₂) hw hh h₂
        refine iff_of_false (fun heq => ?_) nofun
        exact not_missesSize_runRender (a := a.withPreset name₂) hread₂ hsize₂
          (heq ▸ missesSize_ofTrouble_config h₁)
      | error e₂ =>
        rw [runRender_of_label_error (a := a.withPreset name₂) hread₂ h₂,
          ofTrouble_config_inj]
        exact (Option.some_inj).symm

end Run

/-! ### A label on a desk -/

deriving instance DecidableEq for LabelArguments, Command, Arguments

/-- A desk with a label of one row, and a configuration that has one size, which is the default. -/
def sizeDesk : Surroundings where
  files := ⟨[(["sizes.yaml".toList],
    "default_label: tag\nlabel_presets:\n  tag:\n    width_mm: 30\n    height_mm: 1\n".toUTF8),
    (["strip.zpl".toList], "^FO8,0^GB16,1^FS".toUTF8)], []⟩
  input := none
  faces := .blocks
  link target := { target }

/-- The label, of 20 by 0.1 millimetres. -/
def stripLabel : LabelArguments := ⟨"strip.zpl".toList, none, some 20, some 0.1, false⟩

/-- Render the label, with some options in front and with others behind. -/
def renderStrip (shared others : List String) : List Argument :=
  (shared ++ ["render", "strip.zpl", "--format", "bin", "-o", "strip.bin", "--width-mm", "20",
    "--height-mm", "0.1"] ++ others).map String.toList

theorem parse_renderStrip : Arguments.parse (renderStrip [] []) =
    .ok ⟨none, false, .render (stripLabel.withPreset none) (.ofText "strip.bin".toList)
      .stream⟩ := by
  decide +kernel

/-- What the configuration on the desk says besides, and that it has its default. -/
theorem load_sizeDesk :
    (AppConfig.load sizeDesk.flaw? sizeDesk.files (.ofText "sizes.yaml".toList)).toOption.map
      (fun c => ((c.printer.isNone, c.dither, c.fontPaths), c.complaint? none)) =
      some ((true, true, []), none) := by decide +kernel

theorem run_render_eq_iff_sizes :
    ∃ c, AppConfig.load sizeDesk.flaw? sizeDesk.files (.ofText "config.yaml".toList) = .ok {} ∧
      AppConfig.load sizeDesk.flaw? sizeDesk.files (.ofText "sizes.yaml".toList) = .ok c ∧
      AppConfig.SameButSizes {} c ∧
      run sizeDesk {} (renderStrip [] []) =
        run sizeDesk {} (renderStrip ["-c", "sizes.yaml"] []) := by
  have hsays := load_sizeDesk
  cases hload : AppConfig.load sizeDesk.flaw? sizeDesk.files (.ofText "sizes.yaml".toList) with
  | error e =>
    rw [hload] at hsays
    cases hsays
  | ok c =>
    rw [hload] at hsays
    obtain ⟨hothers, hfound⟩ := Prod.mk.inj (Option.some.inj hsays)
    obtain ⟨hprinter, hothers⟩ := Prod.mk.inj hothers
    obtain ⟨hdither, hfonts⟩ := Prod.mk.inj hothers
    have hc : AppConfig.SameButSizes {} c :=
      ⟨(Option.isNone_iff_eq_none.1 hprinter).symm, hdither.symm, hfonts.symm⟩
    have hparse : Arguments.parse (renderStrip ["-c", "sizes.yaml"] []) =
        .ok ⟨some (.ofText "sizes.yaml".toList), false,
          .render (stripLabel.withPreset none) (.ofText "strip.bin".toList) .stream⟩ := by
      decide +kernel
    have habsent : AppConfig.load sizeDesk.flaw? sizeDesk.files
        ((none : Option Path).getD ({} : Settings).configFile) = .ok {} := rfl
    refine ⟨c, rfl, rfl, hc, ?_⟩
    exact (run_render_eq_iff parse_renderStrip hparse habsent hload ⟨rfl, fun _ => rfl, rfl⟩ hc
      rfl rfl).2 (.inr hfound.symm)

/-- **A name without a size** fails, though both sides are given. -/
theorem run_render_ne_of_unknown_name :
    ∃ output format,
      Arguments.parse (renderStrip [] []) =
          .ok ⟨none, false, .render (stripLabel.withPreset none) output format⟩ ∧
        Arguments.parse (renderStrip [] ["--label", "huge"]) =
          .ok ⟨none, false, .render (stripLabel.withPreset (some "huge".toList)) output format⟩ ∧
        (∃ c, AppConfig.load sizeDesk.flaw? sizeDesk.files (.ofText "config.yaml".toList) = .ok c) ∧
        stripLabel.widthMm = some 20 ∧ stripLabel.heightMm = some 0.1 ∧
        run sizeDesk {} (renderStrip [] []) ≠
          run sizeDesk {} (renderStrip [] ["--label", "huge"]) := by
  have hload : AppConfig.load sizeDesk.flaw? sizeDesk.files
      ((none : Option Path).getD ({} : Settings).configFile) = .ok {} := rfl
  have hparse : Arguments.parse (renderStrip [] ["--label", "huge"]) =
      .ok ⟨none, false, .render (stripLabel.withPreset (some "huge".toList))
        (.ofText "strip.bin".toList) .stream⟩ := by
    decide +kernel
  refine ⟨_, _, parse_renderStrip, hparse, ⟨_, hload⟩, rfl, rfl, fun heq => ?_⟩
  have hread : readLabel sizeDesk stripLabel.source = .ok "^FO8,0^GB16,1^FS".toList := rfl
  have hfound : AppConfig.label {} none = .ok ⟨40, 30⟩ := by rfl
  have hsize := dimensions_of_found (a := stripLabel.withPreset none) rfl rfl hfound
  obtain ⟨e, he⟩ : ∃ e, AppConfig.label {} (some "huge".toList) = .error e := ⟨_, rfl⟩
  rw [run_of_render parse_renderStrip hload, run_of_render hparse hload,
    runRender_of_label_error (a := stripLabel.withPreset (some "huge".toList)) hread he] at heq
  exact not_missesSize_runRender (a := stripLabel.withPreset none) hread hsize
    (heq ▸ missesSize_ofTrouble_config he)

end CommandLine

end LabelPress
