import LabelPress.CommandLine.Run
import LabelPress.Proofs.Label.Rendered
import LabelPress.Proofs.Link.Errand

/-!
# Labels on the command line

A label that is rendered into a file or printed passes three stages: its file is read, it is
rendered, and its stream is built. Each stage can fail. Most failures are told by a message; what is
left are paths that hold the character zero, bytes that are no text, sizes that have no canvas, and
feeds that are no number of dots.

* `FileTree.read_eq_nullByte_iff`, `FileTree.checkWritable_eq_nullByte_iff`: the paths.
* `Boundless`, `render_cases`: the sizes.
* `Unreadable`, `readLabel_cases`: how a label fails to be read.
* `LabelEscapes`, `renderLabel_cases`: how it fails to be rendered.
* `encodeLabel_cases`, `contentOf_cases`, `save_of_contentOf`: how it fails to be put into a stream
  or a file.
-/

namespace LabelPress

open Transmission
open Wire (Bytes)

/-! ### Paths with the character zero -/

/-- Does a path hold the character zero? -/
def Path.HoldsZero (p : Path) : Prop := p.names.any (·.contains (Char.ofNat 0)) = true

namespace FileTree

theorem outside_ne_nullByte (names : List (List Char)) : outside names ≠ .nullByte := by
  unfold outside
  split_ifs <;> nofun

theorem follow_ne_nullByte (t : FileTree) (at_ : Place) (names : List (List Char)) :
    t.follow at_ names ≠ .error .nullByte := by
  induction names generalizing at_ with
  | nil => nofun
  | cons name names ih =>
    unfold follow
    split_ifs with hfile hdir hlong hup htop
    · nofun
    · nofun
    · nofun
    · exact fun h => outside_ne_nullByte _ (Except.error.inj h)
    · exact ih _
    · exact ih _

/-- A path leads nowhere for the character zero exactly if it holds one. -/
theorem place_eq_nullByte_iff {t : FileTree} {p : Path} :
    t.place p = .error .nullByte ↔ p.HoldsZero := by
  unfold place Path.HoldsZero
  split_ifs with hzero hlong
  · exact iff_of_true rfl hzero
  · exact iff_of_false nofun hzero
  · refine iff_of_false ?_ hzero
    split
    · exact follow_ne_nullByte t [] p.names
    · exact fun h => outside_ne_nullByte _ (Except.error.inj h)

theorem read_eq_nullByte_iff {t : FileTree} {p : Path} :
    t.read p = .error .nullByte ↔ p.HoldsZero := by
  rw [← place_eq_nullByte_iff (t := t), read]
  cases t.place p with
  | error e => simp only [bind, Except.bind, Except.error.injEq]
  | ok q =>
    refine iff_of_false ?_ nofun
    simp only [bind, Except.bind]
    split
    · nofun
    · split_ifs <;> nofun

theorem checkWritable_eq_nullByte_iff {t : FileTree} {p : Path} :
    t.checkWritable p = .error .nullByte ↔ p.HoldsZero := by
  rw [← place_eq_nullByte_iff (t := t), checkWritable]
  cases t.place p with
  | error e => simp only [bind, Except.bind, Except.error.injEq]
  | ok q =>
    refine iff_of_false ?_ nofun
    simp only [bind, Except.bind]
    split_ifs <;> nofun

end FileTree

/-! ### Sizes without a canvas -/

/-- A length that is a number of dots. -/
def Measure.HasDots (m : Measure) : Prop := ∃ dots, dotsOf m = .ok dots

/-- **A size that no message refuses, but that has no canvas**: it is within the bounds in
millimetres, but a side is no number of dots, or there are more rows than a canvas has. -/
def Boundless (width height : Measure) : Prop :=
  ¬OutOfBounds width height ∧
    ¬∃ w h, dotsOf width = .ok w ∧ dotsOf height = .ok h ∧ h < 0x80000000

theorem render_cases (fonts : FontSource) (file : List Char) (width height : Measure)
    (diffuse : Bool) :
    (¬Boundless width height ∧ ∃ label, render fonts file width height diffuse = .ok label) ∨
      ∃ e, render fonts file width height diffuse = .error e ∧
        (e.isSize = false ↔ Boundless width height) := by
  rcases ofMillimetres_cases width height with ⟨hout, e, hsize, he⟩ | ⟨hin, a, hsize, hdots⟩ |
    ⟨hin, w, h, hw, hh, hfits, hsize⟩
  · refine .inr ⟨.size e, render_of_size_error hsize, ?_⟩
    refine iff_of_false ?_ fun hboundless => hboundless.1 hout
    cases e with
    | reckoning a => exact absurd rfl (he a)
    | _ => nofun
  · refine .inr ⟨.size (.reckoning a), render_of_size_error hsize, iff_of_true rfl ⟨hin, ?_⟩⟩
    rintro ⟨w, h, hw, hh, -⟩
    rcases hdots with hdots | hdots
    · rw [hdots] at hw
      cases hw
    · rw [hdots] at hh
      cases hh
  · -- Both sides are numbers of dots, so it is up to the rows.
    have hboundless : Boundless width height ↔ ¬h < 0x80000000 := by
      constructor
      · exact fun hb hlow => hb.2 ⟨w, h, hw, hh, hlow⟩
      · refine fun hhigh => ⟨hin, ?_⟩
        rintro ⟨w', h', -, hh', hlow⟩
        rw [hh] at hh'
        cases hh'
        exact hhigh hlow
    by_cases hlow : h < 1
    · rw [if_pos hlow] at hsize
      exact .inr ⟨_, render_of_size_error hsize, iff_of_false nofun (by rw [hboundless]; omega)⟩
    rw [if_neg hlow] at hsize
    by_cases hhigh : h < 0x80000000
    · exact .inl ⟨fun hb => hboundless.1 hb hhigh, _, render_eq_ok_iff.2 ⟨_, _, hsize,
        Interpreter.interpret_eq_ok_iff.2
          ⟨show 0 < w ∧ w ≤ 384 by omega, show 0 < h ∧ h < 0x80000000 by omega, rfl⟩, rfl⟩⟩
    · obtain ⟨e, hrender⟩ : ∃ e, render fonts file width height diffuse =
          .error (.draw (.position e)) :=
        render_of_beyond hsize (show 0 < w ∧ w ≤ 384 by omega) (not_lt.1 hhigh)
      exact .inr ⟨_, hrender, iff_of_true rfl (hboundless.2 hhigh)⟩

namespace CommandLine

variable {s : Surroundings} {c : AppConfig} {a : LabelArguments}
  {label : RenderedLabel}

/-! ### Reading -/

/-- **A label that cannot be read, for a reason that no message tells**: the path of its file holds
the character zero, or what is read is no text. -/
inductive Unreadable (s : Surroundings) (source : Argument) : Prop
  | path (hsource : source ≠ ['-']) (hzero : (Path.ofText source).HoldsZero)
  | file {bytes : ByteArray} (hsource : source ≠ ['-'])
    (hread : s.files.read (.ofText source) = .ok bytes) (htext : String.fromUTF8? bytes = none)
  | input (hsource : source = ['-']) (htext : s.input = none)

theorem readLabel_of_ne {source : Argument} (h : source ≠ ['-']) :
    readLabel s source = match s.files.read (.ofText source) with
      | .error e => .error (.file e (.ofText source))
      | .ok bytes =>
        match String.fromUTF8? bytes with
        | some text => .ok (Text.unifyNewlines text.toList)
        | none => .error .notText := if_neg h

theorem unreadable_iff_of_ne {source : Argument} (h : source ≠ ['-']) :
    Unreadable s source ↔ s.files.read (.ofText source) = .error .nullByte ∨
      ∃ bytes, s.files.read (.ofText source) = .ok bytes ∧ String.fromUTF8? bytes = none := by
  rw [FileTree.read_eq_nullByte_iff]
  constructor
  · rintro (⟨-, hzero⟩ | ⟨-, hread, htext⟩ | ⟨hsource, -⟩)
    · exact .inl hzero
    · exact .inr ⟨_, hread, htext⟩
    · exact absurd hsource h
  · rintro (hzero | ⟨bytes, hread, htext⟩)
    · exact .path h hzero
    · exact .file h hread htext

/-- **A label is read**, or it is told why not; if a message does not tell it, it is unreadable. -/
theorem readLabel_cases (s : Surroundings) (source : Argument) :
    (¬Unreadable s source ∧ ∃ file, readLabel s source = .ok file) ∨
      ∃ t, readLabel s source = .error t ∧ (t.opening? = none ↔ Unreadable s source) := by
  by_cases hsource : source = ['-']
  · rw [readLabel, if_pos hsource]
    have hiff : Unreadable s source ↔ s.input = none := by
      refine ⟨?_, .input hsource⟩
      rintro (⟨h, -⟩ | ⟨h, -, -⟩ | ⟨-, htext⟩)
      · exact absurd hsource h
      · exact absurd hsource h
      · exact htext
    rw [hiff]
    cases s.input with
    | none => exact .inr ⟨.notText, rfl, iff_of_true rfl rfl⟩
    | some file => exact .inl ⟨by simp, file, rfl⟩
  · rw [readLabel_of_ne hsource, unreadable_iff_of_ne hsource]
    cases s.files.read (.ofText source) with
    | error e =>
      refine .inr ⟨_, rfl, ?_⟩
      cases e <;> simp [Trouble.opening?]
    | ok bytes =>
      cases htext : String.fromUTF8? bytes with
      | none =>
        exact .inr ⟨.notText, by simp only [htext], iff_of_true rfl (.inr ⟨bytes, rfl, htext⟩)⟩
      | some text => exact .inl ⟨by simp [htext], _, by simp only [htext]; rfl⟩

/-! ### Rendering -/

/-- **A label that cannot be rendered, for a reason that no message tells**: it cannot be read, or
its size has no canvas. -/
inductive LabelEscapes (s : Surroundings) (c : AppConfig) (a : LabelArguments) : Prop
  | source (hsource : Unreadable s a.source)
  | size {file : List Char} {size : LabelDimensions} (hfile : readLabel s a.source = .ok file)
    (hsize : a.dimensions c = .ok size)
    (hboundless : Boundless (.real size.widthMm) (.real size.heightMm))

/-- **A label is rendered** unless its file, its size or its canvas is missing; if a message does
not tell why, it escapes. -/
theorem renderLabel_cases (s : Surroundings) (c : AppConfig) (a : LabelArguments) :
    (¬LabelEscapes s c a ∧ ∃ label, renderLabel s c a = .ok label) ∨
      ∃ t, renderLabel s c a = .error t ∧ (t.opening? = none ↔ LabelEscapes s c a) := by
  rcases readLabel_cases s a.source with ⟨hsource, file, hfile⟩ | ⟨t, hfile, htold⟩
  swap
  · refine .inr ⟨t, by simp only [renderLabel, hfile, bind, Except.bind], ?_⟩
    rw [htold]
    refine ⟨.source, ?_⟩
    rintro (hsource | ⟨hfile', -, -⟩)
    · exact hsource
    · rw [hfile] at hfile'
      cases hfile'
  cases hsize : a.dimensions c with
  | error e =>
    refine .inr ⟨.config e, ?_, iff_of_false nofun ?_⟩
    · simp only [renderLabel, hfile, hsize, Except.mapError, bind, Except.bind]
    · rintro (h | ⟨-, hsize', -⟩)
      · exact hsource h
      · rw [hsize] at hsize'
        cases hsize'
  | ok size =>
  have hescapes : LabelEscapes s c a ↔ Boundless (.real size.widthMm) (.real size.heightMm) := by
    constructor
    · rintro (h | ⟨-, hsize', hboundless⟩)
      · exact absurd h hsource
      · rw [hsize] at hsize'
        cases hsize'
        exact hboundless
    · exact .size hfile hsize
  rw [hescapes]
  have hrender : renderLabel s c a = (render (fontsOf s c) file (.real size.widthMm)
      (.real size.heightMm) (c.dither && !a.noDither)).mapError .rendering := by
    simp only [renderLabel, hfile, hsize, Except.mapError, bind, Except.bind]
  rcases render_cases (fontsOf s c) file (.real size.widthMm) (.real size.heightMm)
    (c.dither && !a.noDither) with ⟨hboundless, label, hlabel⟩ | ⟨e, he, hiff⟩
  · exact .inl ⟨hboundless, label, by rw [hrender, hlabel]; rfl⟩
  · refine .inr ⟨.rendering e, by rw [hrender, he]; rfl, ?_⟩
    rw [← hiff, Trouble.opening?]
    cases e.isSize <;> simp

/-! ### Streams -/

/-- A printable bitmap has a stream unless its feed is no number of dots. -/
theorem encodeLabel_of_printable {bitmap : Bytes} {width height : Int}
    (hp : Wire.Printable bitmap width height) (feedMm : Measure) :
    (feedMm.HasDots ∧ ∃ stream, Wire.encodeLabel bitmap width height feedMm = .ok stream) ∨
      (¬feedMm.HasDots ∧ ∃ e, Wire.encodeLabel bitmap width height feedMm = .error (.feed e)) := by
  rw [hp.encodeLabel_eq]
  cases hdots : dotsOf feedMm with
  | ok dots => exact .inl ⟨⟨dots, hdots⟩, _, rfl⟩
  | error e =>
    refine .inr ⟨?_, e, rfl⟩
    rintro ⟨dots, hdots'⟩
    rw [hdots] at hdots'
    cases hdots'

theorem printable_testPattern :
    Wire.Printable (Wire.testPattern maxWidth Wire.testPatternHeight) maxWidth
      Wire.testPatternHeight := by
  refine ⟨by decide, by decide, by decide, by decide, ?_⟩
  rw [Wire.length_testPattern, ← Wire.rowBytesOf_eq_ceil]
  rfl

/-- **The stream of a rendered label** fails to be in two ways, and only one of them is told. -/
theorem encodeLabel_cases (hlabel : renderLabel s c a = .ok label) (feedMm : Measure) :
    (¬(label.height ≤ 65535 ∧ ¬feedMm.HasDots) ∧ ∃ stream,
        Wire.encodeLabel label.bitmap label.width label.height feedMm = .ok stream) ∨
      ∃ e, Wire.encodeLabel label.bitmap label.width label.height feedMm = .error e ∧
        ((Trouble.encoding e).opening? = none ↔ label.height ≤ 65535 ∧ ¬feedMm.HasDots) := by
  obtain ⟨file, -, hlabel⟩ := exists_of_bind_eq_ok hlabel
  obtain ⟨size, -, hlabel⟩ := exists_of_bind_eq_ok hlabel
  rw [mapError_eq_ok_iff] at hlabel
  by_cases hheight : label.height ≤ 65535
  · rcases encodeLabel_of_printable (printable_of_render hlabel hheight) feedMm with
      ⟨hfeed, hstream⟩ | ⟨hfeed, e, he⟩
    · exact .inl ⟨fun h => h.2 hfeed, hstream⟩
    · exact .inr ⟨_, he, iff_of_true rfl ⟨hheight, hfeed⟩⟩
  · refine .inr ⟨_, tooHigh_of_render hlabel (not_le.1 hheight) feedMm, iff_of_false nofun ?_⟩
    exact fun h => hheight h.1

/-! ### Files -/

/-- The feed after a label, in millimetres. -/
def feedOf (c : AppConfig) : Float := (c.printer.map (·.feedMm)).getD Wire.defaultFeedMm

/-- What is put into a file is there, unless it is a stream that fails to be. -/
theorem contentOf_cases (hlabel : renderLabel s c a = .ok label) (format : OutputFormat) :
    (¬(format = .stream ∧ label.height ≤ 65535 ∧ ¬(Measure.real (feedOf c)).HasDots) ∧
        ∃ content, contentOf c label format = .ok content) ∨
      ∃ t, contentOf c label format = .error t ∧ (t.opening? = none ↔
        format = .stream ∧ label.height ≤ 65535 ∧ ¬(Measure.real (feedOf c)).HasDots) := by
  cases format with
  | picture => exact .inl ⟨fun h => (nomatch h.1), _, rfl⟩
  | stream =>
    have hcontent : contentOf c label .stream =
        ((Wire.encodeLabel label.bitmap label.width label.height (.real (feedOf c))).map
          .stream).mapError .encoding := rfl
    rw [hcontent]
    rcases encodeLabel_cases hlabel (.real (feedOf c)) with ⟨hfeed, stream, hstream⟩ | ⟨e, he, hiff⟩
    · rw [hstream]
      exact .inl ⟨fun h => hfeed h.2, _, rfl⟩
    · rw [he]
      refine .inr ⟨_, rfl, ?_⟩
      rw [hiff]
      simp

/-- A file is not made exactly if its path does not lead to a place for it. -/
theorem save_of_contentOf {content : Content} {format : OutputFormat}
    (h : contentOf c label format = .ok content) (output : Path) :
    (¬output.HoldsZero ∧ save s c label output format = .ok (output, content)) ∨
      ∃ t, save s c label output format = .error t ∧ (t.opening? = none ↔ output.HoldsZero) := by
  simp only [save, h, bind, Except.bind]
  rw [← FileTree.checkWritable_eq_nullByte_iff (t := s.files)]
  cases s.files.checkWritable output with
  | ok u => exact .inl ⟨nofun, rfl⟩
  | error e =>
    refine .inr ⟨_, rfl, ?_⟩
    cases e <;> simp [Trouble.opening?]

end CommandLine

end LabelPress
