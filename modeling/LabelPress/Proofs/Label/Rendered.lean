import LabelPress.Proofs.Interpreter.Cropping
import LabelPress.Proofs.Label.Dots
import LabelPress.Proofs.Wire.Codec

/-! # Rendered labels

A label is rendered if its size can be told in dots and there is a canvas of that size; the commands
of its file cannot spoil it. What is rendered fits the print head and has the bytes that its rows
need, so it has a stream, from which it is read back, unless it has more rows than a header can
tell.

* `render_eq_ok_iff`: which labels are rendered, and to what.
* `printable_of_render`: a rendered label is printable up to the height of a header.
* `refusedOrPrintable_render_iff`: for which sizes a label is refused for its size or can be
  printed. -/

namespace LabelPress

open Markup Interpreter

namespace Interpreter

theorem size_of_interpret {fonts : FontSource} {records : List Record} {width height : Int}
    {result : Rendering} (h : interpret fonts records width height = .ok result) :
    (result.session.canvas.width : Int) = width ∧ (result.session.canvas.height : Int) = height ∧
      0 < width ∧ 0 < height := by
  obtain ⟨hwidth, hheight, rfl⟩ := interpret_eq_ok_iff.1 h
  obtain ⟨hw, hh⟩ := size_interpretFrom fonts ⟨{}, Canvas.blank width.toNat height.toNat⟩ records
  have hw' : (Canvas.blank width.toNat height.toNat).width = width.toNat := rfl
  have hh' : (Canvas.blank width.toNat height.toNat).height = height.toNat := rfl
  rw [hw, hh, hw', hh']
  omega

theorem toMono_of_interpret {fonts : FontSource} {records : List Record} {width height : Int}
    {result : Rendering} (h : interpret fonts records width height = .ok result) (diffuse : Bool) :
    toMono result.session.canvas.luminances width height diffuse =
      .ok (packRows width.toNat height.toNat (result.session.canvas.isWhiteAt diffuse)) := by
  obtain ⟨hwidth, hheight, hpos⟩ := size_of_interpret h
  rw [← hwidth, ← hheight] at hpos ⊢
  exact Canvas.toMono_luminances (by omega) (by omega) diffuse

end Interpreter

section
variable {fonts : FontSource} {file : List Char} {width height : Measure} {diffuse : Bool}
  {label : RenderedLabel}

theorem render_of_size_error {e : LabelSizeError}
    (h : LabelSize.ofMillimetres width height = .error e) :
    render fonts file width height diffuse = .error (.size e) := by
  simp only [render, h, Except.mapError, bind, Except.bind]

/-- **Which labels are rendered**: those whose size has a canvas. -/
theorem render_eq_ok_iff :
    render fonts file width height diffuse = .ok label ↔
      ∃ size result, LabelSize.ofMillimetres width height = .ok size ∧
        interpret fonts (parse file) size.width size.height = .ok result ∧
        label = ⟨size.width, size.height, packRows size.width.toNat size.height.toNat
          (result.session.canvas.isWhiteAt diffuse), result.diagnostics⟩ := by
  constructor
  · intro h
    cases hsize : LabelSize.ofMillimetres width height with
    | error e =>
      rw [render_of_size_error hsize] at h
      cases h
    | ok size =>
      cases hresult : interpret fonts (parse file) size.width size.height with
      | error e =>
        simp only [render, hsize, hresult, Except.mapError, bind, Except.bind] at h
        cases h
      | ok result =>
        have hmono := toMono_of_interpret hresult diffuse
        simp only [render, hsize, hresult, hmono, Except.mapError, bind, Except.bind] at h
        exact ⟨size, result, rfl, hresult, (Except.ok.inj h).symm⟩
  · rintro ⟨size, result, hsize, hresult, rfl⟩
    have hmono := toMono_of_interpret hresult diffuse
    simp only [render, hsize, hresult, hmono, Except.mapError, bind, Except.bind]
    rfl

/-- A rendered label fits the print head, and its bitmap has the bytes that its rows need. -/
theorem bounds_of_render (h : render fonts file width height diffuse = .ok label) :
    (1 ≤ label.width ∧ label.width ≤ 384) ∧ (1 ≤ label.height ∧ label.height < 0x80000000) ∧
      (label.bitmap.length : Int) = ⌈(label.width : ℚ) / 8⌉ * label.height := by
  obtain ⟨size, result, -, hresult, rfl⟩ := render_eq_ok_iff.1 h
  obtain ⟨hwidth, hheight, -⟩ := interpret_eq_ok_iff.1 hresult
  refine ⟨⟨by dsimp only; omega, by dsimp only; omega⟩, ⟨by dsimp only; omega, hheight.2⟩, ?_⟩
  rw [length_packRows, ← Wire.rowBytesOf_eq_ceil, rowBytesOf_eq_ediv]
  push_cast
  rw [Int.toNat_of_nonneg (by omega), Int.toNat_of_nonneg (by omega)]
  exact mul_comm ..

/-- **A rendered label is printable**, up to the height that a header can tell. -/
theorem printable_of_render (h : render fonts file width height diffuse = .ok label)
    (hheight : label.height ≤ 65535) : Wire.Printable label.bitmap label.width label.height := by
  obtain ⟨hw, hh, hlength⟩ := bounds_of_render h
  exact ⟨hw.1, hw.2, hh.1, hheight, hlength⟩

/-- A rendered label with more rows than a header can tell has no stream. -/
theorem tooHigh_of_render (h : render fonts file width height diffuse = .ok label)
    (hheight : 65535 < label.height) (feedMm : Measure) :
    Wire.encodeLabel label.bitmap label.width label.height feedMm =
      .error (.tooHigh label.height) := by
  obtain ⟨hw, hh, -⟩ := bounds_of_render h
  have hwide : ¬(maxWidth : Int) < label.width := by
    simp only [maxWidth]
    omega
  have hempty : ¬(label.width ≤ 0 ∨ label.height ≤ 0) := by omega
  simp only [Wire.encodeLabel, hwide, hempty, hheight, if_true, if_false]
  rfl

/-- A size that is too high for a canvas is refused, but not as a size. -/
theorem render_of_beyond {size : LabelSize}
    (hsize : LabelSize.ofMillimetres width height = .ok size)
    (hwidth : 0 < size.width ∧ size.width ≤ 384) (hheight : 0x80000000 ≤ size.height) :
    ∃ e, render fonts file width height diffuse = .error (.draw (.position e)) := by
  obtain ⟨e, he⟩ := Canvas.new?_of_beyond hwidth hheight
  refine ⟨e, ?_⟩
  simp only [render, hsize, interpret, he, Except.map, Except.mapError, bind, Except.bind]

end

/-- Refused for its size, or printable: with a stream from which it is read back. -/
def RefusedOrPrintable : Except RenderError RenderedLabel → Prop
  | .error e => e.isSize = true
  | .ok label => ∃ stream,
      Wire.encodeLabel label.bitmap label.width label.height (.real Wire.defaultFeedMm) =
        .ok stream ∧
      Wire.extractBitmap stream = .ok ⟨label.rowBytes.toNat, label.height.toNat, label.bitmap⟩

theorem refusedOrPrintable_of_printable {label : RenderedLabel}
    (hp : Wire.Printable label.bitmap label.width label.height) :
    RefusedOrPrintable (.ok label) := by
  have hstream := Wire.encodeLabel_eq_ok_iff.2 ⟨hp, 32, Wire.dotsOf_four, rfl⟩
  refine ⟨_, hstream, ?_⟩
  have hread := Wire.extractBitmap_of_encodeLabel hstream []
  rw [List.append_nil] at hread
  rw [hread, Wire.extractOf, ← Wire.rowBytesOf_eq_ceil]
  rfl

/-- At a size of at least a row that fits the print head, only the height decides. -/
theorem refusedOrPrintable_render_iff_of_size {fonts : FontSource} {file : List Char}
    {width height : Measure} {diffuse : Bool} {size : LabelSize}
    (hsize : LabelSize.ofMillimetres width height = .ok size)
    (hwidth : 0 < size.width ∧ size.width ≤ 384) (hheight : 0 < size.height) :
    RefusedOrPrintable (render fonts file width height diffuse) ↔ size.height ≤ 65535 := by
  by_cases hbeyond : 0x80000000 ≤ size.height
  · obtain ⟨e, hrender⟩ : ∃ e, render fonts file width height diffuse =
        .error (.draw (.position e)) := render_of_beyond hsize hwidth hbeyond
    rw [hrender]
    exact iff_of_false nofun (by omega)
  · have hrender : render fonts file width height diffuse = .ok _ :=
      render_eq_ok_iff.2 ⟨_, _, hsize,
        interpret_eq_ok_iff.2 ⟨hwidth, ⟨hheight, not_le.1 hbeyond⟩, rfl⟩, rfl⟩
    rw [hrender]
    constructor
    · rintro ⟨stream, hstream, -⟩
      by_contra hhigh
      rw [tooHigh_of_render hrender (not_le.1 hhigh)] at hstream
      cases hstream
    · exact fun hle => refusedOrPrintable_of_printable (printable_of_render hrender hle)

/-- **What is rendered can be printed**, or is refused for its size, exactly if the size is out of
bounds in millimetres, or both sides are numbers of dots and a header can tell the height. -/
theorem refusedOrPrintable_render_iff (fonts : FontSource) (file : List Char)
    (width height : Measure) (diffuse : Bool) :
    RefusedOrPrintable (render fonts file width height diffuse) ↔
      OutOfBounds width height ∨
        ∃ w h, dotsOf width = .ok w ∧ dotsOf height = .ok h ∧ h ≤ 65535 := by
  rcases ofMillimetres_cases width height with ⟨hout, e, hsize, he⟩ | ⟨hin, a, hsize, hdots⟩ |
    ⟨hin, w, h, hw, hh, hfits, hsize⟩
  · rw [render_of_size_error hsize]
    refine iff_of_true ?_ (Or.inl hout)
    cases e with
    | reckoning a => exact absurd rfl (he a)
    | _ => rfl
  · rw [render_of_size_error hsize]
    refine iff_of_false nofun ?_
    rintro (hout | ⟨w, h, hw, hh, -⟩)
    · exact hin hout
    · rcases hdots with hdots | hdots
      · rw [hdots] at hw
        cases hw
      · rw [hdots] at hh
        cases hh
  · have hright : (OutOfBounds width height ∨
        ∃ w h, dotsOf width = .ok w ∧ dotsOf height = .ok h ∧ h ≤ 65535) ↔ h ≤ 65535 := by
      constructor
      · rintro (hout | ⟨w', h', -, hh', hle⟩)
        · exact absurd hout hin
        · rw [hh] at hh'
          cases hh'
          exact hle
      · exact fun hle => Or.inr ⟨w, h, hw, hh, hle⟩
    rw [hright]
    by_cases hlow : h < 1
    · rw [if_pos hlow] at hsize
      rw [render_of_size_error hsize]
      exact iff_of_true rfl (by omega)
    rw [if_neg hlow] at hsize
    exact refusedOrPrintable_render_iff_of_size hsize (show 0 < w ∧ w ≤ 384 by omega)
      (show 0 < h by omega)

/-- A height that is no number, and a height of one row more than a header can tell. -/
theorem not_refusedOrPrintable_render :
    ¬RefusedOrPrintable (render Font.blockSource [] (.real 20) (.real (0 / 0)) true) ∧
      ¬RefusedOrPrintable (render Font.blockSource [] (.real 20) (.real 8192) false) := by
  constructor
  · have hsize : LabelSize.ofMillimetres (.real 20) (.real (0 / 0)) =
        .error (.reckoning .notANumber) := by decide +kernel
    rw [render_of_size_error hsize]
    nofun
  · have hsize : LabelSize.ofMillimetres (.real 20) (.real 8192) = .ok ⟨160, 65536⟩ := by
      decide +kernel
    have hrender : render Font.blockSource [] (.real 20) (.real 8192) false = .ok _ :=
      render_eq_ok_iff.2 ⟨_, _, hsize, interpret_eq_ok_iff.2 ⟨by decide, by decide, rfl⟩, rfl⟩
    have hrefused := tooHigh_of_render hrender (by decide) (.real Wire.defaultFeedMm)
    rw [hrender]
    rintro ⟨stream, hstream, -⟩
    rw [hrefused] at hstream
    cases hstream

end LabelPress
