import LabelPress.Proofs.Label.Rendered
import LabelPress.Proofs.Mono.BlackAndWhite

/-! # Labels without text

Boxes and bitmaps are drawn in pure black and pure white, each dot of them, whether or not the
command succeeds; only text has gray dots. On a canvas of pure black and white no dot has an error
to hand on, so diffusing errors changes nothing.

* `Canvas.Bilevel`: a canvas of black and white, which painting in black and white leaves so.
* `bilevel_step`, `bilevel_interpretFrom`: one command and a run without text.
* `Bilevel.isWhiteAt_eq`: what diffusing errors does on such a canvas.
* `bilevel_of_no_fieldData`: both together, for whole labels. -/

namespace LabelPress

namespace Canvas

/-- **A canvas of black and white.** -/
def Bilevel (c : Canvas) : Prop :=
  ∀ (x y : Int) (v : UInt8), c.pixel? x y = some v → v = black ∨ v = white

/-- A canvas of black and white, twice. -/
def SameBilevel (c d : Canvas) : Prop := c = d ∧ c.Bilevel

theorem bilevel_blank (width height : Nat) : (blank width height).Bilevel := by
  intro x y v hv
  by_cases hin : 0 ≤ x ∧ x < width ∧ 0 ≤ y ∧ y < height
  · rw [pixel?_blank hin] at hv
    right
    exact (Option.some.inj hv).symm
  · rw [pixel?_eq_none (c := blank width height) hin] at hv
    cases hv

/-- Painting in black and white. -/
theorem paints_sameBilevel {f : Int → Int → UInt8 → UInt8}
    (hf : ∀ x y v, f x y v = black ∨ f x y v = white) : Paints SameBilevel f := by
  rintro c _ ⟨rfl, hc⟩ r
  refine ⟨rfl, fun x y v hv => ?_⟩
  rw [pixel?_paint] at hv
  split_ifs at hv with hin
  · obtain ⟨old, -, rfl⟩ := Option.map_eq_some_iff.1 hv
    exact hf x y old
  · exact hc x y v hv

theorem packedDot_black_or_white (data : Array UInt8) (rowBytes x y : Nat) :
    packedDot data rowBytes x y = black ∨ packedDot data rowBytes x y = white := by
  unfold packedDot
  split_ifs
  · exact Or.inr rfl
  · exact Or.inl rfl

end Canvas

namespace Interpreter

open Markup

/-! ### Runs without text -/

/-- Text has only one name. -/
theorem eq_code_of_resolve_fieldData {name extra : List Char}
    (h : resolve name = some (.fieldData, extra)) : name = Command.fieldData.code := by
  unfold resolve at h
  split at h
  · rename_i c hfound
    obtain ⟨rfl, -⟩ := Prod.mk.inj (Option.some.inj h)
    have hcode := List.find?_some hfound
    simp only [beq_iff_eq] at hcode
    exact hcode.symm
  · split at h
    · cases h
    · cases h

/-- **A command that draws no text** leaves a canvas of black and white so. -/
theorem bilevel_step (fonts : FontSource) {s : Session} {r : Record}
    (hr : r.name ≠ Command.fieldData.code) (h : s.canvas.Bilevel) :
    (s.step fonts r).1.canvas.Bilevel := by
  cases hresolve : resolve r.name with
  | none =>
    simp only [Session.step, hresolve]
    exact h
  | some found =>
    obtain ⟨c, extra⟩ := found
    have hc : c ≠ .fieldData := by
      rintro rfl
      exact hr (eq_code_of_resolve_fieldData hresolve)
    have hshape := respects_shape
      (Canvas.paints_sameBilevel fun _ _ _ => Or.inl rfl)
      (Canvas.paints_sameBilevel fun _ _ _ => Or.inr rfl)
      (fun _ _ _ _ => Canvas.paints_sameBilevel fun _ _ _ => Canvas.packedDot_black_or_white ..)
      fonts s.state.pen hc (extra ++ r.params)
    rw [step_eq hresolve]
    exact (hshape s.canvas s.canvas ⟨rfl, h⟩).2.2

/-- **A run without text** leaves a canvas of black and white so. -/
theorem bilevel_interpretFrom (fonts : FontSource) {s : Session} (h : s.canvas.Bilevel)
    {records : List Record} (hrecords : ∀ r ∈ records, r.name ≠ Command.fieldData.code) :
    (interpretFrom fonts s records).session.canvas.Bilevel := by
  induction records generalizing s with
  | nil => exact h
  | cons r records ih =>
    have hr := hrecords r List.mem_cons_self
    exact ih (bilevel_step fonts hr h) fun r' hr' => hrecords r' (List.mem_cons_of_mem r hr')

end Interpreter

/-! ### Nothing to diffuse -/

namespace Canvas

theorem Bilevel.grayAt_eq {c : Canvas} (h : c.Bilevel) (x y : Nat) :
    c.grayAt x y = 0 ∨ c.grayAt x y = 255 := by
  have hblack : black.toFloat = 0 := by decide +kernel
  have hwhite : white.toFloat = 255 := by decide +kernel
  cases hv : c.pixel? x y with
  | none =>
    left
    rw [grayAt, hv]
    rfl
  | some v =>
    rcases h x y v hv with rfl | rfl
    · left
      rw [grayAt, hv, ← hblack]
      rfl
    · right
      rw [grayAt, hv, ← hwhite]
      rfl

/-- **Diffusion changes nothing** on a canvas of black and white. -/
theorem Bilevel.isWhiteAt_eq {c : Canvas} (h : c.Bilevel) (x y : Nat) :
    c.isWhiteAt true x y = c.isWhiteAt false x y := by
  have hwhite (diffuse : Bool) : c.isWhiteAt diffuse x y = GrayArithmetic.isLight (c.grayAt x y) :=
    whiteAt_of_pure h.grayAt_eq c.width diffuse x y
  rw [hwhite, hwhite]

theorem Bilevel.toMono_eq {c : Canvas} (h : c.Bilevel) (hwidth : 0 < c.width)
    (hheight : 0 < c.height) :
    toMono c.luminances c.width c.height true = toMono c.luminances c.width c.height false := by
  rw [toMono_luminances hwidth hheight, toMono_luminances hwidth hheight]
  exact congrArg Except.ok (packRows_congr fun x _ y _ => h.isWhiteAt_eq x y)

end Canvas

/-! ### Whole labels -/

namespace Interpreter

open Markup

theorem bilevel_of_interpret {fonts : FontSource} {records : List Record} {width height : Int}
    {result : Rendering} (h : interpret fonts records width height = .ok result)
    (hrecords : ∀ r ∈ records, r.name ≠ Command.fieldData.code) :
    result.session.canvas.Bilevel := by
  obtain ⟨-, -, rfl⟩ := interpret_eq_ok_iff.1 h
  exact bilevel_interpretFrom fonts (Canvas.bilevel_blank _ _) hrecords

end Interpreter

open Markup Interpreter

theorem toMono_diffuse_eq {fonts : FontSource} {records : List Record} {width height : Int}
    {result : Rendering} (h : interpret fonts records width height = .ok result)
    (hrecords : ∀ r ∈ records, r.name ≠ Command.fieldData.code) :
    toMono result.session.canvas.luminances width height true =
      toMono result.session.canvas.luminances width height false := by
  have hbilevel := bilevel_of_interpret h hrecords
  obtain ⟨hwidth, hheight, hpos⟩ := size_of_interpret h
  rw [← hwidth, ← hheight] at hpos ⊢
  exact hbilevel.toMono_eq (by omega) (by omega)

theorem render_diffuse_eq (fonts : FontSource) {file : List Char}
    (h : ∀ r ∈ parse file, r.name ≠ Command.fieldData.code) (width height : Measure) :
    render fonts file width height true = render fonts file width height false := by
  cases hsize : LabelSize.ofMillimetres width height with
  | error e => rw [render_of_size_error hsize, render_of_size_error hsize]
  | ok size =>
    cases hresult : interpret fonts (parse file) size.width size.height with
    | error e => simp only [render, hsize, hresult, Except.mapError, bind, Except.bind]
    | ok result =>
      have hmono := toMono_diffuse_eq hresult h
      simp only [render, hsize, hresult, hmono, Except.mapError, bind, Except.bind]

/-- **Labels without text do not depend on dithering.** Commands that draw no text leave every dot
black or white, on a canvas of any size; so a label file without text has one bitmap, dithered or
not, whatever its size. -/
theorem bilevel_of_no_fieldData (fonts : FontSource) {records : List Record}
    (h : ∀ r ∈ records, r.name ≠ Command.fieldData.code) :
    (∀ width height result, interpret fonts records width height = .ok result →
      ∀ i j : Nat, i < width → j < height →
        result.session.canvas.pixel? i j = some 0 ∨
          result.session.canvas.pixel? i j = some 255) ∧
    ∀ file, parse file = records → ∀ width height : Measure,
      render fonts file width height true = render fonts file width height false := by
  constructor
  · intro width height result hresult i j hi hj
    obtain ⟨hwidth, hheight, -⟩ := size_of_interpret hresult
    obtain ⟨v, hv⟩ := Canvas.exists_pixel? (c := result.session.canvas) (x := i) (y := j)
      (by omega) (by omega)
    rcases bilevel_of_interpret hresult h i j v hv with rfl | rfl
    · exact Or.inl hv
    · exact Or.inr hv
  · rintro file rfl width height
    exact render_diffuse_eq fonts h width height

/-- A rounded border, a white box and a bitmap that reaches over the edge. -/
def boxesFile : List Char :=
  "^FO2,0^GB20,4,1,B,1^FO5,1^GB3,2,2,W^FS^FO155,1^GFA,2,2,1,F0A5^FS".toList

theorem bilevel_of_no_fieldData_boxes :
    (∀ r ∈ parse boxesFile, r.name ≠ Command.fieldData.code) ∧
      (∃ result, interpret Font.blockSource (parse boxesFile) 30 4 = .ok result ∧
        ∀ i j : Nat, i < (30 : Int) → j < (4 : Int) →
          result.session.canvas.pixel? i j = some 0 ∨
            result.session.canvas.pixel? i j = some 255) ∧
      ∃ label, render Font.blockSource boxesFile (.real 20) (.real 0.5) true = .ok label ∧
        render Font.blockSource boxesFile (.real 20) (.real 0.5) false = .ok label := by
  have hplain : ∀ r ∈ parse boxesFile, r.name ≠ Command.fieldData.code := by decide +kernel
  obtain ⟨hpixels, hrender⟩ := bilevel_of_no_fieldData Font.blockSource hplain
  have hresult : interpret Font.blockSource (parse boxesFile) 30 4 =
      .ok (interpretFrom Font.blockSource ⟨{}, Canvas.blank 30 4⟩ (parse boxesFile)) :=
    interpret_eq_ok_iff.2 ⟨by decide, by decide, rfl⟩
  have hsize : LabelSize.ofMillimetres (.real 20) (.real 0.5) = .ok ⟨160, 4⟩ := by decide +kernel
  have hwide : interpret Font.blockSource (parse boxesFile) 160 4 =
      .ok (interpretFrom Font.blockSource ⟨{}, Canvas.blank 160 4⟩ (parse boxesFile)) :=
    interpret_eq_ok_iff.2 ⟨by decide, by decide, rfl⟩
  have hlabel : render Font.blockSource boxesFile (.real 20) (.real 0.5) false = .ok _ :=
    render_eq_ok_iff.2 ⟨_, _, hsize, hwide, rfl⟩
  have hsame := hrender boxesFile rfl (.real 20) (.real 0.5)
  exact ⟨hplain, ⟨_, hresult, hpixels 30 4 _ hresult⟩, _, hsame.trans hlabel, hlabel⟩

end LabelPress
