import LabelPress.Label.Render
import LabelPress.Proofs.Interpreter.Alike
import LabelPress.Proofs.Mono.Diffusion

/-! # Clipping is cropping

A label on a small canvas is the upper left corner of the same label on a larger one: commands clip
what they draw, they do not shift it, and they fail on both canvases alike. The width of text blocks
is the only thing in the state that can tell the two runs apart, for by default it is the width of
the canvas. For canvases of one width the same holds of the packed bitmaps, with and without error
diffusion, since errors are never handed upwards.

* `faithful_cornerOf`: commands respect corners.
* `CornerOf.take_toMono`: the bitmap of a canvas begins with the bitmap of its upper rows.
* `interpret_corner`: both together, for a whole run. -/

namespace LabelPress

/-! ### Bitmaps of corners -/

namespace Canvas

theorem exists_pixel? {c : Canvas} {x y : Nat} (hx : x < c.width) (hy : y < c.height) :
    ∃ v, c.pixel? x y = some v := by
  have hlt : y * c.width + x < c.pixels.size := by
    rw [c.size_pixels]
    exact index_lt hx hy
  rw [pixel?_natCast hx hy]
  exact ⟨_, Array.getElem?_eq_getElem hlt⟩

/-- The gray value of a dot as a double. -/
def grayAt (c : Canvas) (x y : Nat) : Float := ((c.pixel? x y).map UInt8.toFloat).getD 0

theorem getElem?_luminances {c : Canvas} {x y : Nat} (hx : x < c.width) (hy : y < c.height) :
    c.luminances[y * c.width + x]? = some (c.grayAt x y) := by
  obtain ⟨v, hv⟩ := exists_pixel? hx hy
  have hpixel := hv
  rw [pixel?_natCast hx hy] at hpixel
  rw [luminances, grayAt, Array.getElem?_map, hpixel, hv]
  rfl

theorem CornerOf.grayAt_eq {c d : Canvas} (h : c.CornerOf d) {x y : Nat} (hx : x < c.width)
    (hy : y < c.height) : c.grayAt x y = d.grayAt x y := by
  rw [grayAt, grayAt, h.pixel?_eq x y (by omega) (by omega)]

/-- Is the dot white in the packed bitmap? -/
def isWhiteAt (c : Canvas) (diffuse : Bool) (x y : Nat) : Bool :=
  if diffuse then !GrayArithmetic.isDark (pulled c.width c.grayAt x y)
  else GrayArithmetic.isLight (c.grayAt x y)

theorem toMono_luminances {c : Canvas} (hwidth : 0 < c.width) (hheight : 0 < c.height)
    (diffuse : Bool) :
    toMono c.luminances c.width c.height diffuse =
      .ok (packRows c.width c.height (c.isWhiteAt diffuse)) := by
  have hsize : c.luminances.size = c.width * c.height := by
    rw [luminances, Array.size_map, c.size_pixels]
  exact toMono_eq_packRows hwidth hheight hsize (fun _ hx _ hy => getElem?_luminances hx hy) diffuse

/-- A dot of a corner of full width is white exactly if it is white on the whole. -/
theorem CornerOf.isWhiteAt_eq {c d : Canvas} (h : c.CornerOf d) (hwidth : c.width = d.width)
    (diffuse : Bool) {x y : Nat} (hx : x < c.width) (hy : y < c.height) :
    c.isWhiteAt diffuse x y = d.isWhiteAt diffuse x y := by
  unfold isWhiteAt
  rw [← hwidth, h.grayAt_eq hx hy]
  have hpulled : pulled c.width c.grayAt x y = pulled c.width d.grayAt x y :=
    pulled_congr hx fun i hi j hj => h.grayAt_eq hi (by omega)
  rw [hpulled]

/-- **The bitmap of a canvas begins with the bitmap of its upper rows.** -/
theorem CornerOf.take_toMono {c d : Canvas} (h : c.CornerOf d) (hwidth : c.width = d.width)
    (hpos : 0 < c.width ∧ 0 < c.height) (diffuse : Bool) :
    ∃ bitmap upper, toMono d.luminances d.width d.height diffuse = .ok bitmap ∧
      toMono c.luminances c.width c.height diffuse = .ok upper ∧
      bitmap.take (c.height * ((c.width + 7) / 8)) = upper := by
  have hpos' : 0 < d.width ∧ 0 < d.height := by
    have := h.height_le
    omega
  refine ⟨_, _, toMono_luminances hpos'.1 hpos'.2 diffuse, toMono_luminances hpos.1 hpos.2 diffuse,
    ?_⟩
  rw [hwidth, take_packRows h.height_le, ← hwidth]
  exact packRows_congr fun x hx y hy => (h.isWhiteAt_eq hwidth diffuse hx hy).symm

end Canvas

namespace Interpreter

open Markup Text

/-! ### Runs on corners -/

/-- **Commands respect corners**, but for the width of text blocks. -/
theorem faithful_cornerOf : Faithful Canvas.CornerOf State.withoutBlock where
  pen _ := rfl
  make s t h c params := by
    -- Only the block command looks at the width of the canvas, and only for the width of blocks.
    by_cases hc : c = .fieldBlock
    · subst hc
      have hstate := h.state
      simp only [assignments, leading]
      generalize leadingInt? (part params 0) = width?
      cases width? with
      | error e => exact ⟨rfl, hstate⟩
      | ok width => exact ⟨rfl, hstate⟩
    · have hwidth : assignments s.canvas.width c params = assignments t.canvas.width c params := by
        cases c with
        | fieldBlock => exact absurd rfl hc
        | _ => rfl
      rw [hwidth]
      exact make_alike (fun f hf => (each_assignments _ c params f hf).withoutBlock) h.state

theorem State.eq_of_withoutBlock_eq {s t : State} (h : s.withoutBlock = t.withoutBlock) :
    { s with blockWidth := t.blockWidth } = t :=
  congrArg (fun u : State => { u with blockWidth := t.blockWidth }) h

/-- **Clipping is cropping.** A run on a canvas of an admissible size has a result exactly if the
height fits into a word, and then so has the run on a smaller canvas: with the same remarks, with
the same state but for the width of text blocks, and with the same dots, as far as the smaller
canvas reaches. If the canvases are of one width, one bitmap begins with the other. -/
theorem interpret_corner (fonts : FontSource) (records : List Record)
    {width width' height height' : Int} (hwidth : 0 < width ∧ width ≤ width' ∧ width' ≤ 384)
    (hheight : 0 < height ∧ height ≤ height') :
    ((∃ whole, interpret fonts records width' height' = .ok whole) ↔ height' < 0x80000000) ∧
    ∀ whole, interpret fonts records width' height' = .ok whole →
      ∃ corner, interpret fonts records width height = .ok corner ∧
        corner.diagnostics = whole.diagnostics ∧
        { corner.session.state with blockWidth := whole.session.state.blockWidth } =
          whole.session.state ∧
        (∀ i j : Nat, i < width → j < height → ∃ v,
          corner.session.canvas.pixel? i j = some v ∧
            whole.session.canvas.pixel? i j = some v) ∧
        (width = width' → ∀ diffuse, ∃ bitmap upper,
          toMono whole.session.canvas.luminances width' height' diffuse = .ok bitmap ∧
          toMono corner.session.canvas.luminances width height diffuse = .ok upper ∧
          bitmap.take (height.toNat * ((width.toNat + 7) / 8)) = upper) := by
  refine ⟨⟨?_, fun h => ?_⟩, fun whole hwhole => ?_⟩
  · rintro ⟨whole, hwhole⟩
    exact (interpret_eq_ok_iff.1 hwhole).2.1.2
  · exact ⟨_, interpret_eq_ok_iff.2 ⟨by omega, by omega, rfl⟩⟩
  obtain ⟨-, ⟨-, hword⟩, rfl⟩ := interpret_eq_ok_iff.1 hwhole
  obtain ⟨w, rfl⟩ := Int.eq_ofNat_of_zero_le (Int.le_of_lt hwidth.1)
  obtain ⟨h, rfl⟩ := Int.eq_ofNat_of_zero_le (Int.le_of_lt hheight.1)
  obtain ⟨w', rfl⟩ := Int.eq_ofNat_of_zero_le (show 0 ≤ width' by omega)
  obtain ⟨h', rfl⟩ := Int.eq_ofNat_of_zero_le (show 0 ≤ height' by omega)
  have hblank : Alike Canvas.CornerOf State.withoutBlock ⟨{}, Canvas.blank w h⟩
      ⟨{}, Canvas.blank w' h'⟩ :=
    ⟨Canvas.cornerOf_blank (by omega) (by omega), rfl⟩
  obtain ⟨hremarks, hcorner⟩ := hblank.run faithful_cornerOf fonts records
  obtain ⟨hw, hh⟩ := size_interpretFrom fonts ⟨{}, Canvas.blank w h⟩ records
  obtain ⟨hw', hh'⟩ := size_interpretFrom fonts ⟨{}, Canvas.blank w' h'⟩ records
  refine ⟨_, interpret_eq_ok_iff.2 ⟨by omega, by omega, rfl⟩, ?_⟩
  simp only [Int.toNat_natCast]
  generalize interpretFrom fonts ⟨{}, Canvas.blank w h⟩ records = corner at *
  generalize interpretFrom fonts ⟨{}, Canvas.blank w' h'⟩ records = whole at *
  change corner.session.canvas.width = w at hw
  change corner.session.canvas.height = h at hh
  change whole.session.canvas.width = w' at hw'
  change whole.session.canvas.height = h' at hh'
  subst hw hh hw' hh'
  refine ⟨hremarks, State.eq_of_withoutBlock_eq hcorner.state, fun i j hi hj => ?_,
    fun heq diffuse => ?_⟩
  · obtain ⟨v, hv⟩ := Canvas.exists_pixel? (Int.ofNat_lt.1 hi) (Int.ofNat_lt.1 hj)
    exact ⟨v, hv, (hcorner.canvas.pixel?_eq i j hi hj).symm.trans hv⟩
  · exact hcorner.canvas.take_toMono (by omega) (by omega) diffuse

/-- A rounded box that reaches over the right and the lower edge, a block as wide as the canvas and
a command that fails. -/
theorem interpret_corner_box :
    (0 < (8 : Int) ∧ (8 : Int) ≤ 8 ∧ (8 : Int) ≤ 384) ∧ (0 < (3 : Int) ∧ (3 : Int) ≤ 5) ∧
    ∃ whole corner,
      interpret Font.blockSource [⟨"FO".toList, "3,1".toList⟩, ⟨"GB".toList, "9,6,1,B,2".toList⟩,
        ⟨"FB".toList, []⟩, ⟨"FW".toList, "Q".toList⟩] 8 5 = .ok whole ∧
      interpret Font.blockSource [⟨"FO".toList, "3,1".toList⟩, ⟨"GB".toList, "9,6,1,B,2".toList⟩,
        ⟨"FB".toList, []⟩, ⟨"FW".toList, "Q".toList⟩] 8 3 = .ok corner ∧
      corner.diagnostics = whole.diagnostics ∧
      { corner.session.state with blockWidth := whole.session.state.blockWidth } =
        whole.session.state ∧
      (∀ i j : Nat, i < (8 : Int) → j < (3 : Int) → ∃ v,
        corner.session.canvas.pixel? i j = some v ∧ whole.session.canvas.pixel? i j = some v) ∧
      ∃ bitmap upper,
        toMono whole.session.canvas.luminances 8 5 true = .ok bitmap ∧
        toMono corner.session.canvas.luminances 8 3 true = .ok upper ∧ bitmap.take 3 = upper := by
  obtain ⟨hexists, hcorner⟩ := @interpret_corner Font.blockSource
    [⟨"FO".toList, "3,1".toList⟩, ⟨"GB".toList, "9,6,1,B,2".toList⟩, ⟨"FB".toList, []⟩,
      ⟨"FW".toList, "Q".toList⟩] 8 8 3 5 (by decide) (by decide)
  obtain ⟨whole, hwhole⟩ := hexists.2 (by decide)
  obtain ⟨corner, hrun, hremarks, hstate, hdots, hmono⟩ := hcorner whole hwhole
  exact ⟨by decide, by decide, whole, corner, hwhole, hrun, hremarks, hstate, hdots, hmono rfl true⟩

end Interpreter

end LabelPress
