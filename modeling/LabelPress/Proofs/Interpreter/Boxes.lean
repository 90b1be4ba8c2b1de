import LabelPress.Proofs.Canvas.RoundedCorners
import LabelPress.Proofs.Interpreter.Parts
import LabelPress.Proofs.Text.Capital

/-! # What a box command draws

A box command reads four numbers and a letter. Whether the border fills the box is decided by
comparing its thickness with half of a side, and the radius of round corners is limited to half of
either side; halves are doubles exactly.

* `Measures`, `boxColor`: the numbers and the colour that parameters describe.
* `Box.ofParams_eq`: the box that is drawn for them.
* `perform_graphicBox_square`: without round corners, exactly the dots near a side.
* `perform_graphicBox_rounded`: with round corners, no gap between them and nothing outside, unless
  a border of no thickness goes astray. -/

namespace LabelPress.Interpreter

open Markup Text Effect

/-! ### Parameters -/

/-- **The numbers of a box**: width, height and thickness are one if they are missing or zero, and
the rounding is zero. -/
structure Measures (params : List Char) (width height thickness rounding : ℤ) : Prop where
  width_eq : leading params 0 1 = .ok width
  height_eq : leading params 1 1 = .ok height
  thickness_eq : leading params 2 1 = .ok thickness
  rounding_eq : leading params 4 0 = .ok rounding

/-- **The colour of a box**: white for the letter `W` in either case. -/
def boxColor (params : List Char) : UInt8 :=
  if part params 3 = ['W'] ∨ part params 3 = ['w'] then Canvas.white else Canvas.black

theorem letterIs_white_iff {params : List Char} :
    letterIs params 3 'B' 'W' = true ↔ part params 3 = ['W'] ∨ part params 3 = ['w'] := by
  have hlower : 'W'.toLower = 'w' := by decide
  have hupper := @upper_eq_singleton_iff 'W' (by decide) (by decide) (by decide) (part params 3)
  rw [hlower] at hupper
  unfold letterIs
  dsimp only
  rw [beq_iff_eq]
  by_cases hempty : part params 3 = []
  · rw [if_pos hempty, hempty]
    decide
  · rw [if_neg hempty, hupper]

theorem half_eq {n : ℤ} (h : 0 ≤ n ∧ n < 0x2000000) : half n = .ok ((n : ℚ) / 2) := by
  unfold half
  rw [Canvas.halfSide_eq h]
  rfl

/-- A radius that is limited to half of either side is a whole number of halves. -/
theorem lesser_radius (r w h : ℤ) :
    Canvas.lesser (r : ℚ) (Canvas.lesser ((w : ℚ) / 2) ((h : ℚ) / 2)) =
      ((min (2 * r) (min w h) : ℤ) : ℚ) / 2 := by
  have hdouble : (r : ℚ) = ((2 * r : ℤ) : ℚ) / 2 := by push_cast; ring
  rw [Canvas.lesser_half, hdouble, Canvas.lesser_half]

/-- **The box of given numbers.** -/
theorem Box.ofParams_eq {params : List Char} {w h t r : ℤ} (hm : Measures params w h t r)
    (hw : 0 ≤ w ∧ w < 0x2000000) (hh : 0 ≤ h ∧ h < 0x2000000) :
    Box.ofParams params = .ok {
      width := w
      height := h
      color := (boxColor params).toNat
      thickness := if min w h ≤ 2 * t then none else some t
      radius := if 0 < r then some (((min (2 * r) (min w h) : ℤ) : ℚ) / 2) else none } := by
  have hcolor : ((if letterIs params 3 'B' 'W' then Canvas.white else Canvas.black).toNat : ℤ) =
      (boxColor params).toNat := by
    unfold boxColor
    rw [if_congr letterIs_white_iff rfl rfl]
  have hsolid : ((min w h : ℤ) : ℚ) / 2 ≤ t ↔ min w h ≤ 2 * t := by
    rw [div_le_iff₀ (by norm_num), mul_comm (t : ℚ) 2]
    exact_mod_cast Iff.rfl
  unfold Box.ofParams
  rw [hm.width_eq, hm.height_eq, hm.thickness_eq, hm.rounding_eq]
  simp only [ok_bind, half_eq hw, half_eq hh, half_eq (n := min w h) (by omega), hcolor, hsolid,
    decide_eq_true_eq]
  by_cases hr : 0 < r
  · rw [if_pos hr, if_pos hr, lesser_radius]
    rfl
  · rw [if_neg hr, if_neg hr]
    rfl

/-! ### Commands -/

section
variable {params : List Char} {s : Session} {w h t r : ℤ}

/-- A box command draws its box, and nothing else changes. -/
theorem exists_perform_graphicBox (fonts : FontSource) {b : Box} {color : UInt8}
    {least most : Set (ℤ × ℤ)} (hb : Box.ofParams params = .ok b) (hcanvas : s.canvas.Possible)
    (hdraws : Canvas.Draws color least most (b.draw s.state.x s.state.y)) :
    ∃ d dots, (perform fonts .graphicBox params).run.run s = (.ok (), ⟨s.state, d⟩) ∧
      least ⊆ dots ∧ dots ⊆ most ∧ Canvas.Painted color dots s.canvas d := by
  obtain ⟨d, dots, hrun, hleast, hmost, hpainted⟩ := hdraws s.canvas hcanvas.height_lt
  refine ⟨d, dots, ?_, hleast, hmost, hpainted⟩
  have hperform : (perform fonts .graphicBox params).run.run s =
      (graphicBox params).run.run s := rfl
  have hdrawing : (drawing fonts s.state.pen .graphicBox params).run.run s.canvas =
      (.ok (), d) := by
    have hsketch : drawing fonts s.state.pen .graphicBox params =
        sketch (Box.ofParams params) (·.draw s.state.x s.state.y) := rfl
    have hok : (sketch (.ok b) (·.draw s.state.x s.state.y)).run.run s.canvas =
        ((((b.draw s.state.x s.state.y).run.run s.canvas).1).mapError .draw,
          ((b.draw s.state.x s.state.y).run.run s.canvas).2) := rfl
    rw [hsketch, hb, hok, hrun]
    rfl
  rw [hperform, run_graphicBox fonts, hdrawing]

/-- The dots of a box that are nearer than `t` to one of its four sides. -/
def nearDots (x y w h t : ℤ) : Set (ℤ × ℤ) :=
  {p | (x ≤ p.1 ∧ p.1 < x + w ∧ y ≤ p.2 ∧ p.2 < y + h) ∧
    min (min (p.1 - x) (x + w - 1 - p.1)) (min (p.2 - y) (y + h - 1 - p.2)) < t}

/-- A border that fills the box and one that does not paint by one rule. -/
theorem draws_nearDots {x y : ℤ} {color : UInt8}
    (hcorners : Canvas.Corners x y (x + w - 1) (y + h - 1)) (ht : 1 ≤ t) :
    Canvas.Draws color (nearDots x y w h t) (nearDots x y w h t)
      (Box.draw ⟨w, h, color.toNat, if min w h ≤ 2 * t then none else some t, none⟩ x y) := by
  have hcolumns := hcorners.columns
  have hrows := hcorners.rows
  by_cases hsolid : min w h ≤ 2 * t
  · rw [if_pos hsolid]
    refine (Canvas.draws_fillRect hcorners).mono ?_ ?_ <;> rintro ⟨i, j⟩ <;>
      simp only [nearDots, Canvas.mem_boxDots, Set.mem_ofPred_eq] <;> omega
  · have hfar : t < 0x1000000 := by
      have hwide := hcorners.width_lt
      omega
    rw [if_neg hsolid]
    refine (Canvas.draws_strokeRect hcorners hfar).mono ?_ ?_ <;> rintro ⟨i, j⟩ <;>
      simp only [nearDots, Canvas.borderDots, Canvas.columnDots, Set.mem_union,
        Set.mem_ofPred_eq] <;> omega

/-- **A box without round corners** paints the dots that are nearer than its thickness to one of its
four sides. -/
theorem perform_graphicBox_square (fonts : FontSource) (hm : Measures params w h t r)
    (hcorners : Canvas.Corners s.state.x s.state.y (s.state.x + w - 1) (s.state.y + h - 1))
    (ht : 1 ≤ t) (hr : r ≤ 0) (hcanvas : s.canvas.Possible) :
    ∃ d, (perform fonts .graphicBox params).run.run s = (.ok (), ⟨s.state, d⟩) ∧
      d.width = s.canvas.width ∧ d.height = s.canvas.height ∧
      ∀ i j, d.pixel? i j =
        if (s.state.x ≤ i ∧ i < s.state.x + w ∧ s.state.y ≤ j ∧ j < s.state.y + h) ∧
            min (min (i - s.state.x) (s.state.x + w - 1 - i))
              (min (j - s.state.y) (s.state.y + h - 1 - j)) < t then
          (s.canvas.pixel? i j).map fun _ => boxColor params
        else s.canvas.pixel? i j := by
  have hbox := Box.ofParams_eq hm hcorners.width_lt hcorners.height_lt
  rw [if_neg (not_lt.2 hr)] at hbox
  obtain ⟨d, dots, hrun, hleast, hmost, hpainted⟩ :=
    exists_perform_graphicBox fonts hbox hcanvas (draws_nearDots hcorners ht)
  refine ⟨d, hrun, hpainted.width_eq, hpainted.height_eq, fun i j => ?_⟩
  split_ifs with hnear
  · exact hpainted.of_mem (hleast hnear)
  · exact hpainted.of_notMem (mt (@hmost (i, j)) hnear)

/-- A border of two dots, cut off by the right edge of the canvas. -/
theorem perform_graphicBox_square_cut :
    ∃ d, (perform Font.blockSource .graphicBox "7,5,2".toList).run.run
        ⟨{ x := 3, y := 2 }, Canvas.blank 8 9⟩ = (.ok (), ⟨{ x := 3, y := 2 }, d⟩) ∧
      d.width = 8 ∧ d.height = 9 ∧
      ∀ i j, d.pixel? i j =
        if (3 ≤ i ∧ i < 3 + 7 ∧ 2 ≤ j ∧ j < 2 + 5) ∧
            min (min (i - 3) (3 + 7 - 1 - i)) (min (j - 2) (2 + 5 - 1 - j)) < 2 then
          ((Canvas.blank 8 9).pixel? i j).map fun _ => Canvas.black
        else (Canvas.blank 8 9).pixel? i j := by
  have hmeasures : Measures "7,5,2".toList 7 5 2 0 := ⟨rfl, rfl, rfl, rfl⟩
  exact @perform_graphicBox_square _ ⟨{ x := 3, y := 2 }, Canvas.blank 8 9⟩ 7 5 2 0
    Font.blockSource hmeasures (by constructor <;> decide) (by decide) (by decide)
    (Canvas.possible_blank (by decide) (by decide))

/-- How the box of a thickness is drawn. -/
def finish (w h t : ℤ) : Finish := Canvas.finishOf (if min w h ≤ 2 * t then none else some t)

theorem finish_of_solid (h' : min w h ≤ 2 * t) : finish w h t = .filled := by
  rw [finish, if_pos h']
  rfl

theorem finish_of_border (h' : 2 * t < min w h) : finish w h t = .outlined (max 1 t) := by
  rw [finish, if_neg (not_le.2 h')]
  rfl

theorem draws_roundedDots {x y : ℤ} {color : UInt8}
    (hcorners : Canvas.Corners x y (x + w - 1) (y + h - 1)) (hr : 0 < r) :
    Canvas.Draws color
      (Canvas.roundedDots (finish w h t) x y (x + w - 1) (y + h - 1) (min (2 * r) (min w h)) ∪
        Canvas.strayDots (finish w h t) x y (x + w - 1) (y + h - 1))
      (Canvas.boxDots x y (x + w - 1) (y + h - 1) ∪
        Canvas.strayDots (finish w h t) x y (x + w - 1) (y + h - 1))
      (Box.draw ⟨w, h, color.toNat, if min w h ≤ 2 * t then none else some t,
        some (((min (2 * r) (min w h) : ℤ) : ℚ) / 2)⟩ x y) := by
  have hcolumns := hcorners.columns
  have hrows := hcorners.rows
  refine Canvas.draws_roundedRect hcorners ?_ hr rfl
  split_ifs with hsolid
  · trivial
  · refine ⟨?_, ?_, ?_⟩ <;> omega

/-- A column, or a row, that lies strictly between round corners. -/
def Between (n size : ℤ) (radius : ℚ) (k : ℤ) : Prop :=
  (n : ℚ) + radius < k ∧ (k : ℚ) < n + size - 1 - radius

theorem between_half_iff {n size m k : ℤ} :
    Between n size ((m : ℚ) / 2) k ↔ m < 2 * (k - n) ∧ m < 2 * (n + size - 1 - k) := by
  have hlow : (n : ℚ) + m / 2 < k ↔ (m : ℚ) < 2 * (k - n) := by
    constructor <;> intro h <;> linarith
  have hhigh : (k : ℚ) < n + size - 1 - m / 2 ↔ (m : ℚ) < 2 * (n + size - 1 - k) := by
    constructor <;> intro h <;> linarith
  unfold Between
  rw [hlow, hhigh]
  exact_mod_cast Iff.rfl

section
variable {x y i j : ℤ}

theorem mem_strayDots_finish (hw : 1 ≤ w) :
    (i, j) ∈ Canvas.strayDots (finish w h t) x y (x + w - 1) (y + h - 1) ↔
      h = 1 ∧ 3 ≤ w ∧ t < 1 ∧ j = y + 1 ∧ (i = x ∨ i = x + w - 1) := by
  rcases le_or_gt (min w h) (2 * t) with hsolid | hborder
  · rw [finish_of_solid hsolid]
    simp only [Canvas.mem_strayDots, ne_eq, not_true, false_and, false_iff]
    omega
  · rw [finish_of_border hborder]
    simp only [Canvas.mem_strayDots, ne_eq, reduceCtorEq, not_false_iff, true_and]
    omega

/-- All columns and rows between the corners of a solid box. -/
theorem mem_roundedDots_of_solid (hsolid : min w h ≤ 2 * t)
    (hin : x ≤ i ∧ i < x + w ∧ y ≤ j ∧ j < y + h) {m : ℤ}
    (hbetween : Between x w ((m : ℚ) / 2) i ∨ Between y h ((m : ℚ) / 2) j) :
    (i, j) ∈ Canvas.roundedDots (finish w h t) x y (x + w - 1) (y + h - 1) m := by
  rw [between_half_iff, between_half_iff] at hbetween
  rw [finish_of_solid hsolid]
  refine ⟨by rw [Canvas.mem_boxDots]; omega, ?_⟩
  exact hbetween.imp (fun hcolumn => ⟨hcolumn.1, hcolumn.2, trivial⟩)
    (fun hrow => ⟨hrow.1, hrow.2, trivial⟩)

/-- The columns and rows between the corners of a border, as far as it is thick. -/
theorem mem_roundedDots_of_border (hborder : 2 * t < min w h) (hthick : 1 ≤ t)
    (hin : x ≤ i ∧ i < x + w ∧ y ≤ j ∧ j < y + h) {m : ℤ}
    (hbetween : Between x w ((m : ℚ) / 2) i ∧ min (j - y) (y + h - 1 - j) < t ∨
      Between y h ((m : ℚ) / 2) j ∧ min (i - x) (x + w - 1 - i) < t) :
    (i, j) ∈ Canvas.roundedDots (finish w h t) x y (x + w - 1) (y + h - 1) m := by
  rw [between_half_iff, between_half_iff] at hbetween
  rw [finish_of_border hborder, max_eq_right hthick]
  refine ⟨by rw [Canvas.mem_boxDots]; omega, ?_⟩
  simp only [Finish.mem_rim_outlined]
  omega

end

/-- **A box with round corners** has no gap between them: if it is solid, all columns and all rows
between corners are covered, and if it is not, as much of them as the border is thick. It changes
nothing outside but for one case: a border of negative thickness, which is drawn one dot thick, in a
box of one row and at least three columns goes astray below both ends of the row. -/
theorem perform_graphicBox_rounded (fonts : FontSource) (hm : Measures params w h t r)
    (hcorners : Canvas.Corners s.state.x s.state.y (s.state.x + w - 1) (s.state.y + h - 1))
    (hr : 0 < r) (hcanvas : s.canvas.Possible) :
    let radius : ℚ := min (r : ℚ) (min ((w : ℚ) / 2) ((h : ℚ) / 2))
    let inside (i j : ℤ) :=
      s.state.x ≤ i ∧ i < s.state.x + w ∧ s.state.y ≤ j ∧ j < s.state.y + h
    let astray (i j : ℤ) :=
      h = 1 ∧ 3 ≤ w ∧ t < 1 ∧ j = s.state.y + 1 ∧ (i = s.state.x ∨ i = s.state.x + w - 1)
    ∃ d, (perform fonts .graphicBox params).run.run s = (.ok (), ⟨s.state, d⟩) ∧
      d.width = s.canvas.width ∧ d.height = s.canvas.height ∧
      (∀ i j, d.pixel? i j ≠ s.canvas.pixel? i j →
        d.pixel? i j = some (boxColor params) ∧ (inside i j ∨ astray i j)) ∧
      (∀ i j, astray i j → d.pixel? i j = (s.canvas.pixel? i j).map fun _ => boxColor params) ∧
      (min w h ≤ 2 * t → ∀ i j, inside i j →
        Between s.state.x w radius i ∨ Between s.state.y h radius j →
        d.pixel? i j = (s.canvas.pixel? i j).map fun _ => boxColor params) ∧
      (2 * t < min w h → 1 ≤ t → ∀ i j, inside i j →
        Between s.state.x w radius i ∧ min (j - s.state.y) (s.state.y + h - 1 - j) < t ∨
          Between s.state.y h radius j ∧ min (i - s.state.x) (s.state.x + w - 1 - i) < t →
        d.pixel? i j = (s.canvas.pixel? i j).map fun _ => boxColor params) := by
  intro radius inside astray
  have hwide : 1 ≤ w := by
    have hcolumns := hcorners.columns
    omega
  have hradius : radius = ((min (2 * r) (min w h) : ℤ) : ℚ) / 2 := by
    rw [← lesser_radius, Canvas.lesser_eq_min, Canvas.lesser_eq_min]
  have hbox := Box.ofParams_eq hm hcorners.width_lt hcorners.height_lt
  rw [if_pos hr] at hbox
  obtain ⟨d, dots, hrun, hleast, hmost, hpainted⟩ :=
    exists_perform_graphicBox fonts hbox hcanvas (draws_roundedDots hcorners hr)
  refine ⟨d, hrun, hpainted.width_eq, hpainted.height_eq, fun i j hchange => ?_, fun i j hin => ?_,
    fun hsolid i j hin hbetween => ?_, fun hborder hthick i j hin hbetween => ?_⟩
  · obtain ⟨hcolor, hdots⟩ := hpainted.of_ne hchange
    refine ⟨hcolor, (hmost hdots).imp (fun hbox => ?_) (mem_strayDots_finish hwide).1⟩
    rw [Canvas.mem_boxDots] at hbox
    dsimp only [inside]
    omega
  · exact hpainted.of_mem (hleast (.inr ((mem_strayDots_finish hwide).2 hin)))
  · rw [hradius] at hbetween
    exact hpainted.of_mem (hleast (.inl (mem_roundedDots_of_solid hsolid hin hbetween)))
  · rw [hradius] at hbetween
    exact hpainted.of_mem (hleast (.inl (mem_roundedDots_of_border hborder hthick hin hbetween)))

/-- A white border of two dots with round corners, between which the second row is white. -/
theorem perform_graphicBox_rounded_border :
    ∃ d, (perform Font.blockSource .graphicBox "9,6,2,W,2".toList).run.run
        ⟨{ x := 1, y := 1 }, Canvas.blank 12 8⟩ = (.ok (), ⟨{ x := 1, y := 1 }, d⟩) ∧
      d.pixel? 5 2 = some Canvas.white := by
  have hmeasures : Measures "9,6,2,W,2".toList 9 6 2 2 := ⟨rfl, rfl, rfl, rfl⟩
  obtain ⟨d, hrun, -, -, -, -, -, hborder⟩ :=
    @perform_graphicBox_rounded _ ⟨{ x := 1, y := 1 }, Canvas.blank 12 8⟩ 9 6 2 2
      Font.blockSource hmeasures (by constructor <;> decide) (by decide)
      (Canvas.possible_blank (by decide) (by decide))
  refine ⟨d, hrun, ?_⟩
  have hpixel := hborder (by decide) (by decide) 5 2 (by decide) (.inl ⟨?_, by decide⟩)
  · exact hpixel
  · constructor <;> norm_num

/-- **A border of negative thickness goes astray** in a box of one row: the dot below its left end
becomes black. -/
theorem perform_graphicBox_astray :
    Measures "3,1,-1,B,1".toList 3 1 (-1) 1 ∧
    ∃ d, (perform Font.blockSource .graphicBox "3,1,-1,B,1".toList).run.run
        ⟨{}, Canvas.blank 4 3⟩ = (.ok (), ⟨{}, d⟩) ∧
      d.pixel? 0 1 ≠ (Canvas.blank 4 3).pixel? 0 1 ∧
      ¬((0 : ℤ) ≤ 0 ∧ (0 : ℤ) < 0 + 3 ∧ (0 : ℤ) ≤ 1 ∧ (1 : ℤ) < 0 + 1) := by
  have hmeasures : Measures "3,1,-1,B,1".toList 3 1 (-1) 1 := ⟨rfl, rfl, rfl, rfl⟩
  have hcorners : Canvas.Corners 0 0 (0 + 3 - 1) (0 + 1 - 1) := by constructor <;> decide
  have hbox := Box.ofParams_eq hmeasures hcorners.width_lt hcorners.height_lt
  rw [if_pos (by decide : (0 : ℤ) < 1)] at hbox
  have hdraws := @draws_roundedDots 3 1 (-1) 1 0 0 (boxColor "3,1,-1,B,1".toList) hcorners one_pos
  obtain ⟨d, dots, hrun, hleast, -, hpainted⟩ :=
    @exists_perform_graphicBox _ ⟨{}, Canvas.blank 4 3⟩ Font.blockSource _ _ _ _ hbox
      (Canvas.possible_blank (by decide) (by decide)) hdraws
  refine ⟨hmeasures, d, hrun, ?_, by decide⟩
  have hstray : (0, 1) ∈ Canvas.strayDots (finish 3 1 (-1)) 0 0 (0 + 3 - 1) (0 + 1 - 1) := by
    rw [finish_of_border (by decide)]
    simp
  rw [hpainted.of_mem (hleast (.inr hstray))]
  decide

end

end LabelPress.Interpreter
