import LabelPress.Proofs.Canvas.Turning
import LabelPress.Proofs.Number.Grid

/-!
# Reversed text

Reversed text is laid out like plain text, with a black box behind it that covers the text and its
margin. Through the mask of a letter white is laid over black as black is over white, so inside the
box the reversed text is the negative of the plain one; what hangs out of the box is white on white.

* `blend_swap`, `blend_white`: a mask between black and white, and between white and white.
* `TextLayout.ofText_reverse`: the layout of reversed text beside that of plain text.
* `textBox`, `reverseBox`: the text with its margin, and how far the box behind it reaches.
* `TextLayout.tint_reverse`: one dot of either drawing.
* `drawText_reverse_eq_negative`: the same text drawn plain and reversed.
-/

namespace LabelPress

namespace Canvas

section
variable (m : UInt8)

/-- What is laid over a dot comes to the mean in numbers. -/
theorem blend_eq_of_mean {m a b c : UInt8} (h : ((a.toNat * (255 - m.toNat) + b.toNat * m.toNat +
    128) / 256 + (a.toNat * (255 - m.toNat) + b.toNat * m.toNat + 128)) / 256 = c.toNat) :
    blend m a b = c := by
  unfold blend
  simp only [Nat.shiftRight_eq_div_pow]
  exact (congrArg UInt8.ofNat h).trans UInt8.ofNat_toNat

/-- White over black is the mask itself. -/
theorem blend_black_white : blend m black white = m := by
  have hm := m.toNat_lt
  refine blend_eq_of_mean ?_
  simp only [black, white, UInt8.toNat_ofNat]
  omega

theorem toNat_negative : (255 - m).toNat = 255 - m.toNat :=
  UInt8.toNat_sub_of_le _ _ (UInt8.le_iff_toNat_le.2 (Nat.le_of_lt_succ m.toNat_lt))

/-- Black over white is the negative of the mask. -/
theorem blend_white_black : blend m white black = 255 - m := by
  have hm := m.toNat_lt
  refine blend_eq_of_mean ?_
  rw [toNat_negative]
  simp only [black, white, UInt8.toNat_ofNat]
  omega

/-- White over white is white. -/
theorem blend_white : blend m white white = white := by
  have hm := m.toNat_lt
  refine blend_eq_of_mean ?_
  simp only [white, UInt8.toNat_ofNat]
  omega

/-- Black and white trade places under any mask. -/
theorem blend_swap : blend m black white = 255 - blend m white black := by
  have hm := m.toNat_lt
  rw [blend_black_white, blend_white_black, ← UInt8.toNat_inj, toNat_negative, toNat_negative]
  omega

end

end Canvas

/-- The offsets from the corner of a text that the text and its margin cover. -/
def textBox (width height : Int) : Region :=
  ⟨-textMargin, -textMargin, width + textMargin, height + textMargin⟩

/-- Two chains with one beginning. -/
theorem exists_of_binds_eq_ok {ε α β : Type} {r : Except ε α} {f g : α → Except ε β} {b c : β}
    (hf : (r >>= f) = .ok b) (hg : (r >>= g) = .ok c) :
    ∃ a, r = .ok a ∧ f a = .ok b ∧ g a = .ok c := by
  obtain ⟨a, ha, hf⟩ := exists_of_bind_eq_ok hf
  rw [ha] at hg
  exact ⟨a, ha, hf, hg⟩

/-- Two chains that begin in one of two ways, both in the same. -/
theorem exists_of_ite_binds_eq_ok {ε α β : Type} {p : Prop} [Decidable p] {r r' : Except ε α}
    {f g : α → Except ε β} {b c : β} (hf : (if p then r >>= f else r' >>= f) = .ok b)
    (hg : (if p then r >>= g else r' >>= g) = .ok c) : ∃ a, f a = .ok b ∧ g a = .ok c := by
  split_ifs at hf hg
  · obtain ⟨a, -, h⟩ := exists_of_binds_eq_ok hf hg
    exact ⟨a, h⟩
  · obtain ⟨a, -, h⟩ := exists_of_binds_eq_ok hf hg
    exact ⟨a, h⟩

/-- The ink of a text has at least the nominal rows. -/
theorem le_of_inkHeightOf {font : Font} {text : List Char} {height rows : Int}
    (h : inkHeightOf font text height = .ok rows) : height ≤ rows := by
  unfold inkHeightOf at h
  split_ifs at h
  · cases h
    rfl
  · obtain ⟨bottom, -, h⟩ := exists_of_bind_eq_ok h
    obtain ⟨row, -, h⟩ := exists_of_bind_eq_ok h
    cases h
    exact le_max_left ..

namespace TextLayout

/-- **How far the box behind a text reaches**: to its last column and its last row as dots, and not
beyond the tile. -/
def reverseBox (layout : TextLayout) (height : Int) : Region where
  left := -textMargin
  top := -textMargin
  right := min layout.text.width (dotOf (layout.width + 2 * textMargin - 1) + 1) - textMargin
  bottom := min layout.text.height (max 0 (dotOf (height + 2 * textMargin - 1)) + 1) - textMargin

/-- **Reversed text is laid out like plain text**, with a box behind it. -/
theorem ofText_reverse {fonts : FontSource} {text : List Char} {style : TextStyle}
    {plain reversed : TextLayout}
    (hplain : ofText fonts text { style with reverse := false } = .ok plain)
    (hreversed : ofText fonts text { style with reverse := true } = .ok reversed) :
    plain.box = none ∧ plain.text.width = plain.width + 2 * textMargin ∧
      style.height + 2 * textMargin ≤ plain.text.height ∧
      checkBox (plain.width + 2 * textMargin - 1) (style.height + 2 * textMargin - 1) = .ok () ∧
      reversed = { plain with
        box := some (boxTile (plain.width + 2 * textMargin - 1) (style.height + 2 * textMargin - 1)
          plain.text.width plain.text.height) } := by
  unfold ofText at hplain hreversed
  obtain ⟨font, -, hplain, hreversed⟩ := exists_of_binds_eq_ok hplain hreversed
  obtain ⟨natural, -, hplain, hreversed⟩ := exists_of_binds_eq_ok hplain hreversed
  obtain ⟨width, -, hplain, hreversed⟩ := exists_of_binds_eq_ok hplain hreversed
  obtain ⟨rows, hrows, hplain, hreversed⟩ := exists_of_binds_eq_ok hplain hreversed
  have hink := le_of_inkHeightOf hrows
  dsimp only at hplain hreversed hink
  obtain ⟨-, -, hplain, hreversed⟩ := exists_of_binds_eq_ok hplain hreversed
  obtain ⟨glyphs, hplain, hreversed⟩ := exists_of_ite_binds_eq_ok hplain hreversed
  cases hplain
  obtain ⟨_, hcheck, hreversed⟩ := exists_of_bind_eq_ok hreversed
  cases hreversed
  refine ⟨rfl, rfl, ?_, hcheck, rfl⟩
  dsimp only [textTile]
  omega

/-- What does not lie after the first dot is rounded to what does not. -/
theorem nearestSingle_nonpos {n : Int} (h : n ≤ 0) : nearestSingle n ≤ 0 := by
  unfold nearestSingle
  split_ifs
  · exact h
  · generalize 1 <<< (n.natAbs.log2 - 23) = unit
    have hquotient : (n : ℚ) / ((unit : Int) : ℚ) ≤ (0 : Int) := by
      rw [Int.cast_zero, Int.cast_natCast]
      exact div_nonpos_of_nonpos_of_nonneg (by exact_mod_cast h) (Nat.cast_nonneg unit)
    exact mul_nonpos_of_nonpos_of_nonneg (Binary64.roundHalfEven_le hquotient)
      (Int.natCast_nonneg unit)

/-- The last row of a box that is a dot is not before the first one. -/
theorem nonneg_of_checkBox {right bottom : Int} (hcheck : checkBox right bottom = .ok ())
    (hdot : dotOf bottom = bottom) : 0 ≤ bottom := by
  have hsurface : 0 ≤ surfaceOf bottom := by
    by_contra hneg
    have hneg : surfaceOf bottom < 0 := by omega
    unfold checkBox at hcheck
    rw [if_pos hneg] at hcheck
    split_ifs at hcheck <;> cases hcheck
  by_contra hbottom
  have hcount : countOf (surfaceOf bottom) = bottom := hdot
  unfold countOf at hcount
  split_ifs at hcount with hfar
  · have hround := nearestSingle_nonpos (show bottom ≤ 0 by omega)
    unfold surfaceOf at hfar hsurface
    unfold leastWord at hfar
    split_ifs at hfar hsurface <;> omega
  · omega

/-- A box whose last column and row are dots covers the text and all of its margin. -/
theorem reverseBox_eq_textBox {layout : TextLayout} {height : Int}
    (hwidth : layout.text.width = layout.width + 2 * textMargin)
    (hheight : height + 2 * textMargin ≤ layout.text.height)
    (hcheck : checkBox (layout.width + 2 * textMargin - 1) (height + 2 * textMargin - 1) = .ok ())
    (hright : dotOf (layout.width + 2 * textMargin - 1) = layout.width + 2 * textMargin - 1)
    (hbottom : dotOf (height + 2 * textMargin - 1) = height + 2 * textMargin - 1) :
    layout.reverseBox height = textBox layout.width height := by
  have hrow := nonneg_of_checkBox hcheck hbottom
  unfold reverseBox textBox
  rw [hright, hbottom, hwidth]
  simp only [Region.mk.injEq, true_and]
  omega

section
variable {layout : TextLayout} {height : Int}

theorem contains_reverseBox_iff {dx dy : Int} :
    (layout.reverseBox height).contains dx dy = true ↔
      layout.text.Covers (dx + textMargin) (dy + textMargin) ∧
        dx + textMargin ≤ dotOf (layout.width + 2 * textMargin - 1) ∧
        dy + textMargin ≤ max 0 (dotOf (height + 2 * textMargin - 1)) := by
  simp only [Region.contains, Bool.and_eq_true, decide_eq_true_eq]
  unfold Tile.Covers
  dsimp only [reverseBox]
  omega

/-- The box behind the text is full as far as it reaches. -/
theorem mask_boxTile {dx dy : Int} (h : layout.text.Covers (dx + textMargin) (dy + textMargin)) :
    (boxTile (layout.width + 2 * textMargin - 1) (height + 2 * textMargin - 1)
      layout.text.width layout.text.height).mask (dx + textMargin) (dy + textMargin) =
        if (layout.reverseBox height).contains dx dy then 255 else 0 := by
  have hiff := @contains_reverseBox_iff layout height dx dy
  unfold Tile.Covers at h hiff
  dsimp only [boxTile]
  exact if_congr (by rw [hiff]; omega) rfl rfl

/-- **One dot of either drawing**, on white: in the box one is the negative of the other, and
outside the reversed one is white. -/
theorem tint_reverse (height : Int) (hbox : layout.box = none) (dx dy : Int) :
    tint { layout with
      box := some (boxTile (layout.width + 2 * textMargin - 1) (height + 2 * textMargin - 1)
        layout.text.width layout.text.height) } dx dy Canvas.white =
      if (layout.reverseBox height).contains dx dy then 255 - layout.tint dx dy Canvas.white
      else Canvas.white := by
  have hplain : layout.tint dx dy Canvas.white =
      layout.text.tint Canvas.black (dx + textMargin) (dy + textMargin) Canvas.white := by
    unfold tint
    rw [hbox]
  rw [hplain]
  dsimp only [tint]
  by_cases hcovers : layout.text.Covers (dx + textMargin) (dy + textMargin)
  · have hfull : Canvas.blend 255 Canvas.white Canvas.black = Canvas.black := by decide
    have hempty : Canvas.blend 0 Canvas.white Canvas.black = Canvas.white := by decide
    have hboxed : (boxTile (layout.width + 2 * textMargin - 1) (height + 2 * textMargin - 1)
        layout.text.width layout.text.height).Covers (dx + textMargin) (dy + textMargin) := hcovers
    simp only [Tile.tint, if_pos hcovers, if_pos hboxed, mask_boxTile hcovers]
    split_ifs
    · rw [hfull, Canvas.blend_swap]
    · rw [hempty, Canvas.blend_white]
  · have hout : ¬ (layout.reverseBox height).contains dx dy = true :=
      mt (fun h => (contains_reverseBox_iff.1 h).1) hcovers
    have hboxed : ¬ (boxTile (layout.width + 2 * textMargin - 1) (height + 2 * textMargin - 1)
        layout.text.width layout.text.height).Covers (dx + textMargin) (dy + textMargin) := hcovers
    simp only [Tile.tint, if_neg hcovers, if_neg hboxed, if_neg hout]

end

end TextLayout

/-- Every point is where the turn takes some offset. -/
theorem Turn.exists_about (turn : Turn) (x y i j : Int) :
    ∃ dx dy, turn.about x y dx dy = (i, j) := by
  cases turn
  case none => exact ⟨i - x, j - y, Prod.ext (add_sub_cancel x i) (add_sub_cancel y j)⟩
  case quarter => exact ⟨j - y, x - i, Prod.ext (sub_sub_cancel x i) (add_sub_cancel y j)⟩
  case half => exact ⟨x - i, y - j, Prod.ext (sub_sub_cancel x i) (sub_sub_cancel y j)⟩
  case threeQuarters => exact ⟨y - j, i - x, Prod.ext (add_sub_cancel x i) (sub_sub_cancel y j)⟩

namespace Canvas
variable {fonts : FontSource} {text : List Char} {style : TextStyle} {x y : Int} {c c' : Canvas}
  {size size' : Int × Int} {width height : Nat}

theorem eq_white_of_pixel?_blank {i j : Int} {gray : UInt8}
    (h : (blank width height).pixel? i j = some gray) : gray = white := by
  by_cases hin : 0 ≤ i ∧ i < width ∧ 0 ≤ j ∧ j < height
  · rw [pixel?_blank hin] at h
    exact (Option.some.inj h).symm
  · rw [pixel?_eq_none (c := blank width height) hin] at h
    cases h

/-- **Reversed text is the negative of plain text.** Where a text is drawn plain on one white canvas
and reversed on another of the same size, the box behind the reversed one reaches to the last column
and row of the text and its margin as the canvas counts them, turned about the corner of the text.
In the box one drawing is the negative of the other, and outside the reversed one is white. A box
whose last column and row the canvas counts as they are is that of the text and its margin. -/
theorem drawText_reverse_eq_negative
    (hplain : (drawText fonts text x y { style with reverse := false }).run.run
      (blank width height) = (.ok size, c))
    (hreversed : (drawText fonts text x y { style with reverse := true }).run.run
      (blank width height) = (.ok size', c')) :
    size' = size ∧ ∃ layout turn,
      TextLayout.ofText fonts text { style with reverse := false } = .ok layout ∧
      Turn.ofDegrees? style.rotation = .ok turn ∧
      (∀ dx dy, (layout.reverseBox style.height).contains dx dy = true →
        c'.pixel? (turn.about x y dx dy).1 (turn.about x y dx dy).2 =
          (c.pixel? (turn.about x y dx dy).1 (turn.about x y dx dy).2).map (255 - ·)) ∧
      (∀ i j, (∀ dx dy, (layout.reverseBox style.height).contains dx dy = true →
          turn.about x y dx dy ≠ (i, j)) →
        c'.pixel? i j = (blank width height).pixel? i j) ∧
      (dotOf (size.1 + 2 * textMargin - 1) = size.1 + 2 * textMargin - 1 →
        dotOf (style.height + 2 * textMargin - 1) = style.height + 2 * textMargin - 1 →
        layout.reverseBox style.height = textBox size.1 size.2) := by
  obtain ⟨layout, turn, hlayout, hturn, rfl, rfl⟩ := run_drawText_eq_ok hplain
  obtain ⟨layout', turn', hlayout', hturn', rfl, rfl⟩ := run_drawText_eq_ok hreversed
  obtain rfl : turn' = turn := Except.ok.inj (hturn'.symm.trans hturn)
  have hmatched := TextLayout.matched_of_ofText hlayout
  have hmatched' := TextLayout.matched_of_ofText hlayout'
  obtain ⟨hbox, hwidth, hheight, hcheck, rfl⟩ := TextLayout.ofText_reverse hlayout hlayout'
  refine ⟨rfl, layout, turn', hlayout, hturn, fun dx dy hin => ?_, fun i j hout => ?_,
    TextLayout.reverseBox_eq_textBox hwidth hheight hcheck⟩
  · have hdot := TextLayout.tint_reverse style.height hbox dx dy
    rw [if_pos hin] at hdot
    rw [pixel?_stencilText _ hmatched', pixel?_stencilText _ hmatched, Option.map_map]
    refine Option.map_congr fun gray hgray => ?_
    rw [eq_white_of_pixel?_blank hgray, hdot]
    rfl
  · obtain ⟨dx, dy, hplace⟩ := turn'.exists_about x y i j
    have hdot := TextLayout.tint_reverse style.height hbox dx dy
    rw [if_neg fun hin => hout dx dy hin hplace] at hdot
    have hpixel := pixel?_stencilText (blank width height) hmatched' turn' x y dx dy
    rw [hplace] at hpixel
    have hwhite : ((blank width height).pixel? i j).map
        (TextLayout.tint { layout with box := some (boxTile (layout.width + 2 * textMargin - 1)
          (style.height + 2 * textMargin - 1) layout.text.width layout.text.height) } dx dy) =
        ((blank width height).pixel? i j).map id := by
      refine Option.map_congr fun gray hgray => ?_
      rw [eq_white_of_pixel?_blank hgray]
      exact hdot
    rw [hpixel, hwhite, Option.map_id_apply]

/-- A letter four dots high, turned by a quarter. -/
theorem drawText_reverse_letter :
    ∃ c c' : Canvas,
      (drawText Font.blockSource ['A'] 9 2 ⟨['0'], 4, none, 90, false⟩).run.run (blank 13 10) =
        (.ok (4, 4), c) ∧
      (drawText Font.blockSource ['A'] 9 2 ⟨['0'], 4, none, 90, true⟩).run.run (blank 13 10) =
        (.ok (4, 4), c') ∧
      (∀ dx dy, (textBox 4 4).contains dx dy = true →
        c'.pixel? (9 - dy) (2 + dx) = (c.pixel? (9 - dy) (2 + dx)).map (255 - ·)) ∧
      (∀ i j, (∀ dx dy, (textBox 4 4).contains dx dy = true → (9 - dy, 2 + dx) ≠ (i, j)) →
        c'.pixel? i j = (blank 13 10).pixel? i j) := by
  have hplain : ((drawText Font.blockSource ['A'] 9 2 ⟨['0'], 4, none, 90, false⟩).run.run
      (blank 13 10)).1 = .ok (4, 4) := by decide +kernel
  have hreversed : ((drawText Font.blockSource ['A'] 9 2 ⟨['0'], 4, none, 90, true⟩).run.run
      (blank 13 10)).1 = .ok (4, 4) := by decide +kernel
  obtain ⟨-, layout, turn, -, hturn, hin, hout, hbox⟩ :=
    @drawText_reverse_eq_negative _ _ ⟨['0'], 4, none, 90, true⟩ _ _ _ _ _ _ _ _
      (Prod.fst_eq_iff.1 hplain) (Prod.fst_eq_iff.1 hreversed)
  obtain rfl : Turn.quarter = turn := Except.ok.inj hturn
  rw [hbox (dotOf_of_small (by decide)) (dotOf_of_small (by decide))] at hin hout
  exact ⟨_, _, Prod.fst_eq_iff.1 hplain, Prod.fst_eq_iff.1 hreversed, hin, hout⟩

/-- **The last column of a box can be lost.** Of a letter that is stretched to 16777214 dots the
last column of the margin is no dot, and there the reversed drawing is white like the plain one. -/
theorem drawText_reverse_last_column :
    ∃ c c' : Canvas,
      (drawText Font.blockSource ['A'] (-16777214) 2
        ⟨['0'], 1, some 16777214, 0, false⟩).run.run (blank 4 4) = (.ok (16777214, 1), c) ∧
      (drawText Font.blockSource ['A'] (-16777214) 2
        ⟨['0'], 1, some 16777214, 0, true⟩).run.run (blank 4 4) = (.ok (16777214, 1), c') ∧
      (textBox 16777214 1).contains 16777215 0 = true ∧
      c'.pixel? (-16777214 + 16777215) (2 + 0) ≠
        (c.pixel? (-16777214 + 16777215) (2 + 0)).map (255 - ·) := by
  have hplain : ((drawText Font.blockSource ['A'] (-16777214) 2
      ⟨['0'], 1, some 16777214, 0, false⟩).run.run (blank 4 4)).1 = .ok (16777214, 1) := by
    decide +kernel
  have hreversed : ((drawText Font.blockSource ['A'] (-16777214) 2
      ⟨['0'], 1, some 16777214, 0, true⟩).run.run (blank 4 4)).1 = .ok (16777214, 1) := by
    decide +kernel
  refine ⟨_, _, Prod.fst_eq_iff.1 hplain, Prod.fst_eq_iff.1 hreversed, by decide, ?_⟩
  decide +kernel

end Canvas

end LabelPress
