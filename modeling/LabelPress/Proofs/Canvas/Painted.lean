import LabelPress.Proofs.Canvas.Related
import Mathlib.Data.Set.Basic

/-! # What a drawing paints

A shape in one colour is known by its dots: these have the colour afterwards, and all others are as
they were. Some shapes are known only roughly, by dots that they paint for certain and dots beyond
which they do not go; several shapes drawn in turn paint the dots of all of them.

* `Painted`: one canvas is the other with a set of dots in one colour.
* `Possible`: a canvas of a size that canvases can have.
* `Draws`: a drawing succeeds, and paints at least one set of dots and at most another.
* `Corners`: two corners of a box that the canvas takes as they are.
* `draws_fillBox`, `draws_strokeBox`: the dots of a box and of a border. A border is drawn in rows
  and columns, and the columns go from the rows at the top towards those at the bottom; in a box
  that is too low for both these lie behind each other, and the columns leave the box. -/

namespace LabelPress

/-- The dots of a region. -/
def Region.dots (r : Region) : Set (ℤ × ℤ) :=
  {p | r.left ≤ p.1 ∧ p.1 < r.right ∧ r.top ≤ p.2 ∧ p.2 < r.bottom}

theorem Region.contains_iff {r : Region} {i j : ℤ} : r.contains i j = true ↔ (i, j) ∈ r.dots := by
  simp only [Region.contains, Bool.and_eq_true, decide_eq_true_eq, Region.dots, Set.mem_ofPred_eq,
    and_assoc]

namespace Canvas

/-- **One colour on a set of dots**: the second canvas is the first one with these dots painted. -/
structure Painted (color : UInt8) (dots : Set (ℤ × ℤ)) (c d : Canvas) : Prop where
  width_eq : d.width = c.width
  height_eq : d.height = c.height
  of_mem : ∀ {i j : ℤ}, (i, j) ∈ dots → d.pixel? i j = (c.pixel? i j).map fun _ => color
  of_notMem : ∀ {i j : ℤ}, (i, j) ∉ dots → d.pixel? i j = c.pixel? i j

section Painted
variable {color : UInt8} {s t : Set (ℤ × ℤ)} {c d e : Canvas}

theorem Painted.refl (c : Canvas) : Painted color ∅ c c where
  width_eq := rfl
  height_eq := rfl
  of_mem h := h.elim
  of_notMem _ := rfl

theorem Painted.trans (h : Painted color s c d) (h' : Painted color t d e) :
    Painted color (s ∪ t) c e where
  width_eq := h'.width_eq.trans h.width_eq
  height_eq := h'.height_eq.trans h.height_eq
  of_mem {i j} hmem := by
    by_cases ht : (i, j) ∈ t
    · rw [h'.of_mem ht]
      by_cases hs : (i, j) ∈ s
      · rw [h.of_mem hs, Option.map_map]
        rfl
      · rw [h.of_notMem hs]
    · rw [h'.of_notMem ht, h.of_mem (hmem.resolve_right ht)]
  of_notMem {i j} hout := by
    rw [h'.of_notMem fun ht => hout (.inr ht), h.of_notMem fun hs => hout (.inl hs)]

/-- A dot that is not as it was has the colour. -/
theorem Painted.of_ne (h : Painted color s c d) {i j : ℤ} (hne : d.pixel? i j ≠ c.pixel? i j) :
    d.pixel? i j = some color ∧ (i, j) ∈ s := by
  have hs : (i, j) ∈ s := by
    by_contra hs
    exact hne (h.of_notMem hs)
  have hpixel := h.of_mem hs
  refine ⟨?_, hs⟩
  cases hgray : c.pixel? i j with
  | none =>
    rw [hgray] at hpixel
    exact absurd (hpixel.trans hgray.symm) hne
  | some gray =>
    rw [hpixel, hgray]
    rfl

/-- Only dots on the canvas matter. -/
theorem Painted.congr (h : Painted color s c d)
    (hst : ∀ i j : ℤ, 0 ≤ i ∧ i < c.width ∧ 0 ≤ j ∧ j < c.height → ((i, j) ∈ s ↔ (i, j) ∈ t)) :
    Painted color t c d where
  width_eq := h.width_eq
  height_eq := h.height_eq
  of_mem {i j} ht := by
    by_cases hin : 0 ≤ i ∧ i < c.width ∧ 0 ≤ j ∧ j < c.height
    · exact h.of_mem ((hst i j hin).2 ht)
    · have hout : ¬(0 ≤ i ∧ i < d.width ∧ 0 ≤ j ∧ j < d.height) := by
        rwa [h.width_eq, h.height_eq]
      rw [pixel?_eq_none hin, pixel?_eq_none hout]
      rfl
  of_notMem {i j} ht := by
    by_cases hin : 0 ≤ i ∧ i < c.width ∧ 0 ≤ j ∧ j < c.height
    · exact h.of_notMem fun hs => ht ((hst i j hin).1 hs)
    · have hout : ¬(0 ≤ i ∧ i < d.width ∧ 0 ≤ j ∧ j < d.height) := by
        rwa [h.width_eq, h.height_eq]
      rw [pixel?_eq_none hin, pixel?_eq_none hout]

theorem painted_fill (color : UInt8) (c : Canvas) (r : Region) :
    Painted color r.dots c (c.fill r color) where
  width_eq := rfl
  height_eq := rfl
  of_mem h := by rw [fill, pixel?_paint, if_pos (Region.contains_iff.2 h)]
  of_notMem h := by rw [fill, pixel?_paint, if_neg (mt Region.contains_iff.1 h)]

theorem painted_foldl {α : Type} {f : Canvas → α → Canvas} {dots : α → Set (ℤ × ℤ)}
    (hf : ∀ a c, Painted color (dots a) c (f c a)) (l : List α) (c : Canvas) :
    Painted color {p | ∃ a ∈ l, p ∈ dots a} c (l.foldl f c) := by
  induction l generalizing c with
  | nil =>
    refine (Painted.refl c).congr fun i j _ => ?_
    simp
  | cons a l ih =>
    refine ((hf a c).trans (ih (f c a))).congr fun i j _ => ?_
    simp

end Painted

/-! ### Drawings -/

/-- A canvas of a size that canvases can have. -/
def Possible (c : Canvas) : Prop := ∃ d, new? c.width c.height = .ok d

theorem possible_blank {width height : Nat} (hw : 0 < width ∧ width ≤ 384)
    (hh : 0 < height ∧ height < 0x80000000) : (blank width height).Possible := by
  refine ⟨blank width height, new?_eq_ok_iff.2 ⟨?_, ?_, rfl⟩⟩
  · have hwidth : (blank width height).width = width := rfl
    omega
  · have hheight : (blank width height).height = height := rfl
    omega

/-- The rows of a canvas can be counted in words. -/
theorem Possible.height_lt {c : Canvas} (h : c.Possible) : c.height < 0x80000000 := by
  obtain ⟨d, hd⟩ := h
  have hsize := (new?_eq_ok_iff.1 hd).2.1
  omega

/-- **What a drawing paints** in one colour: on every canvas whose rows can be counted it succeeds,
and the dots that it paints are at least those of one set and at most those of another. -/
def Draws (color : UInt8) (least most : Set (ℤ × ℤ)) (m : Draw Unit) : Prop :=
  ∀ c : Canvas, c.height < 0x80000000 → ∃ d dots, m.run.run c = (.ok (), d) ∧ least ⊆ dots ∧
    dots ⊆ most ∧ Painted color dots c d

namespace Draws
variable {color : UInt8} {least most least' most' : Set (ℤ × ℤ)} {m : Draw Unit}

theorem pure : Draws color ∅ ∅ (Pure.pure ()) := fun c _ =>
  ⟨c, ∅, rfl, subset_rfl, subset_rfl, .refl c⟩

theorem edit {f : Canvas → Canvas}
    (hf : ∀ c : Canvas, c.height < 0x80000000 → Painted color most c (f c)) :
    Draws color most most (Canvas.edit f) := fun c hc =>
  ⟨f c, most, rfl, subset_rfl, subset_rfl, hf c hc⟩

theorem bind {n : Draw Unit} (hm : Draws color least most m) (hn : Draws color least' most' n) :
    Draws color (least ∪ least') (most ∪ most') (m >>= fun _ => n) := by
  intro c hc
  obtain ⟨d, dots, hrun, hleast, hmost, hpainted⟩ := hm c hc
  obtain ⟨e, dots', hrun', hleast', hmost', hpainted'⟩ := hn d (by rwa [hpainted.height_eq])
  refine ⟨e, dots ∪ dots', ?_, Set.union_subset_union hleast hleast',
    Set.union_subset_union hmost hmost', hpainted.trans hpainted'⟩
  rw [ExceptT.run_bind, StateT.run_bind, hrun]
  exact hrun'

theorem mono (h : Draws color least most m) (hleast : least' ⊆ least) (hmost : most ⊆ most') :
    Draws color least' most' m := by
  intro c hc
  obtain ⟨d, dots, hrun, hleast', hmost', hpainted⟩ := h c hc
  exact ⟨d, dots, hrun, hleast.trans hleast', hmost'.trans hmost, hpainted⟩

end Draws

/-! ### Boxes -/

theorem isLost_of_small {n : ℤ} (h : n.natAbs < 0x1000000) : isLost n = false := by
  have hfits : -0x8000000000000000 ≤ n ∧ n < 0x8000000000000000 := by omega
  simp [isLost, fitsLong, hfits]

/-- The dots of the box between two corners. -/
def boxDots (x0 y0 x1 y1 : ℤ) : Set (ℤ × ℤ) := {p | x0 ≤ p.1 ∧ p.1 ≤ x1 ∧ y0 ≤ p.2 ∧ p.2 ≤ y1}

@[simp] theorem mem_boxDots {x0 y0 x1 y1 i j : ℤ} :
    (i, j) ∈ boxDots x0 y0 x1 y1 ↔ x0 ≤ i ∧ i ≤ x1 ∧ y0 ≤ j ∧ j ≤ y1 := Iff.rfl

/-- **Two corners that the canvas takes as they are**, the second not left of or above the first. -/
structure Corners (x0 y0 x1 y1 : ℤ) : Prop where
  left : x0.natAbs < 0x1000000
  top : y0.natAbs < 0x1000000
  right : x1.natAbs < 0x1000000
  bottom : y1.natAbs < 0x1000000
  columns : x0 ≤ x1
  rows : y0 ≤ y1

section
variable {x0 y0 x1 y1 : ℤ} {color : UInt8} (h : Corners x0 y0 x1 y1)
include h

theorem Corners.width_sub_lt : x1 - x0 < 0x1ffffff := by
  have hleft := h.left
  have hright := h.right
  omega

theorem Corners.height_sub_lt : y1 - y0 < 0x1ffffff := by
  have htop := h.top
  have hbottom := h.bottom
  omega

/-- A box in a box. -/
theorem Corners.sub {a b a' b' : ℤ} (hcolumns : x0 ≤ a ∧ a ≤ a' ∧ a' ≤ x1)
    (hrows : y0 ≤ b ∧ b ≤ b' ∧ b' ≤ y1) : Corners a b a' b' := by
  obtain ⟨hx0, hy0, hx1, hy1, -, -⟩ := h
  constructor <;> omega

theorem Corners.checkCorners_eq : checkCorners x0 y0 x1 y1 = Pure.pure () := by
  unfold checkCorners
  rw [surfaceOf_of_small h.left, surfaceOf_of_small h.top, surfaceOf_of_small h.right,
    surfaceOf_of_small h.bottom, if_neg (by have := h.columns; omega),
    if_neg (by have := h.rows; omega)]

theorem Corners.any_isLost : [x0, y0, x1, y1].any isLost = false := by
  simp [isLost_of_small h.left, isLost_of_small h.top, isLost_of_small h.right,
    isLost_of_small h.bottom]

/-- **A filled box.** -/
theorem draws_fillBox :
    Draws color (boxDots x0 y0 x1 y1) (boxDots x0 y0 x1 y1) (fillBox x0 y0 x1 y1 color) := by
  have hfill : fillBox x0 y0 x1 y1 color = Canvas.edit (·.fillDots x0 y0 x1 y1 color) := by
    unfold fillBox
    rw [h.checkCorners_eq, h.any_isLost, dotOf_of_small h.left, dotOf_of_small h.top,
      dotOf_of_small h.right, dotOf_of_small h.bottom]
    rfl
  rw [hfill]
  refine .edit fun c _ => (painted_fill color c _).congr fun i j _ => ?_
  have hrows := h.rows
  simp only [Region.dots, boxDots, Set.mem_ofPred_eq]
  omega

end

/-- The dots of the columns from `left` to `right` in the rows from `start` towards `stop`, which is
excluded. -/
def columnDots (left right start stop : ℤ) : Set (ℤ × ℤ) :=
  {p | left ≤ p.1 ∧ p.1 ≤ right ∧ (start ≤ p.2 ∧ p.2 < stop ∨ stop < p.2 ∧ p.2 ≤ start)}

theorem wrapWord_of_small {n : ℤ} (h : n.natAbs < 0x80000000) : wrapWord n = n := by
  unfold wrapWord leastWord wordCount
  omega

theorem painted_fillColumns (color : UInt8) {c : Canvas} (left right : ℤ) {start stop : ℤ}
    (hc : c.height < 0x80000000) (hstart : start.natAbs < 0x2000000)
    (hstop : stop.natAbs < 0x2000000) :
    Painted color (columnDots left right start stop) c
      (c.fillColumns left right start stop color) := by
  have hway : wrapWord (stop - start) = stop - start := wrapWord_of_small (by omega)
  unfold fillColumns
  rw [hway]
  dsimp only
  rw [if_neg (by unfold leastWord; omega)]
  refine (painted_foldl (fun turn c => painted_fill color c _) _ c).congr fun i j hin => ?_
  -- The rows of the turned counts lie beyond the canvas.
  simp only [List.mem_cons, List.not_mem_nil, or_false, exists_eq_or_imp, exists_eq_left,
    Region.dots, columnDots, Set.mem_ofPred_eq, wordCount]
  split_ifs <;> omega

section
variable {x0 y0 x1 y1 : ℤ} {color : UInt8} (h : Corners x0 y0 x1 y1)
include h

/-- The dots of a border of `t` dots. -/
def borderDots (x0 y0 x1 y1 t : ℤ) : Set (ℤ × ℤ) :=
  {p | x0 ≤ p.1 ∧ p.1 ≤ x1 ∧ (y0 ≤ p.2 ∧ p.2 < y0 + t ∨ y1 - t < p.2 ∧ p.2 ≤ y1)} ∪
    (columnDots (x1 - t + 1) x1 (y0 + t) (y1 - t + 1) ∪
      columnDots x0 (x0 + t - 1) (y0 + t) (y1 - t + 1))

/-- **A border.** -/
theorem draws_strokeBox {t : ℤ} (ht : 0 ≤ t ∧ t < 0x1000000) :
    Draws color (borderDots x0 y0 x1 y1 t) (borderDots x0 y0 x1 y1 t)
      (strokeBox x0 y0 x1 y1 t color) := by
  have hword : checkWord t = .ok () := checkWord_eq_ok_iff.2 (by omega)
  have hstroke : strokeBox x0 y0 x1 y1 t color =
      Canvas.edit (·.strokeDots x0 y0 x1 y1 t color) := by
    unfold strokeBox checkThickness
    rw [h.checkCorners_eq, h.any_isLost, dotOf_of_small h.left, dotOf_of_small h.top,
      dotOf_of_small h.right, dotOf_of_small h.bottom, hword]
    rfl
  rw [hstroke]
  obtain ⟨hx0, hy0, hx1, hy1, hcolumns, hrows⟩ := h
  refine .edit fun c hc => ?_
  unfold strokeDots
  dsimp only
  rw [min_eq_left hrows, max_eq_right hrows]
  have hstart : (y0 + t).natAbs < 0x2000000 := by omega
  have hstop : (y1 - t + 1).natAbs < 0x2000000 := by omega
  have htop := painted_fill color c ⟨x0, y0, x1 + 1, y0 + t⟩
  have hbottom := htop.trans (painted_fill color _ ⟨x0, y1 - t + 1, x1 + 1, y1 + 1⟩)
  have hright := hbottom.trans
    (painted_fillColumns color (x1 - t + 1) x1 (by rwa [hbottom.height_eq]) hstart hstop)
  have hleft := hright.trans
    (painted_fillColumns color x0 (x0 + t - 1) (by rwa [hright.height_eq]) hstart hstop)
  refine hleft.congr fun i j _ => ?_
  simp only [Region.dots, borderDots, Set.mem_union, Set.mem_ofPred_eq]
  rw [or_assoc]
  refine or_congr_left ?_
  omega

end

/-! ### Boxes of a given size -/

/-- A gray value is the gray value of its number. -/
theorem grayOf_toNat (color : UInt8) : grayOf color.toNat = .ok color := by
  have hlt := color.toNat_lt
  have hfits : fitsLong color.toNat = true := by
    simp only [fitsLong, decide_eq_true_eq]
    omega
  have hsmall : (min 255 (color.toNat : ℤ)).toNat = color.toNat := by omega
  rw [grayOf, if_pos hfits, hsmall, UInt8.ofNat_toNat]

section
variable {x y w h : ℤ} {color : UInt8} (hcorners : Corners x y (x + w - 1) (y + h - 1))
include hcorners

theorem Corners.width_lt : 0 ≤ w ∧ w < 0x2000000 := by
  have hcolumns := hcorners.columns
  have hwide := hcorners.width_sub_lt
  omega

theorem Corners.height_lt : 0 ≤ h ∧ h < 0x2000000 := by
  have hrows := hcorners.rows
  have hhigh := hcorners.height_sub_lt
  omega

theorem draws_fillRect :
    Draws color (boxDots x y (x + w - 1) (y + h - 1)) (boxDots x y (x + w - 1) (y + h - 1))
      (fillRect x y w h color.toNat) := by
  have hx := hcorners.columns
  have hy := hcorners.rows
  unfold fillRect
  rw [if_neg (by omega), grayOf_toNat]
  exact draws_fillBox hcorners

theorem draws_strokeRect {t : ℤ} (ht : t < 0x1000000) :
    Draws color (borderDots x y (x + w - 1) (y + h - 1) (max 1 t))
      (borderDots x y (x + w - 1) (y + h - 1) (max 1 t)) (strokeRect x y w h t color.toNat) := by
  have hx := hcorners.columns
  have hy := hcorners.rows
  unfold strokeRect
  rw [if_neg (by omega), grayOf_toNat]
  exact draws_strokeBox hcorners (by omega)

end

end Canvas

end LabelPress
