import LabelPress.Canvas.Bitmap
import LabelPress.Canvas.RoundedBox
import LabelPress.Canvas.Text
import Mathlib.Tactic.Common

/-! # Drawing on two canvases

Shapes are made by painting alone, and what a program draws does not depend on what was drawn
before. So a relation between canvases that painting respects is respected by every shape: drawn on
two related canvases it succeeds or fails on both alike and leaves them related.

* `Canvas.Stable`: painting respects a relation. Such relations are `Canvas.CornerOf`, one canvas
  being the upper left corner of another, and `Canvas.BothSized`, which says nothing about contents.
* `Canvas.Fills`, `Canvas.Paints`: filling with one colour, or painting with one function, respects
  a relation. This is less, and enough for the shapes of that colour.
* `Respects`: a program gives the same answer on related canvases and leaves them related. Every
  shape does: `respects_fillBox` to `respects_drawText`.
* `Canvas.new?_eq_ok_iff`: which canvases there are. -/

namespace LabelPress

namespace Canvas

/-- **Painting respects a relation** between canvases. -/
class Stable (R : Canvas → Canvas → Prop) : Prop where
  paint {c d : Canvas} (h : R c d) (r : Region) (f : Int → Int → UInt8 → UInt8) :
    R (c.paint r f) (d.paint r f)

instance : Stable Eq where
  paint h r f := congrArg (paint · r f) h

/-- One canvas is the upper left corner of another. -/
structure CornerOf (c d : Canvas) : Prop where
  width_le : c.width ≤ d.width
  height_le : c.height ≤ d.height
  pixel?_eq : ∀ x y : Int, x < c.width → y < c.height → c.pixel? x y = d.pixel? x y

instance : Stable CornerOf where
  paint {c d} h r f := by
    refine ⟨h.width_le, h.height_le, fun x y hx hy => ?_⟩
    rw [pixel?_paint, pixel?_paint, h.pixel?_eq x y hx hy]

/-- Both canvases have the given size. -/
structure BothSized (width height : Nat) (c d : Canvas) : Prop where
  left : c.width = width ∧ c.height = height
  right : d.width = width ∧ d.height = height

instance (width height : Nat) : Stable (BothSized width height) where
  paint h _ _ := ⟨h.left, h.right⟩

/-- Painting with one function respects a relation. -/
def Paints (R : Canvas → Canvas → Prop) (f : Int → Int → UInt8 → UInt8) : Prop :=
  ∀ c d : Canvas, R c d → ∀ r : Region, R (c.paint r f) (d.paint r f)

/-- Filling with one colour respects a relation. -/
def Fills (R : Canvas → Canvas → Prop) (color : UInt8) : Prop := Paints R fun _ _ _ => color

theorem Stable.paints {R : Canvas → Canvas → Prop} [Stable R] (f : Int → Int → UInt8 → UInt8) :
    Paints R f := fun _ _ h r => Stable.paint h r f

/-! ### Changes of a canvas -/

section
variable {R : Canvas → Canvas → Prop} {c d : Canvas}

/-- Changes made one after the other. -/
theorem related_foldl {α : Type} (f : Canvas → α → Canvas)
    (hf : ∀ c d a, R c d → R (f c a) (f d a)) (l : List α) (h : R c d) :
    R (l.foldl f c) (l.foldl f d) := by
  induction l generalizing c d with
  | nil => exact h
  | cons a l ih => exact ih (hf c d a h)

section
variable {color : UInt8} (hcolor : Fills R color) (h : R c d)
include hcolor h

theorem related_fill (r : Region) : R (c.fill r color) (d.fill r color) := hcolor c d h r

theorem related_fillColumns (left right start stop : Int) :
    R (c.fillColumns left right start stop color) (d.fillColumns left right start stop color) := by
  unfold Canvas.fillColumns
  dsimp only
  by_cases hway : wrapWord (stop - start) = leastWord
  · rw [if_pos hway, if_pos hway]
    exact h
  · rw [if_neg hway, if_neg hway]
    refine related_foldl _ (fun _ _ turn h => ?_) _ h
    exact related_fill hcolor h _

theorem related_strokeDots (x0 y0 x1 y1 t : Int) :
    R (c.strokeDots x0 y0 x1 y1 t color) (d.strokeDots x0 y0 x1 y1 t color) := by
  refine related_fillColumns hcolor (related_fillColumns hcolor ?_ _ _ _ _) _ _ _ _
  exact related_fill hcolor (related_fill hcolor h _) _

theorem related_fillStretch (x0 y0 a b : Int) (y : Int) (stretch : Int × Int) :
    R (c.fillStretch x0 y0 a b color y stretch) (d.fillStretch x0 y0 a b color y stretch) := by
  simp only [Canvas.fillStretch]
  split_ifs
  · exact h
  · exact related_fill hcolor h _

theorem related_ring (x0 y0 x1 y1 w : Int) (sides : Sides) :
    R (c.ring x0 y0 x1 y1 w sides color) (d.ring x0 y0 x1 y1 w sides color) := by
  refine related_foldl _ (fun _ _ row h => ?_) _ h
  refine related_foldl _ (fun _ _ y h => ?_) _ h
  refine related_foldl _ (fun _ _ stretch h => ?_) _ h
  exact related_fillStretch hcolor h x0 y0 _ _ y stretch

end

theorem related_stencilText [Stable R] (h : R c d) (layout : TextLayout) (turn : Turn)
    (left top : Int) :
    R (c.stencilText layout turn left top) (d.stencilText layout turn left top) := by
  unfold Canvas.stencilText
  cases layout.box with
  | none => exact Stable.paint h _ _
  | some box => exact Stable.paint (Stable.paint h _ _) _ _

end

end Canvas

/-! ### Programs that draw -/

theorem exists_of_bind_eq_ok {ε α β : Type} {r : Except ε α} {f : α → Except ε β} {b : β}
    (h : (r >>= f) = .ok b) : ∃ a, r = .ok a ∧ f a = .ok b := by
  cases r with
  | error e => cases h
  | ok a => exact ⟨a, rfl, h⟩

/-- **A program respects a relation**: on related canvases it gives the same answer, and leaves them
related. -/
def Respects (R : Canvas → Canvas → Prop) {ε α : Type} (m : ExceptT ε (StateM Canvas) α) : Prop :=
  ∀ c d : Canvas, R c d →
    (m.run.run c).1 = (m.run.run d).1 ∧ R (m.run.run c).2 (m.run.run d).2

namespace Respects
variable {R : Canvas → Canvas → Prop} {ε α β : Type}

theorem of_except (r : Except ε α) :
    Respects R (ExceptT.mk (pure r) : ExceptT ε (StateM Canvas) α) := fun _ _ h => ⟨rfl, h⟩

theorem pure (a : α) : Respects R (Pure.pure a : ExceptT ε (StateM Canvas) α) := of_except (.ok a)

theorem throw (e : ε) : Respects R (MonadExcept.throw e : ExceptT ε (StateM Canvas) α) :=
  of_except (.error e)

theorem edit {f : Canvas → Canvas} (hf : ∀ c d, R c d → R (f c) (f d)) :
    Respects R (Canvas.edit f) := fun c d h => ⟨rfl, hf c d h⟩

theorem bind {m : ExceptT ε (StateM Canvas) α} {f : α → ExceptT ε (StateM Canvas) β}
    (hm : Respects R m) (hf : ∀ a, Respects R (f a)) : Respects R (m >>= f) := by
  intro c d h
  obtain ⟨heq, hrel⟩ := hm c d h
  rw [ExceptT.run_bind, StateT.run_bind, StateT.run_bind]
  rcases hc : m.run.run c with ⟨r, c'⟩
  rcases hd : m.run.run d with ⟨r', d'⟩
  rw [hc, hd] at heq hrel
  subst heq
  cases r with
  | ok a => exact hf a c' d' hrel
  | error e => exact ⟨rfl, hrel⟩

/-- Something that does not look at the canvas before the rest. -/
theorem of_except_bind {r : Except ε α} {f : α → ExceptT ε (StateM Canvas) β}
    (hf : ∀ a, r = .ok a → Respects R (f a)) :
    Respects R ((ExceptT.mk (Pure.pure r) : ExceptT ε (StateM Canvas) α) >>= f) := by
  cases r with
  | ok a => exact hf a rfl
  | error e => exact of_except (.error e)

theorem ite {m n : ExceptT ε (StateM Canvas) α} (p : Prop) [Decidable p] (hm : Respects R m)
    (hn : Respects R n) : Respects R (if p then m else n) := by
  by_cases hp : p
  · rw [if_pos hp]
    exact hm
  · rw [if_neg hp]
    exact hn

/-- A check before the rest. -/
theorem guard {p : Prop} [Decidable p] {e : ε}
    {rest : PUnit → ExceptT ε (StateM Canvas) α} (h : ∀ u, Respects R (rest u)) :
    Respects R (if p then MonadExcept.throw e >>= rest else rest ⟨⟩) :=
  .ite _ ((Respects.throw e).bind h) (h _)

end Respects

namespace Canvas

section
variable {R : Canvas → Canvas → Prop}

/-! ### Boxes -/

theorem respects_checkCorners (x0 y0 x1 y1 : Int) : Respects R (checkCorners x0 y0 x1 y1) :=
  .ite _ (.throw _) (.ite _ (.throw _) (.pure _))

theorem respects_checkLost (shape : Shape) (lost : Bool) : Respects R (checkLost shape lost) :=
  .ite _ (.throw _) (.pure _)

section
variable {color : UInt8} (hcolor : Fills R color)
include hcolor

theorem respects_fillBox (x0 y0 x1 y1 : Int) : Respects R (fillBox x0 y0 x1 y1 color) := by
  refine (respects_checkCorners x0 y0 x1 y1).bind fun _ => ?_
  exact (Respects.edit fun _ _ h => related_fill hcolor h _).bind fun _ => respects_checkLost _ _

theorem respects_strokeBox (x0 y0 x1 y1 t : Int) :
    Respects R (strokeBox x0 y0 x1 y1 t color) := by
  refine (Respects.of_except _).bind fun _ => ?_
  refine (respects_checkCorners x0 y0 x1 y1).bind fun _ => ?_
  refine (Respects.edit fun _ _ h => related_strokeDots hcolor h _ _ _ _ t).bind fun _ => ?_
  exact respects_checkLost _ _

/-! ### Rounded boxes -/

theorem respects_drawPiece (finish : Finish) (p : Piece) (whole : Bool) :
    Respects R (drawPiece finish p whole color) := by
  unfold drawPiece
  cases finish with
  | filled =>
    refine .guard fun _ => .guard fun _ => ?_
    refine (Respects.edit fun _ _ h => related_ring hcolor h _ _ _ _ _ p.sides).bind fun _ => ?_
    exact (Respects.pure Shape.sector).bind fun _ => respects_checkLost _ _
  | outlined t =>
    refine (Respects.of_except _).bind fun _ => ?_
    refine .guard fun _ => .guard fun _ => ?_
    refine (Respects.edit fun _ _ h => related_ring hcolor h _ _ _ _ t p.sides).bind fun _ => ?_
    exact (Respects.pure Shape.arc).bind fun _ => respects_checkLost _ _

theorem respects_drawPieces (finish : Finish) (pieces : List Piece) :
    Respects R (drawPieces finish color pieces) := by
  induction pieces with
  | nil => exact .pure _
  | cons p pieces ih => exact (respects_drawPiece hcolor finish p false).bind fun _ => ih

theorem respects_straights (finish : Finish) (x0 y0 x1 y1 r : Int) (wide high : Bool) :
    Respects R (straights finish x0 y0 x1 y1 r wide high color) := by
  have box := respects_fillBox hcolor
  cases finish with
  | filled =>
    -- The sides come last, in either way through the middle.
    have sides : Respects R (if (!wide && !high) = true then do
        fillBox x0 (y0 + r + 1) (x0 + r) (y1 - r - 1) color
        fillBox (x1 - r) (y0 + r + 1) x1 (y1 - r - 1) color
      else pure ()) :=
      .ite _ ((box _ _ _ _).bind fun _ => box _ _ _ _) (.pure _)
    refine .ite _ ?_ (.ite _ ?_ sides)
    · exact (box _ _ _ _).bind fun _ => sides
    · exact (box _ _ _ _).bind fun _ => sides
  | outlined t =>
    have sides : Respects R (if (!high) = true then do
        fillBox x0 (y0 + r + 1) (x0 + t - 1) (y1 - r - 1) color
        fillBox (x1 - t + 1) (y0 + r + 1) x1 (y1 - r - 1) color
      else pure ()) :=
      .ite _ ((box _ _ _ _).bind fun _ => box _ _ _ _) (.pure _)
    refine .ite _ ?_ sides
    refine (box _ _ _ _).bind fun _ => ?_
    exact (box _ _ _ _).bind fun _ => sides

theorem respects_squareBox (finish : Finish) (x0 y0 x1 y1 : Int) :
    Respects R (squareBox finish x0 y0 x1 y1 color) := by
  cases finish with
  | filled => exact respects_fillBox hcolor x0 y0 x1 y1
  | outlined t => exact respects_strokeBox hcolor x0 y0 x1 y1 t

theorem respects_roundedBox (finish : Finish) (x0 y0 x1 y1 : Int) (radius : Rat) :
    Respects R (roundedBox finish x0 y0 x1 y1 radius color) := by
  refine .ite _ (respects_drawPiece hcolor _ _ _) (.ite _ (respects_squareBox hcolor _ _ _ _ _) ?_)
  refine (Respects.of_except _).bind fun pieces => ?_
  exact (respects_drawPieces hcolor _ _).bind fun _ => respects_straights hcolor _ _ _ _ _ _ _ _

end

/-! ### Shapes of a given size -/

section
variable {color : Int} (hgray : ∀ gray, grayOf color = .ok gray → Fills R gray)
include hgray

theorem respects_fillRect (x y width height : Int) :
    Respects R (fillRect x y width height color) := by
  refine .ite _ (.pure _) (.of_except_bind fun gray hcolor => ?_)
  exact respects_fillBox (hgray gray hcolor) _ _ _ _

theorem respects_strokeRect (x y width height thickness : Int) :
    Respects R (strokeRect x y width height thickness color) := by
  refine .ite _ (.pure _) (.of_except_bind fun gray hcolor => ?_)
  exact respects_strokeBox (hgray gray hcolor) _ _ _ _ _

theorem respects_roundedRect (x y width height : Int) (radius : Rat) (thickness : Option Int) :
    Respects R (roundedRect x y width height radius color thickness) := by
  refine .ite _ (.pure _) ?_
  refine (Respects.of_except (limitedRadius width height radius)).bind fun radius => ?_
  refine .of_except_bind fun gray hcolor => ?_
  exact respects_roundedBox (hgray gray hcolor) _ _ _ _ _ _

end

/-! ### Bitmaps and text -/

theorem respects_blit {data : List UInt8} {rowBytes x y : Int}
    (hdots : Paints R fun i j _ =>
      packedDot data.toArray rowBytes.toNat (i - x).toNat (j - y).toNat) (rows : Int) :
    Respects R (blit data rowBytes rows x y) := by
  unfold blit
  refine .ite _ (.pure _) ?_
  dsimp only
  split
  · exact .throw _
  · exact .edit fun c d h => hdots c d h _

theorem respects_drawText [Stable R] (fonts : FontSource) (text : List Char) (x y : Int)
    (style : TextStyle) :
    Respects R (drawText fonts text x y style) := by
  refine (Respects.of_except (TextLayout.ofText fonts text style)).bind fun layout => ?_
  refine (Respects.of_except (Turn.ofDegrees? style.rotation)).bind fun turn => ?_
  refine (Respects.of_except _).bind fun _ => ?_
  exact (Respects.edit fun _ _ h => related_stencilText h _ _ _ _).bind fun _ => .pure _

end

/-! ### New canvases -/

theorem fitsMemory_of_le {width height : Nat} (hw : width ≤ 384) (hh : height < 0x80000000) :
    fitsMemory width height = true := by
  have hrows : 43690 ≤ blockSize / max 1 width := by
    rw [Nat.le_div_iff_mul_le (by omega)]
    unfold blockSize
    omega
  have hblocks : (height + max 1 (blockSize / max 1 width) - 1) / max 1 (blockSize / max 1 width) ≤
      mostBlocks := by
    refine Nat.div_le_of_le_mul ?_
    unfold mostBlocks
    omega
  have hrow : width ≤ longestRow := Nat.le_trans hw (by decide)
  simp only [fitsMemory, Bool.and_eq_true, decide_eq_true_eq]
  exact ⟨hrow, hblocks⟩

theorem checkWord_eq_ok_iff {n : Int} :
    checkWord n = .ok () ↔ -0x80000000 ≤ n ∧ n < 0x80000000 := by
  unfold checkWord
  by_cases hlong : fitsLong n = true
  · have hrange := hlong
    simp only [fitsLong, decide_eq_true_eq] at hrange
    by_cases hlarge : -leastWord ≤ n
    · simp only [hlong, hlarge, Bool.not_true, Bool.false_eq_true, if_true, if_false, reduceCtorEq,
        false_iff]
      unfold leastWord at hlarge
      omega
    · by_cases hsmall : n < leastWord
      · simp only [hlong, hlarge, hsmall, Bool.not_true, Bool.false_eq_true, if_true, if_false,
          reduceCtorEq, false_iff]
        unfold leastWord at hsmall
        omega
      · simp only [hlong, hlarge, hsmall, Bool.not_true, Bool.false_eq_true, if_false, true_iff]
        unfold leastWord at hlarge hsmall
        omega
  · simp only [hlong, Bool.not_false, if_true, reduceCtorEq, false_iff]
    simp only [fitsLong, decide_eq_true_eq] at hlong
    omega

theorem checkSize_of_le {width height : Int} (hw : 0 ≤ width ∧ width ≤ 384)
    (hh : 0 ≤ height ∧ height < 0x80000000) : checkSize width height = .ok () := by
  have hneg : ¬(width < 0 ∨ height < 0) := by omega
  have hwidth := checkWord_eq_ok_iff.2 (show -0x80000000 ≤ width ∧ width < 0x80000000 by omega)
  have hheight := checkWord_eq_ok_iff.2 (show -0x80000000 ≤ height ∧ height < 0x80000000 by omega)
  have hroom : fitsMemory width.toNat height.toNat = true :=
    fitsMemory_of_le (by omega) (by omega)
  simp only [checkSize, hneg, hwidth, hheight, hroom, if_false, Bool.not_true, Bool.false_eq_true]
  rfl

/-- A canvas as wide as the print head cannot be higher than a word. -/
theorem new?_of_beyond {width height : Int} (hw : 0 < width ∧ width ≤ 384)
    (hh : 0x80000000 ≤ height) : ∃ e, new? width height = .error (.position e) := by
  have hmax : (maxWidth : Int) = 384 := rfl
  have hwidth := checkWord_eq_ok_iff.2 (show -0x80000000 ≤ width ∧ width < 0x80000000 by omega)
  cases hheight : checkWord height with
  | ok _ => exact absurd (checkWord_eq_ok_iff.1 hheight) (by omega)
  | error e =>
    refine ⟨e, ?_⟩
    rw [new?, if_neg (by omega), if_neg (by omega), checkSize, if_neg (by omega), hwidth, hheight]
    rfl

/-- **There is a canvas of a size** exactly if the print head is as wide and the height is a
positive word. -/
theorem new?_eq_ok_iff {width height : Int} {c : Canvas} :
    new? width height = .ok c ↔ (0 < width ∧ width ≤ 384) ∧ (0 < height ∧ height < 0x80000000) ∧
      c = blank width.toNat height.toNat := by
  have hmax : (maxWidth : Int) = 384 := rfl
  unfold new?
  by_cases hempty : width ≤ 0 ∨ height ≤ 0
  · rw [if_pos hempty]
    refine iff_of_false ?_ (by omega)
    rintro ⟨⟩
  by_cases hwide : (maxWidth : Int) < width
  · rw [if_neg hempty, if_pos hwide]
    refine iff_of_false ?_ (by omega)
    rintro ⟨⟩
  by_cases hhigh : height < 0x80000000
  · have hsize : checkSize width height = .ok () := checkSize_of_le (by omega) (by omega)
    rw [if_neg hempty, if_neg hwide, hsize]
    change Except.ok (blank width.toNat height.toNat) = Except.ok c ↔ _
    rw [Except.ok.injEq]
    constructor
    · rintro rfl
      exact ⟨by omega, by omega, rfl⟩
    · rintro ⟨-, -, rfl⟩
      rfl
  · obtain ⟨e, he⟩ := new?_of_beyond (show 0 < width ∧ width ≤ 384 by omega)
      (show 0x80000000 ≤ height by omega)
    rw [new?] at he
    rw [he]
    exact iff_of_false nofun (by omega)

theorem cornerOf_blank {width height width' height' : Nat} (hw : width ≤ width')
    (hh : height ≤ height') : (blank width height).CornerOf (blank width' height') := by
  refine ⟨hw, hh, fun x y hx hy => ?_⟩
  change x < width at hx
  change y < height at hy
  by_cases h : 0 ≤ x ∧ 0 ≤ y
  · rw [pixel?_blank ⟨h.1, hx, h.2, hy⟩, pixel?_blank ⟨h.1, by omega, h.2, by omega⟩]
  · rw [pixel?_eq_none (by omega), pixel?_eq_none (by omega)]

end Canvas

end LabelPress
