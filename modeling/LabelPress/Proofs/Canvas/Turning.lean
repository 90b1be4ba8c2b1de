import LabelPress.Proofs.Canvas.Related
import Mathlib.Data.Prod.Basic

/-!
# Turned text

A text is laid onto the canvas as a tile with a margin, and the tile is turned about the corner of
the text, not about its own. The tile has its margin on all sides and its size before the turn
decides where its corner comes to lie, so the dot that the upright tile has at some offset from the
corner of the text is the one that the turned tile has at the turned offset.

* `Turn.about`: where a turn about a point takes an offset from it.
* `pixel?_stencil_turn`: one tile laid down turned, dot by dot and whatever the turn.
* `TextLayout.tint`: what becomes of a dot when a text is laid over it.
* `run_drawText_eq_ok`: what drawing a text leaves, if it succeeds.
* `drawText_turns_about_corner`: the same text drawn upright and turned.
-/

namespace LabelPress

namespace Turn

/-- The clockwise turn in degrees. -/
def degrees : Turn → Int
  | none => 0
  | quarter => 90
  | half => 180
  | threeQuarters => 270

theorem ofDegrees?_degrees (turn : Turn) : ofDegrees? turn.degrees = .ok turn := by
  cases turn <;> rfl

/-- **Where a clockwise turn about `(x, y)` takes a point**, given by its distances to the right of
and down from there. -/
def about (x y dx dy : Int) : Turn → Int × Int
  | none => (x + dx, y + dy)
  | quarter => (x - dy, y + dx)
  | half => (x - dx, y - dy)
  | threeQuarters => (x + dy, y - dx)

end Turn

/-! ### Tiles -/

namespace Tile

/-- Is the point on the tile? -/
def Covers (t : Tile) (x y : Int) : Prop := 0 ≤ x ∧ x < t.width ∧ 0 ≤ y ∧ y < t.height

instance (t : Tile) (x y : Int) : Decidable (t.Covers x y) :=
  inferInstanceAs (Decidable (_ ∧ _ ∧ _ ∧ _))

/-- What becomes of a gray value under a point of a tile that is laid down in some colour. -/
def tint (t : Tile) (color : UInt8) (x y : Int) (gray : UInt8) : UInt8 :=
  if t.Covers x y then Canvas.blend (t.mask x y) gray color else gray

end Tile

section
variable (t : Tile) (turn : Turn) (x y dx dy : Int)

/-- **The turned tile has at the turned offset what the tile has at the offset.** -/
theorem mask_turn :
    (t.turn turn).mask
        ((turn.about x y dx dy).1 - (turnedOrigin x y t.width t.height turn).1)
        ((turn.about x y dx dy).2 - (turnedOrigin x y t.width t.height turn).2) =
      t.mask (dx + textMargin) (dy + textMargin) := by
  cases turn <;> simp only [Tile.turn, Turn.about, turnedOrigin] <;> congr 1 <;> omega

/-- The turned tile covers the turned offset exactly if the tile covers the offset. -/
theorem contains_turn :
    Region.contains ⟨(turnedOrigin x y t.width t.height turn).1,
        (turnedOrigin x y t.width t.height turn).2,
        (turnedOrigin x y t.width t.height turn).1 + (t.turn turn).width,
        (turnedOrigin x y t.width t.height turn).2 + (t.turn turn).height⟩
        (turn.about x y dx dy).1 (turn.about x y dx dy).2 = true ↔
      t.Covers (dx + textMargin) (dy + textMargin) := by
  simp only [Region.contains, Bool.and_eq_true, decide_eq_true_eq, Tile.Covers]
  cases turn <;> simp only [Tile.turn, Turn.about, turnedOrigin] <;> omega

/-- **A tile laid down turned about the corner of its text**: the turn decides where a dot lies, and
not what becomes of it. -/
theorem Canvas.pixel?_stencil_turn (c : Canvas) (color : UInt8) :
    (c.stencil (t.turn turn) (turnedOrigin x y t.width t.height turn).1
        (turnedOrigin x y t.width t.height turn).2 color).pixel?
        (turn.about x y dx dy).1 (turn.about x y dx dy).2 =
      (c.pixel? (turn.about x y dx dy).1 (turn.about x y dx dy).2).map
        (t.tint color (dx + textMargin) (dy + textMargin)) := by
  rw [Canvas.stencil, Canvas.pixel?_paint]
  by_cases hcovers : t.Covers (dx + textMargin) (dy + textMargin)
  · rw [if_pos ((contains_turn t turn x y dx dy).2 hcovers), mask_turn]
    refine congrArg (Option.map · _) (funext fun gray => ?_)
    rw [Tile.tint, if_pos hcovers]
  · rw [if_neg (mt (contains_turn t turn x y dx dy).1 hcovers)]
    have hsame : t.tint color (dx + textMargin) (dy + textMargin) = id := by
      funext gray
      rw [Tile.tint, if_neg hcovers]
      rfl
    rw [hsame, Option.map_id_fun]
    rfl

end

/-! ### Layouts -/

namespace TextLayout

/-- Both tiles of a layout have one size. -/
def Matched (layout : TextLayout) : Prop :=
  ∀ box, layout.box = some box → box.width = layout.text.width ∧ box.height = layout.text.height

/-- What becomes of a gray value when a text is laid over it, at an offset from the corner of the
text. -/
def tint (layout : TextLayout) (dx dy : Int) (gray : UInt8) : UInt8 :=
  match layout.box with
  | none => layout.text.tint Canvas.black (dx + textMargin) (dy + textMargin) gray
  | some box =>
    layout.text.tint Canvas.white (dx + textMargin) (dy + textMargin)
      (box.tint Canvas.black (dx + textMargin) (dy + textMargin) gray)

/-- A layout does not depend on how it is turned. -/
theorem ofText_rotation (fonts : FontSource) (text : List Char) (style : TextStyle)
    (degrees : Int) :
    ofText fonts text { style with rotation := degrees } = ofText fonts text style := rfl

theorem matched_of_ofText {fonts : FontSource} {text : List Char} {style : TextStyle}
    {layout : TextLayout} (h : ofText fonts text style = .ok layout) : layout.Matched := by
  unfold ofText at h
  obtain ⟨font, -, h⟩ := exists_of_bind_eq_ok h
  obtain ⟨natural, -, h⟩ := exists_of_bind_eq_ok h
  obtain ⟨width, -, h⟩ := exists_of_bind_eq_ok h
  obtain ⟨depth, -, h⟩ := exists_of_bind_eq_ok h
  obtain ⟨_, -, h⟩ := exists_of_bind_eq_ok h
  extract_lets right bottom finish at h
  -- What is left to do is the same with glyphs and without.
  have hfinish : ∀ glyphs, finish glyphs = .ok layout → layout.Matched := by
    intro glyphs h box hbox
    cases hreverse : style.reverse with
    | true =>
      simp only [finish, hreverse, if_true] at h
      obtain ⟨_, -, h⟩ := exists_of_bind_eq_ok h
      cases h
      cases hbox
      exact ⟨rfl, rfl⟩
    | false =>
      simp only [finish, hreverse, Bool.false_eq_true, if_false] at h
      cases h
      cases hbox
  by_cases hnatural : 0 < natural
  · rw [if_pos hnatural] at h
    obtain ⟨glyphs, -, h⟩ := exists_of_bind_eq_ok h
    exact hfinish _ h
  · rw [if_neg hnatural] at h
    exact hfinish _ h

end TextLayout

/-- **A text laid down turned about its corner.** -/
theorem Canvas.pixel?_stencilText (c : Canvas) {layout : TextLayout} (h : layout.Matched)
    (turn : Turn) (x y dx dy : Int) :
    (c.stencilText layout turn
        (turnedOrigin x y layout.text.width layout.text.height turn).1
        (turnedOrigin x y layout.text.width layout.text.height turn).2).pixel?
        (turn.about x y dx dy).1 (turn.about x y dx dy).2 =
      (c.pixel? (turn.about x y dx dy).1 (turn.about x y dx dy).2).map (layout.tint dx dy) := by
  have htint : layout.tint dx dy = fun gray => layout.tint dx dy gray := rfl
  unfold stencilText
  simp only [htint, TextLayout.tint]
  cases hbox : layout.box with
  | none => exact pixel?_stencil_turn ..
  | some box =>
    obtain ⟨hwidth, hheight⟩ := h box hbox
    dsimp only
    rw [pixel?_stencil_turn, ← hwidth, ← hheight, pixel?_stencil_turn, Option.map_map]
    rfl

namespace Canvas
variable {fonts : FontSource} {text : List Char} {style : TextStyle} {x y : Int} {c d : Canvas}
  {size : Int × Int}

theorem run_ofExcept_bind_eq_ok {α β : Type} {r : Except DrawError α} {k : α → Draw β} {b : β}
    (h : (ofExcept r >>= k).run.run c = (.ok b, d)) :
    ∃ a, r = .ok a ∧ (k a).run.run c = (.ok b, d) := by
  cases r with
  | error e => cases h
  | ok a => exact ⟨a, rfl, h⟩

/-- **What drawing a text leaves**, if it succeeds. -/
theorem run_drawText_eq_ok (h : (drawText fonts text x y style).run.run c = (.ok size, d)) :
    ∃ layout turn, TextLayout.ofText fonts text style = .ok layout ∧
      Turn.ofDegrees? style.rotation = .ok turn ∧ size = (layout.width, style.height) ∧
      d = c.stencilText layout turn
        (turnedOrigin x y layout.text.width layout.text.height turn).1
        (turnedOrigin x y layout.text.width layout.text.height turn).2 := by
  obtain ⟨layout, hlayout, h⟩ := run_ofExcept_bind_eq_ok h
  obtain ⟨turn, hturn, h⟩ := run_ofExcept_bind_eq_ok h
  obtain ⟨-, -, h⟩ := run_ofExcept_bind_eq_ok h
  cases h
  exact ⟨layout, turn, hlayout, hturn, rfl, rfl⟩

/-- **A text turns about its corner.** Drawn upright with its corner at `(x, y)` and drawn turned
with its corner at `(x', y')`, each on a white canvas, a text has the same size, and a dot of the
first drawing is that of the second which a clockwise turn about the corner takes it to, wherever
both are on their canvases. -/
theorem drawText_turns_about_corner {turn : Turn} {x' y' : Int} {width height width' height' : Nat}
    {c' : Canvas} {size' : Int × Int}
    (hupright : (drawText fonts text x y { style with rotation := 0 }).run.run
      (blank width height) = (.ok size, c))
    (hturned : (drawText fonts text x' y' { style with rotation := turn.degrees }).run.run
      (blank width' height') = (.ok size', c')) :
    size = size' ∧ ∀ dx dy gray gray', c.pixel? (x + dx) (y + dy) = some gray →
      c'.pixel? (turn.about x' y' dx dy).1 (turn.about x' y' dx dy).2 = some gray' →
      gray = gray' := by
  obtain ⟨layout, upright, hlayout, hup, rfl, rfl⟩ := run_drawText_eq_ok hupright
  obtain ⟨layout', turn', hlayout', hturn, rfl, rfl⟩ := run_drawText_eq_ok hturned
  rw [TextLayout.ofText_rotation] at hlayout hlayout'
  obtain rfl := Except.ok.inj (hlayout.symm.trans hlayout')
  obtain rfl : turn' = turn := Except.ok.inj (hturn.symm.trans turn.ofDegrees?_degrees)
  obtain rfl : upright = .none := Except.ok.inj (hup.symm.trans Turn.none.ofDegrees?_degrees)
  refine ⟨rfl, fun dx dy gray gray' hgray hgray' => ?_⟩
  have hmatched := TextLayout.matched_of_ofText hlayout
  have hblank : ∀ (w h : Nat) (i j : Int) (g : UInt8),
      ((blank w h).pixel? i j).map (layout.tint dx dy) = some g → g = layout.tint dx dy white := by
    intro w h i j g hg
    by_cases hin : 0 ≤ i ∧ i < w ∧ 0 ≤ j ∧ j < h
    · rw [pixel?_blank hin] at hg
      exact (Option.some.inj hg).symm
    · rw [pixel?_eq_none (c := blank w h) hin] at hg
      cases hg
  have hplace : Turn.none.about x y dx dy = (x + dx, y + dy) := rfl
  have hfirst := pixel?_stencilText (blank width height) hmatched .none x y dx dy
  rw [hplace] at hfirst
  rw [hfirst] at hgray
  rw [pixel?_stencilText _ hmatched] at hgray'
  rw [hblank _ _ _ _ _ hgray, hblank _ _ _ _ _ hgray']

/-- A letter four dots high, white on black, upright on one canvas and turned by a quarter on
another. -/
theorem drawText_turns_about_corner_letter :
    ∃ c c' : Canvas,
      (drawText Font.blockSource ['A'] 3 3 ⟨['0'], 4, none, 0, true⟩).run.run (blank 12 11) =
        (.ok (4, 4), c) ∧
      (drawText Font.blockSource ['A'] 9 2 ⟨['0'], 4, none, 90, true⟩).run.run (blank 13 10) =
        (.ok (4, 4), c') ∧
      ∀ dx dy gray gray', c.pixel? (3 + dx) (3 + dy) = some gray →
        c'.pixel? (9 - dy) (2 + dx) = some gray' → gray = gray' := by
  have hupright : ((drawText Font.blockSource ['A'] 3 3 ⟨['0'], 4, none, 0, true⟩).run.run
      (blank 12 11)).1 = .ok (4, 4) := by decide +kernel
  have hturned : ((drawText Font.blockSource ['A'] 9 2 ⟨['0'], 4, none, 90, true⟩).run.run
      (blank 13 10)).1 = .ok (4, 4) := by decide +kernel
  obtain ⟨-, hdots⟩ := @drawText_turns_about_corner _ _ ⟨['0'], 4, none, 0, true⟩ _ _ _ _ .quarter
    _ _ _ _ _ _ _ _ (Prod.fst_eq_iff.1 hupright) (Prod.fst_eq_iff.1 hturned)
  exact ⟨_, _, Prod.fst_eq_iff.1 hupright, Prod.fst_eq_iff.1 hturned, hdots⟩

end Canvas

end LabelPress
