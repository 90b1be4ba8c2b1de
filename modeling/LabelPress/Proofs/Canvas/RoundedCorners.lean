import LabelPress.Proofs.Canvas.Rings
import LabelPress.Proofs.Number.Grid

/-! # Boxes with rounded corners

Between whole coordinates and with a radius of whole halves everything about a rounded box is whole:
its corners are squares of whole sides, and no coordinate is rounded. The corners stay in the box,
and the straight parts between them leave no gap; only a border in a box of a single row goes
astray.

* `roundedBox_eq`: the box in whole numbers.
* `draws_drawPiece`, `draws_drawPieces`: the corners.
* `draws_straights`: the straight parts.
* `draws_roundedBox`: the whole box. -/

namespace LabelPress

/-- The width of the ring in a square. -/
def Finish.ringWidth (a b : ℤ) : Finish → ℤ
  | filled => a + b
  | outlined t => t

/-- The columns, or rows, that a box covers near two opposite sides. -/
def Finish.rim (n0 n1 : ℤ) : Finish → Set ℤ
  | filled => Set.univ
  | outlined t => {n | n < n0 + t ∨ n1 - t < n}

@[simp] theorem Finish.mem_rim_filled {n n0 n1 : ℤ} : n ∈ filled.rim n0 n1 := trivial

@[simp] theorem Finish.mem_rim_outlined {n n0 n1 t : ℤ} :
    n ∈ (outlined t).rim n0 n1 ↔ n < n0 + t ∨ n1 - t < n := Iff.rfl

/-- A border has a thickness that can be counted, and lies inside the box. -/
def Finish.Fits (w h : ℤ) : Finish → Prop
  | filled => True
  | outlined t => 1 ≤ t ∧ t ≤ w ∧ t ≤ h

namespace Canvas
variable {color : UInt8}

/-! ### Whole coordinates -/

theorem lesser_eq_min (a b : ℚ) : lesser a b = min a b := by
  rw [lesser, min_def]

theorem lesser_intCast (a b : ℤ) : lesser (a : ℚ) b = (min a b : ℤ) := by
  rw [lesser_eq_min, Int.cast_min]

theorem lesser_half (a b : ℤ) :
    lesser ((a : ℚ) / 2) ((b : ℚ) / 2) = ((min a b : ℤ) : ℚ) / 2 := by
  rw [lesser_eq_min, Int.cast_min, min_div_div_right (by norm_num)]

/-- Half of a side is a double. -/
theorem halfSide_eq {n : ℤ} (h : 0 ≤ n ∧ n < 0x2000000) : halfSide n = .ok ((n : ℚ) / 2) := by
  have hgrid : Binary64.OnGrid ((n : ℚ) / 2) := by
    refine ⟨n, -1, ?_, by norm_num, by norm_num; ring⟩
    rw [abs_of_nonneg h.1]
    omega
  have hnearest := Binary64.nearest_of_onGrid hgrid
  have hfinite : Binary64.isFinite ((n : ℚ) / 2) = true := by
    have hpos : (0 : ℚ) ≤ n := by exact_mod_cast h.1
    have hlt : (n : ℚ) < 0x2000000 := by exact_mod_cast h.2
    have hbound : (0x2000000 : ℚ) ≤ 2 ^ (1024 : ℤ) := by
      refine le_of_eq_of_le ?_ (zpow_le_zpow_right₀ (by norm_num) (by norm_num : (25 : ℤ) ≤ 1024))
      norm_num
    unfold Binary64.isFinite
    dsimp only
    rw [hnearest, Bool.and_eq_true, decide_eq_true_eq, decide_eq_true_eq]
    generalize (2 : ℚ) ^ (1024 : ℤ) = bound at hbound
    constructor <;> linarith
  unfold halfSide
  dsimp only
  rw [if_pos hfinite, hnearest]

theorem offsetBy_intCast (base way : ℤ) : offsetBy base way = .ok ((base + way : ℤ) : ℚ) := by
  unfold offsetBy
  rw [if_pos (Rat.den_intCast way)]
  push_cast
  rfl

theorem roundSurface_intCast {n : ℤ} (h : n.natAbs < 0x1000000) :
    roundSurface (n : ℚ) = (n : ℚ) := by
  unfold roundSurface
  rw [if_pos (Rat.den_intCast n), Rat.num_intCast, surfaceOf_of_small h]

theorem roundDot_intCast {n : ℤ} (h : n.natAbs < 0x1000000) : roundDot (n : ℚ) = n := by
  unfold roundDot
  rw [if_pos (Rat.den_intCast n), Rat.num_intCast, dotOf_of_small h]

/-- **A rounded box in whole numbers**: twice the radius is one, and so is all that follows. -/
theorem roundedBox_eq (finish : Finish) (x0 y0 x1 y1 m : ℤ) (color : UInt8) :
    roundedBox finish x0 y0 x1 y1 ((m : ℚ) / 2) color =
      let d := min (min (x1 - x0) (y1 - y0)) m
      let wide := decide (x1 - x0 - 1 ≤ d)
      let d := if wide then x1 - x0 else d
      let high := decide (y1 - y0 - 1 ≤ d)
      let d := if high then y1 - y0 else d
      if wide && high then drawPiece finish ⟨x0, y0, x1, y1, {}⟩ true color
      else if d = 0 then squareBox finish x0 y0 x1 y1 color
      else
        (do
          drawPieces finish color (← ofExcept (cornerPieces x0 y0 x1 y1 (d : ℚ) wide high))
          straights finish x0 y0 x1 y1 (d / 2) wide high color) := by
  have hdouble : 2 * ((m : ℚ) / 2) = m := by ring
  have hcast : ∀ a d : ℤ, decide ((a : ℚ) - 1 ≤ d) = decide (a - 1 ≤ d) := by
    intro a d
    rw [decide_eq_decide]
    exact_mod_cast Iff.rfl
  have hpick : ∀ (p : Bool) (a b : ℤ),
      (if p then (a : ℚ) else b) = ((if p then a else b : ℤ) : ℚ) := by
    intro p a b
    cases p <;> rfl
  have hhalf : ∀ d : ℤ, ((d : ℚ) / 2).floor = d / 2 := by
    intro d
    exact Rat.floor_intCast_div_natCast d 2
  unfold roundedBox
  dsimp only
  rw [hdouble, lesser_intCast, lesser_intCast, hcast, hpick, hcast, hpick]
  simp only [hhalf, Int.cast_eq_zero]

/-! ### Corners -/

/-- **A corner**, or a whole ellipse, is a ring. -/
theorem draws_drawPiece {l t r b w h : ℤ} {finish : Finish} (hcorners : Corners l t r b)
    (hfits : finish.Fits w h) (hw : w < 0x80000000) (sides : Sides) (whole : Bool) :
    Draws color (ringDots l t r b (finish.ringWidth (r - l) (b - t)) sides)
      (ringDots l t r b (finish.ringWidth (r - l) (b - t)) sides)
      (drawPiece finish ⟨l, t, r, b, sides⟩ whole color) := by
  have hring : drawPiece finish ⟨l, t, r, b, sides⟩ whole color =
      Canvas.edit (·.ring l t r b (finish.ringWidth (r - l) (b - t)) sides color) := by
    have hlost : ([(l : ℚ), (t : ℚ), (r : ℚ), (b : ℚ)].any fun q => q.den = 1 && isLost q.num) =
        false := by
      simp [isLost_of_small hcorners.left, isLost_of_small hcorners.top,
        isLost_of_small hcorners.right, isLost_of_small hcorners.bottom]
    have hleft := roundSurface_intCast hcorners.left
    have htop := roundSurface_intCast hcorners.top
    have hright := roundSurface_intCast hcorners.right
    have hbottom := roundSurface_intCast hcorners.bottom
    have hl := roundDot_intCast hcorners.left
    have ht := roundDot_intCast hcorners.top
    have hr := roundDot_intCast hcorners.right
    have hb := roundDot_intCast hcorners.bottom
    have hcolumns : ¬(r : ℚ) < l := not_lt.2 (by exact_mod_cast hcorners.columns)
    have hrows : ¬(b : ℚ) < t := not_lt.2 (by exact_mod_cast hcorners.rows)
    cases finish with
    | filled =>
      unfold drawPiece
      dsimp only
      rw [hlost, hleft, htop, hright, hbottom, if_neg hcolumns, if_neg hrows, hl, ht, hr, hb]
      rfl
    | outlined n =>
      obtain ⟨hone, hle, -⟩ := hfits
      have hword : checkWord n = .ok () := checkWord_eq_ok_iff.2 (by omega)
      unfold drawPiece checkThickness
      dsimp only
      rw [hlost, hword, hleft, htop, hright, hbottom, if_neg hcolumns, if_neg hrows, hl, ht, hr, hb]
      rfl
  rw [hring]
  exact .edit fun c _ => painted_ring color c l t r b _ sides

/-- A part of the round border between whole coordinates in a box. -/
inductive Piece.Within (x0 y0 x1 y1 : ℤ) : Piece → Prop
  | mk {l t r b : ℤ} (sides : Sides) (columns : x0 ≤ l ∧ l ≤ r ∧ r ≤ x1)
    (rows : y0 ≤ t ∧ t ≤ b ∧ b ≤ y1) : Piece.Within x0 y0 x1 y1 ⟨l, t, r, b, sides⟩

section
variable {x0 y0 x1 y1 w h : ℤ} {finish : Finish}

/-- **Corners stay in the box.** -/
theorem exists_cornerPieces {d : ℤ} (hd : 0 ≤ d) (hw : d ≤ x1 - x0) (hh : d ≤ y1 - y0)
    (wide high : Bool) :
    ∃ pieces, cornerPieces x0 y0 x1 y1 (d : ℚ) wide high = .ok pieces ∧
      ∀ p ∈ pieces, Piece.Within x0 y0 x1 y1 p := by
  have hneg : (-(d : ℚ)) = ((-d : ℤ) : ℚ) := by push_cast; rfl
  unfold cornerPieces
  rw [hneg, offsetBy_intCast, offsetBy_intCast, offsetBy_intCast, offsetBy_intCast]
  have hleft : x0 ≤ x0 ∧ x0 ≤ x0 + d ∧ x0 + d ≤ x1 := by omega
  have hright : x0 ≤ x1 + -d ∧ x1 + -d ≤ x1 ∧ x1 ≤ x1 := by omega
  have htop : y0 ≤ y0 ∧ y0 ≤ y0 + d ∧ y0 + d ≤ y1 := by omega
  have hbottom : y0 ≤ y1 + -d ∧ y1 + -d ≤ y1 ∧ y1 ≤ y1 := by omega
  cases wide with
  | true =>
    refine ⟨_, rfl, ?_⟩
    simp only [List.forall_mem_cons, List.not_mem_nil, false_imp_iff, implies_true, and_true]
    exact ⟨.mk _ hleft htop, .mk _ hleft hbottom⟩
  | false =>
    cases high with
    | true =>
      refine ⟨_, rfl, ?_⟩
      simp only [List.forall_mem_cons, List.not_mem_nil, false_imp_iff, implies_true, and_true]
      exact ⟨.mk _ hleft htop, .mk _ hright htop⟩
    | false =>
      refine ⟨_, rfl, ?_⟩
      simp only [List.forall_mem_cons, List.not_mem_nil, false_imp_iff, implies_true, and_true]
      exact ⟨.mk _ hleft htop, .mk _ hright htop, .mk _ hright hbottom, .mk _ hleft hbottom⟩

/-- **Round corners paint nothing outside the box.** -/
theorem draws_drawPieces (hcorners : Corners x0 y0 x1 y1) (hfits : finish.Fits w h)
    (hw : w < 0x80000000) {pieces : List Piece}
    (hpieces : ∀ p ∈ pieces, Piece.Within x0 y0 x1 y1 p) :
    Draws color ∅ (boxDots x0 y0 x1 y1) (drawPieces finish color pieces) := by
  induction pieces with
  | nil => exact Draws.pure.mono subset_rfl (Set.empty_subset _)
  | cons p pieces ih =>
    obtain @⟨l, t, r, b, sides, hcolumns, hrows⟩ := hpieces p (List.mem_cons_self ..)
    have hsmall : Corners l t r b := hcorners.sub hcolumns hrows
    have hpiece : Draws color _ _ (drawPiece finish ⟨l, t, r, b, sides⟩ false color) :=
      draws_drawPiece hsmall hfits hw sides false
    have hrest := ih fun q hq => hpieces q (List.mem_cons_of_mem _ hq)
    refine (hpiece.bind hrest).mono (Set.empty_subset _) (Set.union_subset ?_ subset_rfl)
    refine (ringDots_subset hsmall.columns hsmall.rows sides).trans ?_
    rintro ⟨i, j⟩ hin
    simp only [boxDots, Set.mem_ofPred_eq] at hin ⊢
    omega

/-! ### Straight parts -/

/-- What the straight parts between corners of `r` dots cover: rows at the top and at the bottom,
and columns on the left and on the right. -/
def middleDots (finish : Finish) (x0 y0 x1 y1 r : ℤ) (wide high : Bool) : Set (ℤ × ℤ) :=
  {p | p ∈ boxDots x0 y0 x1 y1 ∧
    (wide = false ∧ x0 + r < p.1 ∧ p.1 < x1 - r ∧ p.2 ∈ finish.rim y0 y1 ∨
      high = false ∧ y0 + r < p.2 ∧ p.2 < y1 - r ∧ p.1 ∈ finish.rim x0 x1)}

@[simp] theorem mem_middleDots {i j r : ℤ} {wide high : Bool} :
    (i, j) ∈ middleDots finish x0 y0 x1 y1 r wide high ↔ (i, j) ∈ boxDots x0 y0 x1 y1 ∧
      (wide = false ∧ x0 + r < i ∧ i < x1 - r ∧ j ∈ finish.rim y0 y1 ∨
        high = false ∧ y0 + r < j ∧ j < y1 - r ∧ i ∈ finish.rim x0 x1) := Iff.rfl

/-- **The straight parts.** -/
theorem draws_straights (hcorners : Corners x0 y0 x1 y1)
    (hfits : finish.Fits (x1 - x0 + 1) (y1 - y0 + 1)) {r : ℤ} (hr : 0 ≤ r) {wide high : Bool}
    (hsome : (wide && high) = false) (hcolumns : wide = false → x0 + r + 1 ≤ x1 - r - 1)
    (hrows : high = false → y0 + r + 1 ≤ y1 - r - 1) :
    Draws color (middleDots finish x0 y0 x1 y1 r wide high) (boxDots x0 y0 x1 y1)
      (straights finish x0 y0 x1 y1 r wide high color) := by
  have hx := hcorners.columns
  have hy := hcorners.rows
  have box : ∀ {a b a' b' : ℤ}, x0 ≤ a ∧ a ≤ a' ∧ a' ≤ x1 → y0 ≤ b ∧ b ≤ b' ∧ b' ≤ y1 →
      Draws color (boxDots a b a' b') (boxDots a b a' b') (fillBox a b a' b' color) :=
    fun ha hb => draws_fillBox (hcorners.sub ha hb)
  cases finish with
  | filled =>
    cases wide with
    | true =>
      cases high with
      | true => cases hsome
      | false =>
        have hrows := hrows rfl
        have hall := (@box x0 (y0 + r + 1) x1 (y1 - r - 1) (by omega) (by omega)).bind Draws.pure
        refine hall.mono ?_ ?_ <;> rintro ⟨i, j⟩ <;> simp <;> omega
    | false =>
      have hcolumns := hcolumns rfl
      have hmiddle := @box (x0 + r + 1) y0 (x1 - r - 1) y1 (by omega) (by omega)
      unfold straights
      rw [if_neg Bool.false_ne_true, if_pos hcolumns]
      cases high with
      | true =>
        have hall := hmiddle.bind Draws.pure
        refine hall.mono ?_ ?_ <;> rintro ⟨i, j⟩ <;> simp <;> omega
      | false =>
        have hrows := hrows rfl
        have hleft := @box x0 (y0 + r + 1) (x0 + r) (y1 - r - 1) (by omega) (by omega)
        have hright := @box (x1 - r) (y0 + r + 1) x1 (y1 - r - 1) (by omega) (by omega)
        have hall := hmiddle.bind (hleft.bind hright)
        refine hall.mono ?_ ?_ <;> rintro ⟨i, j⟩ <;> simp <;> omega
  | outlined t =>
    obtain ⟨hone, hwidth, hheight⟩ := hfits
    cases wide with
    | true =>
      cases high with
      | true => cases hsome
      | false =>
        have hrows := hrows rfl
        have hleft := @box x0 (y0 + r + 1) (x0 + t - 1) (y1 - r - 1) (by omega) (by omega)
        have hright := @box (x1 - t + 1) (y0 + r + 1) x1 (y1 - r - 1) (by omega) (by omega)
        refine (hleft.bind hright).mono ?_ ?_ <;> rintro ⟨i, j⟩ <;> simp <;> omega
    | false =>
      have hcolumns := hcolumns rfl
      have htop := @box (x0 + r + 1) y0 (x1 - r - 1) (y0 + t - 1) (by omega) (by omega)
      have hbottom := @box (x0 + r + 1) (y1 - t + 1) (x1 - r - 1) y1 (by omega) (by omega)
      cases high with
      | true =>
        have hall := htop.bind (hbottom.bind Draws.pure)
        refine hall.mono ?_ ?_ <;> rintro ⟨i, j⟩ <;> simp <;> omega
      | false =>
        have hrows := hrows rfl
        have hleft := @box x0 (y0 + r + 1) (x0 + t - 1) (y1 - r - 1) (by omega) (by omega)
        have hright := @box (x1 - t + 1) (y0 + r + 1) x1 (y1 - r - 1) (by omega) (by omega)
        have hall := htop.bind (hbottom.bind (hleft.bind hright))
        refine hall.mono ?_ ?_ <;> rintro ⟨i, j⟩ <;> simp <;> omega

/-! ### The whole box -/

/-- What a rounded box covers for certain, for twice the radius `m`: the columns between the corners
near the top and the bottom, and the rows between the corners near the left and the right. -/
def roundedDots (finish : Finish) (x0 y0 x1 y1 m : ℤ) : Set (ℤ × ℤ) :=
  {p | p ∈ boxDots x0 y0 x1 y1 ∧
    (m < 2 * (p.1 - x0) ∧ m < 2 * (x1 - p.1) ∧ p.2 ∈ finish.rim y0 y1 ∨
      m < 2 * (p.2 - y0) ∧ m < 2 * (y1 - p.2) ∧ p.1 ∈ finish.rim x0 x1)}

/-- Corners with straight parts between them. -/
theorem draws_cornered (hcorners : Corners x0 y0 x1 y1)
    (hfits : finish.Fits (x1 - x0 + 1) (y1 - y0 + 1)) {d : ℤ} (hd : 0 ≤ d)
    (hw : d ≤ x1 - x0) (hh : d ≤ y1 - y0) {wide high : Bool}
    (hsome : (wide && high) = false) (hcolumns : wide = false → x0 + d / 2 + 1 ≤ x1 - d / 2 - 1)
    (hrows : high = false → y0 + d / 2 + 1 ≤ y1 - d / 2 - 1) :
    Draws color (middleDots finish x0 y0 x1 y1 (d / 2) wide high) (boxDots x0 y0 x1 y1) (do
      drawPieces finish color (← ofExcept (cornerPieces x0 y0 x1 y1 (d : ℚ) wide high))
      straights finish x0 y0 x1 y1 (d / 2) wide high color) := by
  obtain ⟨pieces, hpieces, hwithin⟩ := exists_cornerPieces hd hw hh wide high
  have hsmall : x1 - x0 + 1 < 0x80000000 := by
    have hwide := hcorners.width_sub_lt
    omega
  have hround : Draws color ∅ (boxDots x0 y0 x1 y1) (drawPieces finish color pieces) :=
    draws_drawPieces hcorners hfits hsmall hwithin
  have hstraight : Draws color (middleDots finish x0 y0 x1 y1 (d / 2) wide high)
      (boxDots x0 y0 x1 y1) (straights finish x0 y0 x1 y1 (d / 2) wide high color) :=
    draws_straights hcorners hfits (by omega) hsome hcolumns hrows
  rw [hpieces]
  exact (hround.bind hstraight).mono Set.subset_union_right
    (Set.union_subset subset_rfl subset_rfl)

/-- What lies between corners of `r` dots, if the columns and rows there are those between corners
of half of `m`. -/
theorem roundedDots_subset {m r : ℤ} {wide high : Bool}
    (hcolumns : ∀ i, m < 2 * (i - x0) → m < 2 * (x1 - i) → wide = false ∧ x0 + r < i ∧ i < x1 - r)
    (hrows : ∀ j, m < 2 * (j - y0) → m < 2 * (y1 - j) → high = false ∧ y0 + r < j ∧ j < y1 - r) :
    roundedDots finish x0 y0 x1 y1 m ⊆ middleDots finish x0 y0 x1 y1 r wide high := by
  rintro ⟨i, j⟩ ⟨hbox, ⟨hleft, hright, hrim⟩ | ⟨htop, hbottom, hrim⟩⟩
  · obtain ⟨hwide, hlow, hhigh⟩ := hcolumns i hleft hright
    exact ⟨hbox, .inl ⟨hwide, hlow, hhigh, hrim⟩⟩
  · obtain ⟨hhigh, hlow, hup⟩ := hrows j htop hbottom
    exact ⟨hbox, .inr ⟨hhigh, hlow, hup, hrim⟩⟩

/-- **Where a border goes astray**: below both ends of a box of a single row that has more than two
columns. -/
def strayDots (finish : Finish) (x0 y0 x1 y1 : ℤ) : Set (ℤ × ℤ) :=
  {p | finish ≠ .filled ∧ y1 = y0 ∧ x0 + 2 ≤ x1 ∧ p.2 = y0 + 1 ∧ (p.1 = x0 ∨ p.1 = x1)}

@[simp] theorem mem_strayDots {i j : ℤ} :
    (i, j) ∈ strayDots finish x0 y0 x1 y1 ↔
      finish ≠ .filled ∧ y1 = y0 ∧ x0 + 2 ≤ x1 ∧ j = y0 + 1 ∧ (i = x0 ∨ i = x1) := Iff.rfl

/-- A box of a single column or row has square corners. -/
theorem draws_squareBox (hcorners : Corners x0 y0 x1 y1)
    (hfits : finish.Fits (x1 - x0 + 1) (y1 - y0 + 1))
    (hthin : x1 = x0 ∧ y0 + 2 ≤ y1 ∨ y1 = y0 ∧ x0 + 2 ≤ x1) :
    Draws color (boxDots x0 y0 x1 y1 ∪ strayDots finish x0 y0 x1 y1)
      (boxDots x0 y0 x1 y1 ∪ strayDots finish x0 y0 x1 y1)
      (squareBox finish x0 y0 x1 y1 color) := by
  cases finish with
  | filled =>
    refine (draws_fillBox hcorners).mono ?_ ?_ <;> rintro ⟨i, j⟩ <;> simp
  | outlined t =>
    obtain ⟨hone, hwidth, hheight⟩ := hfits
    obtain rfl : t = 1 := by omega
    refine (draws_strokeBox hcorners (by omega)).mono ?_ ?_ <;> rintro ⟨i, j⟩ <;>
      simp [borderDots, columnDots] <;> omega

/-- **The ellipse** that a box becomes whose corners are as wide and as high as the box. Between its
corners there is at most a middle row, of a box that is one dot higher than wide. -/
theorem draws_ellipse (hcorners : Corners x0 y0 x1 y1)
    (hfits : finish.Fits (x1 - x0 + 1) (y1 - y0 + 1)) {m : ℤ}
    (hcolumns : ∀ i, m < 2 * (i - x0) → ¬m < 2 * (x1 - i))
    (hrows : ∀ j, m < 2 * (j - y0) → m < 2 * (y1 - j) →
      2 * (j - y0) = y1 - y0 ∧ y1 - y0 = x1 - x0 + 1) :
    Draws color (roundedDots finish x0 y0 x1 y1 m) (boxDots x0 y0 x1 y1)
      (drawPiece finish ⟨x0, y0, x1, y1, {}⟩ true color) := by
  have hx := hcorners.columns
  have hy := hcorners.rows
  have hsmall : x1 - x0 + 1 < 0x80000000 := by
    have hwide := hcorners.width_sub_lt
    omega
  refine (draws_drawPiece hcorners hfits hsmall {} true).mono ?_ (ringDots_subset hx hy {})
  rintro ⟨i, j⟩ ⟨⟨hleft, hright, -, -⟩, ⟨hfar, hfar', -⟩ | ⟨htop, hbottom, hrim⟩⟩
  · exact absurd hfar' (hcolumns i hfar)
  · dsimp only at hleft hright htop hbottom hrim
    obtain ⟨hj, hhigher⟩ := hrows j htop hbottom
    have hodd : (x1 - x0) % 2 = 1 := by omega
    cases finish with
    | filled =>
      have hall : i < x0 + (x1 - x0 + (y1 - y0)) := by omega
      have hwide : 1 ≤ x1 - x0 + (y1 - y0) := by omega
      exact mem_ringDots ⟨hleft, hright⟩ hodd hwide (.inl hall) hj hy
    | outlined t => exact mem_ringDots ⟨hleft, hright⟩ hodd hfits.1 hrim hj hy

/-- **A rounded box** covers what lies between its corners, and stays in its box unless a border
goes astray. -/
theorem draws_roundedBox (hcorners : Corners x0 y0 x1 y1)
    (hfits : finish.Fits (x1 - x0 + 1) (y1 - y0 + 1)) {rounding m : ℤ} (hround : 1 ≤ rounding)
    (hm : m = min (2 * rounding) (min (x1 - x0 + 1) (y1 - y0 + 1))) :
    Draws color (roundedDots finish x0 y0 x1 y1 m ∪ strayDots finish x0 y0 x1 y1)
      (boxDots x0 y0 x1 y1 ∪ strayDots finish x0 y0 x1 y1)
      (roundedBox finish x0 y0 x1 y1 ((m : ℚ) / 2) color) := by
  have hx := hcorners.columns
  have hy := hcorners.rows
  rw [roundedBox_eq]
  dsimp only
  by_cases hthin : x1 = x0 ∧ y0 + 2 ≤ y1 ∨ y1 = y0 ∧ x0 + 2 ≤ x1
  · -- A single column is as wide as its corners, a single row as high.
    have hsquare : Draws color (roundedDots finish x0 y0 x1 y1 m ∪ strayDots finish x0 y0 x1 y1)
        (boxDots x0 y0 x1 y1 ∪ strayDots finish x0 y0 x1 y1)
        (squareBox finish x0 y0 x1 y1 color) :=
      (draws_squareBox hcorners hfits hthin).mono
        (Set.union_subset_union_left _ fun p hp => hp.1) subset_rfl
    obtain ⟨hcolumn, hrows⟩ | ⟨hrow, hcolumns⟩ := hthin
    · have hwide : x1 - x0 - 1 ≤ min (min (x1 - x0) (y1 - y0)) m := by omega
      have hhigh : ¬y1 - y0 - 1 ≤ x1 - x0 := by omega
      simp only [hwide, hhigh, decide_true, decide_false, if_true, Bool.and_false,
        Bool.false_eq_true, if_false]
      rwa [if_pos (by omega)]
    · have hwide : ¬x1 - x0 - 1 ≤ min (min (x1 - x0) (y1 - y0)) m := by omega
      have hhigh : y1 - y0 - 1 ≤ min (min (x1 - x0) (y1 - y0)) m := by omega
      simp only [hwide, hhigh, decide_true, decide_false, if_true, Bool.false_and,
        Bool.false_eq_true, if_false]
      rwa [if_pos (by omega)]
  · have hstray : strayDots finish x0 y0 x1 y1 = ∅ := by
      ext ⟨i, j⟩
      simp only [mem_strayDots, Set.mem_empty_iff_false, iff_false]
      omega
    rw [hstray, Set.union_empty, Set.union_empty]
    by_cases hwide : x1 - x0 - 1 ≤ min (min (x1 - x0) (y1 - y0)) m
    · by_cases hhigh : y1 - y0 - 1 ≤ x1 - x0
      · simp only [hwide, hhigh, decide_true, if_true, Bool.and_self]
        exact draws_ellipse hcorners hfits (by omega) (by omega)
      · simp only [hwide, hhigh, decide_true, decide_false, if_true, Bool.and_false,
          Bool.false_eq_true, if_false]
        rw [if_neg (by omega)]
        refine (draws_cornered hcorners hfits (by omega) le_rfl (by omega) rfl ?_ ?_).mono
          (roundedDots_subset ?_ ?_) subset_rfl
        · intro h
          cases h
        · omega
        · omega
        · exact fun j h h' => ⟨rfl, by omega, by omega⟩
    · by_cases hhigh : y1 - y0 - 1 ≤ min (min (x1 - x0) (y1 - y0)) m
      · simp only [hwide, hhigh, decide_true, decide_false, if_true, Bool.false_and,
          Bool.false_eq_true, if_false]
        rw [if_neg (by omega)]
        refine (draws_cornered hcorners hfits (by omega) (by omega) le_rfl rfl ?_ ?_).mono
          (roundedDots_subset ?_ ?_) subset_rfl
        · omega
        · intro h
          cases h
        · exact fun i h h' => ⟨rfl, by omega, by omega⟩
        · omega
      · simp only [hwide, hhigh, decide_false, Bool.false_and, Bool.false_eq_true, if_false]
        rw [if_neg (by omega)]
        refine (draws_cornered hcorners hfits (by omega) (by omega) (by omega) rfl ?_ ?_).mono
          (roundedDots_subset ?_ ?_) subset_rfl
        · omega
        · omega
        · exact fun i h h' => ⟨rfl, by omega, by omega⟩
        · exact fun j h h' => ⟨rfl, by omega, by omega⟩

/-- How a box of a thickness is drawn. -/
def finishOf : Option ℤ → Finish
  | none => .filled
  | some t => .outlined (max 1 t)

/-- **A rounded box of a given size** and a radius that is not too large for it. -/
theorem draws_roundedRect {x y w h rounding m : ℤ} {thickness : Option ℤ}
    (hcorners : Corners x y (x + w - 1) (y + h - 1)) (hfits : (finishOf thickness).Fits w h)
    (hround : 1 ≤ rounding) (hm : m = min (2 * rounding) (min w h)) :
    Draws color
      (roundedDots (finishOf thickness) x y (x + w - 1) (y + h - 1) m ∪
        strayDots (finishOf thickness) x y (x + w - 1) (y + h - 1))
      (boxDots x y (x + w - 1) (y + h - 1) ∪
        strayDots (finishOf thickness) x y (x + w - 1) (y + h - 1))
      (roundedRect x y w h ((m : ℚ) / 2) color.toNat thickness) := by
  have hwidth := hcorners.width_lt
  have hheight := hcorners.height_lt
  have hlimit : limitedRadius w h ((m : ℚ) / 2) = .ok ((m : ℚ) / 2) := by
    have hmin : min m (min w h) = m := by omega
    have hpos : ¬((m : ℚ) / 2 < 0) := by
      have hm0 : (0 : ℚ) ≤ m := by exact_mod_cast (by omega : 0 ≤ m)
      linarith
    unfold limitedRadius
    rw [halfSide_eq hwidth, halfSide_eq hheight]
    dsimp only [bind, Except.bind, pure, Except.pure]
    rw [lesser_half, lesser_half, hmin, if_neg hpos]
  have hm' : m = min (2 * rounding) (min (x + w - 1 - x + 1) (y + h - 1 - y + 1)) := by omega
  have hfits' : (finishOf thickness).Fits (x + w - 1 - x + 1) (y + h - 1 - y + 1) := by
    have hw : x + w - 1 - x + 1 = w := by omega
    have hh : y + h - 1 - y + 1 = h := by omega
    rw [hw, hh]
    exact hfits
  have hcolumns := hcorners.columns
  have hrows := hcorners.rows
  unfold roundedRect
  rw [if_neg (by omega), hlimit, grayOf_toNat]
  cases thickness with
  | none => exact draws_roundedBox hcorners hfits' hround hm'
  | some t => exact draws_roundedBox hcorners hfits' hround hm'

end

end Canvas

end LabelPress
