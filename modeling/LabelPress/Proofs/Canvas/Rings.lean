import LabelPress.Proofs.Canvas.Painted
import Mathlib.Tactic.Ring

/-! # The extent of a ring

A ring is drawn row by row between the boundary dots of two ellipses, and each boundary is walked
from the side to the top. The walk keeps to the quarter of the box in which it began: below the top
it climbs by one row at most, and at the top it only goes inward. So a ring stays in its box. Its
first row reaches out to the sides of the box and leaves no gap as wide as the border there.

* `Inside`: a boundary dot in the quarter of its box, of the right parity.
* `inside_quarter`: the walk stays inside.
* `ringDots`, `painted_ring`: the dots of a ring.
* `ringDots_subset`: they lie in the box.
* `mem_ringDots`: what the middle row covers. -/

namespace LabelPress

/-! ### The boundary -/

/-- A boundary dot in the quarter of its box; the numbers have the parity of the half axes. -/
structure Inside (a b : ℕ) (p : ℕ × ℕ) : Prop where
  x_le : p.1 ≤ a
  y_le : p.2 ≤ b
  x_mod : p.1 % 2 = a % 2
  y_mod : p.2 % 2 = b % 2

section
variable {a b x y : ℕ}

/-- From the top upwards the deviation grows with both coordinates. -/
theorem ellipseDeviation_above (a b x k : ℕ) :
    ellipseDeviation a b x (b + k) = a * a * (k * (2 * b + k)) + b * b * (x * x) := by
  have hdiff : ((a * a * ((b + k) * (b + k)) + b * b * (x * x) : ℕ) - (a * a * (b * b) : ℕ) : ℤ) =
      ((a * a * (k * (2 * b + k)) + b * b * (x * x) : ℕ) : ℤ) := by
    push_cast
    ring
  unfold ellipseDeviation
  rw [hdiff, Int.natAbs_natCast]

/-- **At the top the walk goes inward.** -/
theorem quarterStep_top (hx : 2 ≤ x) (hxa : x ≤ a) : quarterStep a b x b = (x - 2, b) := by
  have hinward : ellipseDeviation a b (x - 2) b = b * b * ((x - 2) * (x - 2)) := by
    have h := ellipseDeviation_above a b (x - 2) 0
    rwa [Nat.add_zero, Nat.zero_mul, Nat.mul_zero, Nat.zero_add] at h
  have hclimb : 0 < a * a * (2 * (2 * b + 2)) :=
    Nat.mul_pos (Nat.mul_pos (by omega) (by omega)) (by omega)
  have hshrink : b * b * ((x - 2) * (x - 2)) ≤ b * b * (x * x) :=
    Nat.mul_le_mul_left _ (Nat.mul_le_mul (Nat.sub_le x 2) (Nat.sub_le x 2))
  unfold quarterStep
  dsimp only
  rw [if_neg (by omega), if_pos]
  rw [hinward, ellipseDeviation_above, ellipseDeviation_above]
  omega

theorem Inside.quarterStep (h : Inside a b (x, y)) (hgo : ¬((x = a % 2 ∧ y = b) ∨ b < y)) :
    Inside a b (quarterStep a b x y) := by
  obtain ⟨hxa, hyb, hxmod, hymod⟩ := h
  dsimp only at hxa hyb hxmod hymod
  by_cases htop : y = b
  · subst htop
    rw [quarterStep_top (by omega) hxa]
    constructor <;> dsimp only <;> omega
  · -- Below the top there is a row of the same parity above.
    unfold LabelPress.quarterStep
    dsimp only
    split_ifs <;> constructor <;> dsimp only <;> omega

/-- **The walk stays inside.** -/
theorem inside_quarterFrom {before : List (ℕ × ℕ)} (h : Inside a b (x, y))
    (hbefore : ∀ p ∈ before, Inside a b p) : ∀ p ∈ quarterFrom a b x y before, Inside a b p := by
  induction x, y, before using quarterFrom.induct a b with
  | case1 x y before hstop =>
    intro p hp
    rw [quarterFrom, if_pos hstop, List.mem_reverse, List.mem_cons] at hp
    obtain rfl | hp := hp
    · exact h
    · exact hbefore p hp
  | case2 x y before hgo next ih =>
    rw [quarterFrom, if_neg hgo]
    refine ih (h.quarterStep hgo) fun p hp => ?_
    obtain rfl | hp := List.mem_cons.1 hp
    · exact h
    · exact hbefore p hp

/-- The walk begins where it is told to. -/
theorem exists_quarterFrom_eq (a b x y : ℕ) (before : List (ℕ × ℕ)) :
    ∃ rest, quarterFrom a b x y before = before.reverse ++ (x, y) :: rest := by
  induction x, y, before using quarterFrom.induct a b with
  | case1 x y before hstop =>
    refine ⟨[], ?_⟩
    rw [quarterFrom, if_pos hstop, List.reverse_cons]
  | case2 x y before hgo next ih =>
    obtain ⟨rest, hrest⟩ := ih
    refine ⟨(next.1, next.2) :: rest, ?_⟩
    rw [quarterFrom, if_neg hgo, hrest, List.reverse_cons, List.append_assoc]
    rfl

end

theorem inside_quarter {a b : ℤ} {p : ℕ × ℕ} (hp : p ∈ quarter a b) :
    0 ≤ a ∧ 0 ≤ b ∧ Inside a.toNat b.toNat p := by
  unfold quarter at hp
  split_ifs at hp with hneg
  · cases hp
  · refine ⟨by omega, by omega, inside_quarterFrom ?_ (fun q hq => by cases hq) p hp⟩
    constructor <;> dsimp only <;> omega

/-- The boundary begins at the side, in the middle row or next to it. -/
theorem exists_quarter_eq {a b : ℤ} (ha : 0 ≤ a) (hb : 0 ≤ b) :
    ∃ rest, quarter a b = (a.toNat, b.toNat % 2) :: rest := by
  obtain ⟨rest, hrest⟩ := exists_quarterFrom_eq a.toNat b.toNat a.toNat (b.toNat % 2) []
  refine ⟨rest, ?_⟩
  unfold quarter
  rw [if_neg (by omega), hrest]
  rfl

/-! ### Rows -/

/-- The row that is laid down next, and whether there are more. -/
theorem ringRowsFrom_step (least : ℕ) (outer inner : List (ℕ × ℕ)) (y r l : ℕ)
    (before : List RingRow) :
    let row : RingRow := ⟨y, r, ((inner.takeWhile (·.2 ≤ y)).getLast?.map Prod.fst).getD l⟩
    outer.dropWhile (·.2 ≤ y) = [] ∧
        ringRowsFrom least outer inner y r l before = (row :: before).reverse ∨
      ∃ p rest inner' l', outer.dropWhile (·.2 ≤ y) = p :: rest ∧
        ringRowsFrom least outer inner y r l before =
          ringRowsFrom least rest inner' p.2 p.1 l' (row :: before) := by
  intro row
  rw [ringRowsFrom]
  dsimp only
  split
  · next hdrop => exact .inl ⟨hdrop, rfl⟩
  · next p rest hdrop => exact .inr ⟨p, rest, _, _, hdrop, rfl⟩

theorem length_lt_of_dropWhile {α : Type} {q : α → Bool} {l rest : List α} {p : α}
    (h : l.dropWhile q = p :: rest) : rest.length < l.length := by
  have hle := (List.dropWhile_sublist q (l := l)).length_le
  rw [h, List.length_cons] at hle
  omega

/-- **What holds of the boundary dots holds of the outer ends of the rows.** -/
theorem ringRowsFrom_outer {P : ℕ × ℕ → Prop} {least y r l : ℕ} {outer inner : List (ℕ × ℕ)}
    {before : List RingRow} (hfirst : P (r, y)) (houter : ∀ p ∈ outer, P p)
    (hbefore : ∀ row ∈ before, P (row.outer, row.y)) :
    ∀ row ∈ ringRowsFrom least outer inner y r l before, P (row.outer, row.y) := by
  induction hlength : outer.length using Nat.strong_induction_on
    generalizing outer inner y r l before with
  | _ n ih =>
    subst hlength
    have hrows : ∀ k, ∀ row ∈ (⟨y, r, k⟩ : RingRow) :: before, P (row.outer, row.y) := by
      intro k row hrow
      obtain rfl | hrow := List.mem_cons.1 hrow
      · exact hfirst
      · exact hbefore row hrow
    obtain ⟨-, heq⟩ | ⟨p, rest, inner', l', hdrop, heq⟩ :=
      ringRowsFrom_step least outer inner y r l before
    · rw [heq]
      intro row hrow
      exact hrows _ row (List.mem_reverse.1 hrow)
    · have hsublist := List.dropWhile_sublist (fun q : ℕ × ℕ => decide (q.2 ≤ y)) (l := outer)
      rw [hdrop] at hsublist
      rw [heq]
      refine ih _ (length_lt_of_dropWhile hdrop) ?_ (fun q hq => ?_) (hrows _) rfl
      · exact houter p (hsublist.subset (List.mem_cons_self ..))
      · exact houter q (hsublist.subset (List.mem_cons_of_mem _ hq))

/-- The rows begin where they are told to. -/
theorem exists_ringRowsFrom_eq (least : ℕ) (outer inner : List (ℕ × ℕ)) (y r l : ℕ)
    (before : List RingRow) :
    ∃ rest, ringRowsFrom least outer inner y r l before = before.reverse ++
      ⟨y, r, ((inner.takeWhile (·.2 ≤ y)).getLast?.map Prod.fst).getD l⟩ :: rest := by
  induction hlength : outer.length using Nat.strong_induction_on
    generalizing outer inner y r l before with
  | _ n ih =>
    subst hlength
    obtain ⟨-, heq⟩ | ⟨p, rest, inner', l', hdrop, heq⟩ :=
      ringRowsFrom_step least outer inner y r l before
    · exact ⟨[], by rw [heq, List.reverse_cons]⟩
    · obtain ⟨rows, hrows⟩ := ih _ (length_lt_of_dropWhile hdrop) rest inner' p.2 p.1 l'
        (⟨y, r, ((inner.takeWhile (·.2 ≤ y)).getLast?.map Prod.fst).getD l⟩ :: before) rfl
      rw [heq, hrows, List.reverse_cons, List.append_assoc]
      exact ⟨_, rfl⟩

section
variable {a b w : ℤ}

/-- **Rows end inside the box.** -/
theorem inside_ringRows {row : RingRow} (h : row ∈ ringRows a b w) :
    Inside a.toNat b.toNat (row.outer, row.y) := by
  unfold ringRows at h
  split_ifs at h
  · cases h
  · have hinside : ∀ p ∈ quarter a b, Inside a.toNat b.toNat p :=
      fun p hp => (inside_quarter hp).2.2
    cases hquarter : quarter a b with
    | nil =>
      rw [hquarter] at h
      cases h
    | cons p outer =>
      rw [hquarter] at h hinside
      exact ringRowsFrom_outer (hinside p (List.mem_cons_self ..))
        (fun q hq => hinside q (List.mem_cons_of_mem _ hq)) (fun row hrow => by cases hrow) row h

/-- **The first row** of a ring reaches from side to side, and what it leaves open is no wider than
the smaller ellipse. -/
theorem exists_ringRow_first (ha : 0 ≤ a) (hb : 0 ≤ b) (hw : 1 ≤ w) (hodd : a % 2 = 1) :
    ∃ k : ℕ, ⟨b.toNat % 2, a.toNat, k⟩ ∈ ringRows a b w ∧ k % 2 = 1 ∧
      (k = 1 ∨ (k : ℤ) ≤ a - 2 * (w - 1)) := by
  obtain ⟨outer, houter⟩ := exists_quarter_eq ha hb
  set inner := quarter (a - 2 * (w - 1)) (b - 2 * (w - 1)) with hinner
  set k := ((inner.takeWhile (·.2 ≤ b.toNat % 2)).getLast?.map Prod.fst).getD (a.toNat % 2) with hk
  refine ⟨k, ?_, ?_⟩
  · obtain ⟨rows, hrows⟩ := exists_ringRowsFrom_eq (a.toNat % 2) outer inner (b.toNat % 2) a.toNat
      (a.toNat % 2) []
    unfold ringRows
    rw [if_neg (by omega), houter]
    dsimp only
    rw [hrows]
    exact List.mem_cons_self ..
  · cases hlast : (inner.takeWhile (·.2 ≤ b.toNat % 2)).getLast? with
    | none =>
      rw [hlast] at hk
      have hone : k = a.toNat % 2 := hk
      omega
    | some p =>
      rw [hlast] at hk
      have hp : p ∈ inner := (List.takeWhile_sublist _).subset (List.mem_of_getLast? hlast)
      have hx : k = p.1 := hk
      obtain ⟨hwide, -, hxle, -, hxmod, -⟩ := inside_quarter hp
      omega

end

/-! ### Dots -/

namespace Canvas

/-- The dots of one stretch of a ring. -/
def stretchDots (x0 y0 a b y : ℤ) (stretch : ℤ × ℤ) : Set (ℤ × ℤ) :=
  {p | stretch.1 ≤ stretch.2 ∧ x0 + (stretch.1 + a).tdiv 2 ≤ p.1 ∧
    p.1 ≤ x0 + (stretch.2 + a).tdiv 2 ∧ p.2 = y0 + (y + b).tdiv 2}

/-- The dots of a ring. -/
def ringDots (x0 y0 x1 y1 w : ℤ) (sides : Sides) : Set (ℤ × ℤ) :=
  {p | ∃ row ∈ ringRows (x1 - x0) (y1 - y0) w, ∃ y ∈ sides.heights row,
    ∃ stretch ∈ row.stretches.map sides.clip, p ∈ stretchDots x0 y0 (x1 - x0) (y1 - y0) y stretch}

theorem painted_fillStretch (color : UInt8) (c : Canvas) (x0 y0 a b y : ℤ) (stretch : ℤ × ℤ) :
    Painted color (stretchDots x0 y0 a b y stretch) c
      (c.fillStretch x0 y0 a b color y stretch) := by
  unfold fillStretch
  split_ifs with hempty
  · refine (Painted.refl c).congr fun i j _ => ?_
    simp only [stretchDots, Set.mem_ofPred_eq, Set.mem_empty_iff_false, false_iff]
    omega
  · refine (painted_fill color c _).congr fun i j _ => ?_
    simp only [stretchDots, Region.dots, Set.mem_ofPred_eq]
    omega

/-- **What a ring paints.** -/
theorem painted_ring (color : UInt8) (c : Canvas) (x0 y0 x1 y1 w : ℤ) (sides : Sides) :
    Painted color (ringDots x0 y0 x1 y1 w sides) c (c.ring x0 y0 x1 y1 w sides color) :=
  painted_foldl (fun _ c => painted_foldl (fun y c => painted_foldl (fun stretch c =>
    painted_fillStretch color c x0 y0 _ _ y stretch) _ c) _ c) _ c

section
variable {x0 y0 x1 y1 w : ℤ}

theorem mem_stretches {row : RingRow} {stretch : ℤ × ℤ} (h : stretch ∈ row.stretches) :
    -(row.outer : ℤ) ≤ stretch.1 ∧ stretch.2 ≤ row.outer := by
  unfold RingRow.stretches at h
  obtain rfl | h := List.mem_cons.1 h
  · dsimp only
    omega
  · by_cases hopen : 0 < row.inner ∨ row.inner < row.outer
    · rw [if_pos hopen] at h
      obtain rfl := List.mem_singleton.1 h
      dsimp only
      split_ifs <;> omega
    · rw [if_neg hopen] at h
      cases h

theorem mem_heights {sides : Sides} {row : RingRow} {y : ℤ} (h : y ∈ sides.heights row) :
    y = row.y ∨ y = -row.y := by
  unfold Sides.heights at h
  have h := (List.mem_filter.1 h).1
  split_ifs at h with hzero
  · obtain rfl := List.mem_singleton.1 h
    omega
  · simpa using h

/-- **A ring stays in its box.** -/
theorem ringDots_subset (hx : x0 ≤ x1) (hy : y0 ≤ y1) (sides : Sides) :
    ringDots x0 y0 x1 y1 w sides ⊆ boxDots x0 y0 x1 y1 := by
  rintro ⟨i, j⟩ ⟨row, hrow, y, hy, stretch, hstretch, hlength, hleft, hright, hj⟩
  obtain ⟨hxle, hyle, -, -⟩ := inside_ringRows hrow
  obtain ⟨s, hs, rfl⟩ := List.mem_map.1 hstretch
  obtain ⟨hstart, hend⟩ := mem_stretches hs
  have hheight := mem_heights hy
  have hclip : -(x1 - x0) ≤ (sides.clip s).1 ∧ (sides.clip s).2 ≤ x1 - x0 := by
    unfold Sides.clip
    dsimp only
    split_ifs <;> omega
  dsimp only at hj hleft hright hxle hyle
  rw [Int.tdiv_eq_ediv_of_nonneg (by omega)] at hj hleft hright
  simp only [boxDots, Set.mem_ofPred_eq]
  omega

/-- **The middle row of a ring** is covered as far from the sides as the ring is wide. -/
theorem mem_ringDots {i j : ℤ} (hi : x0 ≤ i ∧ i ≤ x1) (hodd : (x1 - x0) % 2 = 1) (hw : 1 ≤ w)
    (hnear : i < x0 + w ∨ x1 - w < i) (hj : 2 * (j - y0) = y1 - y0) (hy : y0 ≤ y1) :
    (i, j) ∈ ringDots x0 y0 x1 y1 w {} := by
  obtain ⟨k, hrow, hk, hopen⟩ := exists_ringRow_first (b := y1 - y0) (by omega) (by omega) hw hodd
  refine ⟨_, hrow, 0, ?_, ?_⟩
  · have hzero : (y1 - y0).toNat % 2 = 0 := by omega
    simp [Sides.heights, hzero]
  · have hrows : j = y0 + (0 + (y1 - y0)).tdiv 2 := by
      rw [Int.tdiv_eq_ediv_of_nonneg (by omega)]
      omega
    have hpos : 0 < k := by omega
    -- Left of the opening or right of it.
    by_cases hleft : 2 * (i - x0) - (x1 - x0) ≤ -k
    · refine ⟨(-((x1 - x0).toNat : ℤ), -(k : ℤ)), ?_, ?_⟩
      · exact List.mem_map.2 ⟨_, List.mem_cons_self .., rfl⟩
      · have hstart : (-((x1 - x0).toNat : ℤ) + (x1 - x0)).tdiv 2 = 0 := by
          rw [Int.tdiv_eq_ediv_of_nonneg (by omega)]
          omega
        refine ⟨by dsimp only; omega, by dsimp only; omega, ?_, hrows⟩
        dsimp only
        rw [Int.tdiv_eq_ediv_of_nonneg (by omega)]
        omega
    · refine ⟨((k : ℤ), ((x1 - x0).toNat : ℤ)), ?_, ?_⟩
      · refine List.mem_map.2 ⟨((k : ℤ), ((x1 - x0).toNat : ℤ)), List.mem_cons_of_mem _ ?_, rfl⟩
        dsimp only
        rw [if_pos (.inl hpos), if_neg hpos.ne']
        exact List.mem_singleton_self _
      · refine ⟨by dsimp only; omega, ?_, ?_, hrows⟩
        · dsimp only
          rw [Int.tdiv_eq_ediv_of_nonneg (by omega)]
          omega
        · dsimp only
          rw [Int.tdiv_eq_ediv_of_nonneg (by omega)]
          omega

end

end Canvas

end LabelPress
