import LabelPress.Canvas.Draw

/-!
# Elliptic rings

The ring between an ellipse inscribed in a square of dots and a smaller one with the same centre.
All reckoning is in half dots around the centre, so that centres between two dots need no fractions:
the ellipse inscribed in a box of `a + 1` by `b + 1` dots has the half axes `a` and `b`, and its
dots have coordinates of the parity of `a` and `b`.

* `quarter`: the boundary dots of one quarter, from the side to the top, each step to the
  neighbour that deviates least from the ellipse.
* `ringRows`: the rows of the upper half ring, each as an outer and an inner half width.
* `Canvas.ring`: the ring painted, all of it or the part on one side of either axis.
-/

namespace LabelPress

/-- How far the point `(x, y)` is from satisfying the equation of the ellipse. -/
def ellipseDeviation (a b : Nat) (x y : Nat) : Nat :=
  ((a * a * (y * y) + b * b * (x * x) : Nat) - (a * a * (b * b) : Nat) : Int).natAbs

/--
The boundary dot after `(x, y)`: the one above, or the one above and inward if that deviates less,
or the one inward if that deviates still less.
-/
def quarterStep (a b x y : Nat) : Nat × Nat :=
  let up := ellipseDeviation a b x (y + 2)
  if x ≤ 1 then (x, y + 2)
  else
    let diagonal := ellipseDeviation a b (x - 2) (y + 2)
    let inward := ellipseDeviation a b (x - 2) y
    if inward < min up diagonal then (x - 2, y)
    else if diagonal < up then (x - 2, y + 2)
    else (x, y + 2)

/-- The boundary dots from `(x, y)` on, behind those of `before` in reverse. -/
def quarterFrom (a b x y : Nat) (before : List (Nat × Nat)) : List (Nat × Nat) :=
  if (x = a % 2 ∧ y = b) ∨ b < y then ((x, y) :: before).reverse
  else
    let next := quarterStep a b x y
    quarterFrom a b next.1 next.2 ((x, y) :: before)
termination_by x + (b + 2 - y)
decreasing_by
  simp only [quarterStep]
  split
  · simp only; omega
  · split
    · simp only; omega
    · split <;> (simp only; omega)

/-- **The boundary dots of one quarter** of the ellipse, from the side to the top. -/
def quarter (a b : Int) : List (Nat × Nat) :=
  if a < 0 ∨ b < 0 then []
  else quarterFrom a.toNat b.toNat a.toNat (b.toNat % 2) []

/-- A row of the upper half ring, in half dots from the centre. -/
structure RingRow where
  /-- The distance from the horizontal axis. -/
  y : Nat
  /-- The outer half width. -/
  outer : Nat
  /-- The inner half width. -/
  inner : Nat
deriving Repr, DecidableEq

/--
The rows from row `y` on, behind those of `before` in reverse. The outer half width of a row is
that of its first boundary dot; the inner one is that of its last inner boundary dot, and inside
the inner ellipse's top it is the smallest there is.
-/
def ringRowsFrom (least : Nat) (outer inner : List (Nat × Nat)) (y r l : Nat)
    (before : List RingRow) : List RingRow :=
  let passed := inner.takeWhile (·.2 ≤ y)
  let l := (passed.getLast?.map Prod.fst).getD l
  let (l', inner') := match inner.dropWhile (·.2 ≤ y) with
    | [] => (least, [])
    | p :: rest => (p.1, rest)
  let rows := ⟨y, r, l⟩ :: before
  match h : outer.dropWhile (·.2 ≤ y) with
  | [] => rows.reverse
  | p :: rest =>
    have : rest.length < outer.length := by
      have := (List.dropWhile_sublist (fun q : Nat × Nat => q.2 ≤ y) (l := outer)).length_le
      rw [h, List.length_cons] at this
      omega
    ringRowsFrom least rest inner' p.2 p.1 l' rows
termination_by outer.length

/-- **The rows of the upper half ring** of half axes `a` and `b`, `w` dots wide. -/
def ringRows (a b w : Int) : List RingRow :=
  if w < 1 then []
  else match quarter a b with
    | [] => []
    | p :: outer =>
      let least := a.toNat % 2
      ringRowsFrom least outer (quarter (a - 2 * (w - 1)) (b - 2 * (w - 1))) p.2 p.1 least []

/-- Which sides of the axes are drawn. -/
structure Sides where
  /-- Drop what lies below the horizontal axis. -/
  upperOnly : Bool := false
  /-- Drop what lies above the horizontal axis. -/
  lowerOnly : Bool := false
  /-- Drop what lies right of the vertical axis. -/
  leftOnly : Bool := false
  /-- Drop what lies left of the vertical axis. -/
  rightOnly : Bool := false
deriving Repr, DecidableEq

/-- The stretches of one row that a ring covers, from the centre: two, or one if it is closed. -/
def RingRow.stretches (row : RingRow) : List (Int × Int) :=
  (-(row.outer : Int), -(row.inner : Int)) ::
    if 0 < row.inner ∨ row.inner < row.outer then
      [(if row.inner = 0 then 2 else (row.inner : Int), (row.outer : Int))]
    else []

/-- A stretch without what lies on a dropped side; a stretch that ends before it begins is empty. -/
def Sides.clip (s : Sides) (stretch : Int × Int) : Int × Int :=
  (if s.rightOnly then max stretch.1 0 else stretch.1,
    if s.leftOnly then min stretch.2 0 else stretch.2)

/-- The rows of a ring at height `row.y` above and below the centre that are drawn. -/
def Sides.heights (s : Sides) (row : RingRow) : List Int :=
  (if row.y = 0 then [0] else [(row.y : Int), -(row.y : Int)]).filter fun y =>
    (!s.upperOnly || decide (y ≤ 0)) && (!s.lowerOnly || decide (0 ≤ y))

namespace Canvas

/-- Paint one stretch of a ring in the box with corner `(x0, y0)` and half axes `a` and `b`. -/
def fillStretch (c : Canvas) (x0 y0 a b : Int) (color : UInt8) (y : Int) (stretch : Int × Int) :
    Canvas :=
  if stretch.2 < stretch.1 then c
  else
    let row := y0 + (y + b).tdiv 2
    c.fill ⟨x0 + (stretch.1 + a).tdiv 2, row, x0 + (stretch.2 + a).tdiv 2 + 1, row + 1⟩ color

/-- **A ring** inscribed in the box between two corners, `w` dots wide. -/
def ring (c : Canvas) (x0 y0 x1 y1 w : Int) (sides : Sides) (color : UInt8) : Canvas :=
  let a := x1 - x0
  let b := y1 - y0
  (ringRows a b w).foldl (fun c row =>
    (sides.heights row).foldl (fun c y =>
      (row.stretches.map sides.clip).foldl (fillStretch · x0 y0 a b color y) c) c) c

/-- The disc inscribed in the box between two corners. -/
def disc (c : Canvas) (x0 y0 x1 y1 : Int) (sides : Sides) (color : UInt8) : Canvas :=
  c.ring x0 y0 x1 y1 ((x1 - x0) + (y1 - y0)) sides color

end Canvas

end LabelPress
