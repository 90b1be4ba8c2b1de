/-!
# The canvas

An 8-bit gray picture, 0 black and 255 white, stored row by row. Coordinates are dots to the right
and down from the top left corner; they may be any integers, and what lies off the canvas is simply
not there.

* `Canvas.pixel?`: the view of a canvas, a partial map from coordinates to gray values.
* `Canvas.paint`: the one operation that changes pixels. `pixel?_paint` says what it does: inside
  the region each pixel is changed by the given function, outside it none is.
* `pixel?_blank`: a new canvas is white.
-/

namespace LabelPress

/-- A rectangle of coordinates, `right` and `bottom` excluded. -/
structure Region where
  /-- The first column. -/
  left : Int
  /-- The first row. -/
  top : Int
  /-- The column after the last. -/
  right : Int
  /-- The row after the last. -/
  bottom : Int
deriving Repr, DecidableEq

/-- Does the point belong to the region? -/
def Region.contains (r : Region) (x y : Int) : Bool :=
  decide (r.left ≤ x) && decide (x < r.right) && decide (r.top ≤ y) && decide (y < r.bottom)

/-- A gray picture. -/
structure Canvas where
  /-- The number of columns. -/
  width : Nat
  /-- The number of rows. -/
  height : Nat
  /-- The gray values, row by row. -/
  pixels : Array UInt8
  /-- There is one value for each dot. -/
  size_pixels : pixels.size = width * height

namespace Canvas

/-- The gray value of a black dot. -/
def black : UInt8 := 0

/-- The gray value of a white dot. -/
def white : UInt8 := 255

/-- A white canvas. -/
def blank (width height : Nat) : Canvas :=
  ⟨width, height, Array.replicate (width * height) white, by simp⟩

/-- **The view of a canvas**: the gray value at a point, `none` off the canvas. -/
def pixel? (c : Canvas) (x y : Int) : Option UInt8 :=
  if 0 ≤ x ∧ x < c.width ∧ 0 ≤ y ∧ y < c.height then
    c.pixels[y.toNat * c.width + x.toNat]?
  else none

/-! ## Painting -/

/-- Change `n` values from column `x` on, in the row that begins at index `base`. -/
def paintRow (f : Nat → UInt8 → UInt8) (base x : Nat) : Nat → Array UInt8 → Array UInt8
  | 0, a => a
  | n + 1, a => paintRow f base (x + 1) n (a.modify (base + x) (f x))

/-- Change `n` values from column `x` on, in each of the rows from row `y` on. -/
def paintRows (f : Nat → Nat → UInt8 → UInt8) (width x n y : Nat) :
    Nat → Array UInt8 → Array UInt8
  | 0, a => a
  | m + 1, a => paintRows f width x n (y + 1) m (paintRow (f · y) (y * width) x n a)

@[simp] theorem size_paintRow (f : Nat → UInt8 → UInt8) (base x n : Nat) (a : Array UInt8) :
    (paintRow f base x n a).size = a.size := by
  induction n generalizing x a with
  | zero => rfl
  | succ n ih => simp [paintRow, ih]

@[simp] theorem size_paintRows (f : Nat → Nat → UInt8 → UInt8) (width x n y m : Nat)
    (a : Array UInt8) : (paintRows f width x n y m a).size = a.size := by
  induction m generalizing y a with
  | zero => rfl
  | succ m ih => simp [paintRows, ih]

theorem getElem?_paintRow (f : Nat → UInt8 → UInt8) (base x n i : Nat) (a : Array UInt8) :
    (paintRow f base x n a)[i]? =
      if base + x ≤ i ∧ i < base + x + n then a[i]?.map (f (i - base)) else a[i]? := by
  induction n generalizing x a with
  | zero => rw [paintRow, if_neg (by omega)]
  | succ n ih =>
    rw [paintRow, ih, Array.getElem?_modify]
    by_cases h : base + x = i
    · subst h
      rw [if_neg (by omega), if_pos rfl, if_pos (by omega), Nat.add_sub_cancel_left]
    · rw [if_neg h]
      by_cases h' : base + (x + 1) ≤ i ∧ i < base + (x + 1) + n
      · rw [if_pos h', if_pos (by omega)]
      · rw [if_neg h', if_neg (by omega)]

/-- Two dots of one row, or of two rows, have the same index only if they are the same dot. -/
theorem index_inj {width x x' y y' : Nat} (hx : x < width) (hx' : x' < width)
    (h : y * width + x = y' * width + x') : y = y' ∧ x = x' := by
  have hy : y = y' := by
    have h1 := congrArg (· / width) h
    simp only [Nat.mul_comm _ width, Nat.mul_add_div (by omega : 0 < width)] at h1
    rw [Nat.div_eq_of_lt hx, Nat.div_eq_of_lt hx'] at h1
    omega
  subst hy
  omega

theorem getElem?_paintRows (f : Nat → Nat → UInt8 → UInt8) {width x n : Nat} (y m : Nat)
    (hn : x + n ≤ width) (a : Array UInt8) {i j : Nat} (hi : i < width) :
    (paintRows f width x n y m a)[j * width + i]? =
      if (x ≤ i ∧ i < x + n) ∧ y ≤ j ∧ j < y + m then a[j * width + i]?.map (f i j)
      else a[j * width + i]? := by
  induction m generalizing y a with
  | zero =>
    rw [paintRows, if_neg (by omega)]
  | succ m ih =>
    rw [paintRows, ih, getElem?_paintRow]
    have key : (y * width + x ≤ j * width + i ∧ j * width + i < y * width + x + n) ↔
        (x ≤ i ∧ i < x + n) ∧ j = y := by
      constructor
      · intro ⟨h1, h2⟩
        have hk : j * width + i = y * width + (j * width + i - y * width) := by omega
        have := index_inj hi (by omega) hk
        omega
      · rintro ⟨h, rfl⟩
        omega
    by_cases hj : j = y
    · subst hj
      by_cases hx : x ≤ i ∧ i < x + n
      · rw [if_neg (by omega), if_pos (key.2 ⟨hx, rfl⟩), if_pos (by omega),
          Nat.add_sub_cancel_left]
      · rw [if_neg (by omega), if_neg (fun h => hx (key.1 h).1), if_neg (by omega)]
    · rw [if_neg (fun h => hj (key.1 h).2)]
      by_cases h : (x ≤ i ∧ i < x + n) ∧ y + 1 ≤ j ∧ j < y + 1 + m
      · rw [if_pos h, if_pos (by omega)]
      · rw [if_neg h, if_neg (by omega)]

/-- The part of an interval `[lo, hi)` that lies in `[0, size)`: where it begins. -/
def clipStart (lo : Int) (size : Nat) : Nat := min lo.toNat size

/-- The part of an interval `[lo, hi)` that lies in `[0, size)`: its length. -/
def clipLength (lo hi : Int) (size : Nat) : Nat := min hi.toNat size - clipStart lo size

/-- **Change the pixels of a region**, each by a function of its place and its old value. -/
def paint (c : Canvas) (r : Region) (f : Int → Int → UInt8 → UInt8) : Canvas where
  width := c.width
  height := c.height
  pixels :=
    paintRows (fun x y => f x y) c.width
      (clipStart r.left c.width) (clipLength r.left r.right c.width)
      (clipStart r.top c.height) (clipLength r.top r.bottom c.height) c.pixels
  size_pixels := by simp [c.size_pixels]

@[simp] theorem width_paint (c : Canvas) (r : Region) (f : Int → Int → UInt8 → UInt8) :
    (c.paint r f).width = c.width := rfl

@[simp] theorem height_paint (c : Canvas) (r : Region) (f : Int → Int → UInt8 → UInt8) :
    (c.paint r f).height = c.height := rfl

theorem pixel?_eq_none {c : Canvas} {x y : Int}
    (h : ¬(0 ≤ x ∧ x < c.width ∧ 0 ≤ y ∧ y < c.height)) : c.pixel? x y = none := if_neg h

theorem pixel?_natCast {c : Canvas} {i j : Nat} (hi : i < c.width) (hj : j < c.height) :
    c.pixel? i j = c.pixels[j * c.width + i]? := by
  rw [pixel?, if_pos (by omega)]
  rfl

/-- **What painting does**: it changes exactly the pixels of the region. -/
theorem pixel?_paint (c : Canvas) (r : Region) (f : Int → Int → UInt8 → UInt8) (x y : Int) :
    (c.paint r f).pixel? x y =
      if r.contains x y then (c.pixel? x y).map (f x y) else c.pixel? x y := by
  by_cases h : 0 ≤ x ∧ x < c.width ∧ 0 ≤ y ∧ y < c.height
  · obtain ⟨i, rfl⟩ := Int.eq_ofNat_of_zero_le h.1
    obtain ⟨j, rfl⟩ := Int.eq_ofNat_of_zero_le h.2.2.1
    have hi : i < c.width := by omega
    have hj : j < c.height := by omega
    rw [pixel?_natCast hi hj, pixel?_natCast (c := c.paint r f) hi hj]
    have hrow := @getElem?_paintRows (fun x y => f x y) c.width (clipStart r.left c.width)
      (clipLength r.left r.right c.width) (clipStart r.top c.height)
      (clipLength r.top r.bottom c.height)
      (by simp only [clipStart, clipLength]; omega) c.pixels i j hi
    have key : ((clipStart r.left c.width ≤ i ∧
          i < clipStart r.left c.width + clipLength r.left r.right c.width) ∧
        clipStart r.top c.height ≤ j ∧
          j < clipStart r.top c.height + clipLength r.top r.bottom c.height) ↔
        r.contains i j = true := by
      simp only [Region.contains, Bool.and_eq_true, decide_eq_true_eq, clipStart, clipLength]
      omega
    refine hrow.trans ?_
    by_cases hr : r.contains i j = true
    · rw [if_pos (key.2 hr), if_pos hr]
    · rw [if_neg (fun hk => hr (key.1 hk)), if_neg hr]
  · rw [pixel?_eq_none h, pixel?_eq_none (c := c.paint r f) h]
    split <;> rfl

/-- A new canvas is white. -/
theorem pixel?_blank {width height : Nat} {x y : Int}
    (h : 0 ≤ x ∧ x < width ∧ 0 ≤ y ∧ y < height) :
    (blank width height).pixel? x y = some white := by
  obtain ⟨i, rfl⟩ := Int.eq_ofNat_of_zero_le h.1
  obtain ⟨j, rfl⟩ := Int.eq_ofNat_of_zero_le h.2.2.1
  have hi : i < width := by omega
  have hj : j < height := by omega
  have hlt : j * width + i < width * height := by
    have : (j + 1) * width ≤ height * width := Nat.mul_le_mul_right _ (by omega)
    rw [Nat.add_mul, Nat.one_mul] at this
    rw [Nat.mul_comm width height]
    omega
  rw [pixel?_natCast (c := blank width height) hi hj]
  simp [blank, hlt]

/-! ## Ink -/

/-- The columns of row `y` that are not white, as the first and the one after the last. -/
def inkOfRow (c : Canvas) (y : Nat) : Option (Nat × Nat) :=
  let row := (c.pixels.extract (y * c.width) ((y + 1) * c.width)).toList
  let after := row.dropWhile (· == white)
  if after.isEmpty then none
  else some (row.length - after.length,
    row.length - (row.reverse.takeWhile (· == white)).length)

/-- The smallest region that holds every pixel that is not white. -/
def ink? (c : Canvas) : Option (Nat × Nat × Nat × Nat) :=
  (List.range c.height).foldl (fun box y =>
    match c.inkOfRow y, box with
    | none, _ => box
    | some (l, r), none => some (l, y, r, y + 1)
    | some (l, r), some (left, top, right, _) => some (min left l, top, max right r, y + 1)) none

end Canvas

end LabelPress
