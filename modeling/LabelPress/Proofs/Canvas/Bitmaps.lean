import LabelPress.Canvas.Bitmap
import LabelPress.Proofs.Canvas.Related
import Mathlib.Data.Set.Basic

/-! # Bitmaps dot by dot

A packed bitmap is copied as it is. Each of its bits becomes a dot, the highest bit of a byte the
leftmost one; a byte that is missing is white, and a byte beyond the last row is not looked at.
Whether a bitmap can be copied at all depends on its size and its place alone.

* `isBlackDot`: the black dots of a packed bitmap.
* `eq_of_pixel?_eq`: canvases with the same dots are the same.
* `pasted`: the canvas with a bitmap on it; `run_blit`: a bitmap is copied if there is room for it.
* `pixel?_blit`: the picture that a copied bitmap leaves, dot by dot. -/

namespace LabelPress

/-- **Is the dot in column `u` and row `v` black?** Its byte must be there, and the bit a 0. -/
def isBlackDot (data : List UInt8) (rowBytes u v : ℕ) : Bool :=
  (data[v * rowBytes + u / 8]?).any fun byte => !byte.toNat.testBit (7 - u % 8)

/-- A dot of the rows lies in one of their bytes. -/
theorem index_lt_of_dot {rowBytes rows u v : ℕ} (hu : u < 8 * rowBytes) (hv : v < rows) :
    v * rowBytes + u / 8 < rowBytes * rows := by
  have hcolumn : u / 8 < rowBytes := by omega
  have hrow := Nat.mul_le_mul_right rowBytes (Nat.succ_le_of_lt hv)
  rw [Nat.succ_mul, Nat.mul_comm rows] at hrow
  omega

/-- The dots of the first bytes are those whose byte is among them. -/
theorem isBlackDot_take_eq (data : List UInt8) (n rowBytes u v : ℕ) :
    isBlackDot (data.take n) rowBytes u v =
      (decide (v * rowBytes + u / 8 < n) && isBlackDot data rowBytes u v) := by
  rw [isBlackDot, List.getElem?_take, isBlackDot]
  by_cases hin : v * rowBytes + u / 8 < n
  · rw [if_pos hin, decide_eq_true hin, Bool.true_and]
  · rw [if_neg hin, decide_eq_false hin, Bool.false_and]
    rfl

/-- The bytes beyond the last row make no difference. -/
theorem isBlackDot_take (data : List UInt8) {rowBytes rows u v : ℕ} (hu : u < 8 * rowBytes)
    (hv : v < rows) :
    isBlackDot (data.take (rowBytes * rows)) rowBytes u v = isBlackDot data rowBytes u v := by
  rw [isBlackDot_take_eq, decide_eq_true (index_lt_of_dot hu hv), Bool.true_and]

namespace Canvas

/-! ### Equal pictures -/

/-- **Canvases with the same dots are the same.** -/
theorem eq_of_pixel?_eq {c d : Canvas} (hwidth : c.width = d.width) (hheight : c.height = d.height)
    (h : ∀ i j : ℕ, i < c.width → j < c.height → c.pixel? i j = d.pixel? i j) : c = d := by
  obtain ⟨width, height, pixels, hsize⟩ := c
  obtain ⟨width', height', pixels', hsize'⟩ := d
  dsimp only at hwidth hheight h
  subst hwidth hheight
  have hpixels : pixels = pixels' := by
    refine Array.ext (hsize.trans hsize'.symm) fun k hk hk' => ?_
    rw [hsize] at hk
    have hpos : 0 < width := by
      by_contra hzero
      rw [Nat.eq_zero_of_not_pos hzero, Nat.zero_mul] at hk
      omega
    have hi : k % width < width := Nat.mod_lt _ hpos
    have hj : k / width < height := Nat.div_lt_of_lt_mul hk
    have hdot := h _ _ hi hj
    rw [pixel?_natCast hi hj, pixel?_natCast hi hj] at hdot
    simpa only [Nat.div_add_mod', Array.getElem?_eq_getElem, hk', hsize ▸ hk, Option.some.injEq]
      using hdot
  subst hpixels
  rfl

/-- What is painted depends only on the dots of the region. -/
theorem paint_congr (c : Canvas) {r : Region} {f g : ℤ → ℤ → UInt8 → UInt8}
    (h : ∀ i j gray, r.contains i j = true → f i j gray = g i j gray) :
    c.paint r f = c.paint r g := by
  refine eq_of_pixel?_eq rfl rfl fun i j _ _ => ?_
  rw [pixel?_paint, pixel?_paint]
  split_ifs with hin
  · exact Option.map_congr fun gray _ => h i j gray hin
  · rfl

/-! ### The canvas with a bitmap on it -/

theorem packedDot_eq (data : List UInt8) (rowBytes u v : ℕ) :
    packedDot data.toArray rowBytes u v =
      if isBlackDot data rowBytes u v then black else white := by
  have hmissing : bitAt 255 u = true := by
    have hall : ∀ k < 8, Nat.testBit 255 (7 - k) = true := by decide
    exact hall _ (Nat.mod_lt u (by omega))
  unfold packedDot isBlackDot
  rw [List.getElem?_toArray]
  cases data[v * rowBytes + u / 8]? with
  | none => rw [Option.getD_none, hmissing]; rfl
  | some byte =>
    rw [Option.getD_some, Option.any_some, bitAt]
    cases byte.toNat.testBit (7 - u % 8) <;> rfl

/-- **The canvas with a bitmap on it**, whose corner is at `(x, y)`. -/
def pasted (c : Canvas) (data : List UInt8) (rowBytes rows : ℕ) (x y : ℤ) : Canvas :=
  c.paint ⟨x, y, x + 8 * rowBytes, y + rows⟩ fun i j _ =>
    if isBlackDot data rowBytes (i - x).toNat (j - y).toNat then black else white

section
variable {c d : Canvas} {data : List UInt8} {rowBytes rows : ℕ} {x y : ℤ}

theorem pixel?_pasted {u v : ℕ} (hu : u < 8 * rowBytes) (hv : v < rows) :
    (c.pasted data rowBytes rows x y).pixel? (x + u) (y + v) =
      (c.pixel? (x + u) (y + v)).map fun _ =>
        if isBlackDot data rowBytes u v then black else white := by
  have hin : (⟨x, y, x + 8 * rowBytes, y + rows⟩ : Region).contains (x + u) (y + v) = true := by
    simp only [Region.contains, Bool.and_eq_true, decide_eq_true_eq]
    omega
  have hcolumn : (x + u - x).toNat = u := by omega
  have hline : (y + v - y).toNat = v := by omega
  rw [pasted, pixel?_paint, if_pos hin, hcolumn, hline]

theorem pixel?_pasted_of_outside {i j : ℤ}
    (h : ¬(x ≤ i ∧ i < x + 8 * rowBytes ∧ y ≤ j ∧ j < y + rows)) :
    (c.pasted data rowBytes rows x y).pixel? i j = c.pixel? i j := by
  have hout : ¬(⟨x, y, x + 8 * rowBytes, y + rows⟩ : Region).contains i j = true := by
    simpa only [Region.contains, Bool.and_eq_true, decide_eq_true_eq, and_assoc] using h
  rw [pasted, pixel?_paint, if_neg hout]

/-- The bytes beyond the last row make no difference. -/
theorem pasted_take (c : Canvas) (data : List UInt8) (rowBytes rows : ℕ) (x y : ℤ) :
    c.pasted (data.take (rowBytes * rows)) rowBytes rows x y = c.pasted data rowBytes rows x y := by
  refine c.paint_congr fun i j gray hin => ?_
  simp only [Region.contains, Bool.and_eq_true, decide_eq_true_eq] at hin
  rw [isBlackDot_take data (show (i - x).toNat < 8 * rowBytes by omega)
    (show (j - y).toNat < rows by omega)]

/-- Of the first bytes, the others are white. -/
theorem pixel?_pasted_take {n u v : ℕ} (hu : u < 8 * rowBytes) (hv : v < rows) :
    (c.pasted (data.take n) rowBytes rows x y).pixel? (x + u) (y + v) =
      (c.pixel? (x + u) (y + v)).map fun _ =>
        if v * rowBytes + u / 8 < n ∧ isBlackDot data rowBytes u v then black else white := by
  rw [pixel?_pasted hu hv, isBlackDot_take_eq]
  simp only [Bool.and_eq_true, decide_eq_true_eq]

/-- **A bitmap and its first bytes** differ in the black dots of the other bytes. -/
theorem pixel?_pasted_ne_take_iff {n : ℕ} {i j : ℤ} :
    (c.pasted data rowBytes rows x y).pixel? i j ≠
        (c.pasted (data.take n) rowBytes rows x y).pixel? i j ↔
      c.pixel? i j ≠ none ∧ ∃ u v : ℕ, (u < 8 * rowBytes ∧ v < rows) ∧ (i = x + u ∧ j = y + v) ∧
        n ≤ v * rowBytes + u / 8 ∧ isBlackDot data rowBytes u v = true := by
  constructor
  · intro hne
    by_cases hin : x ≤ i ∧ i < x + 8 * rowBytes ∧ y ≤ j ∧ j < y + rows
    · obtain ⟨u, rfl⟩ : ∃ u : ℕ, i = x + u := ⟨(i - x).toNat, by omega⟩
      obtain ⟨v, rfl⟩ : ∃ v : ℕ, j = y + v := ⟨(j - y).toNat, by omega⟩
      have hu : u < 8 * rowBytes := by omega
      have hv : v < rows := by omega
      rw [pixel?_pasted hu hv, pixel?_pasted_take hu hv] at hne
      refine ⟨fun hout => hne (by rw [hout]; rfl), u, v, ⟨hu, hv⟩, ⟨rfl, rfl⟩, ?_⟩
      by_contra hagree
      refine hne (Option.map_congr fun _ _ => if_congr ?_ rfl rfl)
      exact ⟨fun hdark => ⟨not_le.1 fun hbeyond => hagree ⟨hbeyond, hdark⟩, hdark⟩, And.right⟩
    · rw [pixel?_pasted_of_outside hin, pixel?_pasted_of_outside hin] at hne
      exact absurd rfl hne
  · rintro ⟨hon, u, v, ⟨hu, hv⟩, ⟨rfl, rfl⟩, hbeyond, hdark⟩
    obtain ⟨gray, hgray⟩ := Option.ne_none_iff_exists'.1 hon
    have hcolors : black ≠ white := by decide
    rw [pixel?_pasted hu hv, pixel?_pasted_take hu hv, hgray, if_pos hdark,
      if_neg fun hboth => not_le.2 hboth.1 hbeyond]
    exact fun hsame => hcolors (Option.some.inj hsame)

/-! ### Copying -/

/-- **Is there room for a bitmap** of a size at a place? Its bytes are counted first, then its dots,
and then its edges are looked at. -/
def bitmapRoom (rowBytes rows : ℕ) (x y : ℤ) : Except DrawError Unit := do
  checkBitmapSize rowBytes rows
  checkSize (8 * rowBytes) rows
  checkEdges x y (8 * rowBytes) rows

/-- A bitmap that finds room is smaller than memory. -/
theorem lt_memoryBound_of_bitmapRoom (h : bitmapRoom rowBytes rows x y = .ok ()) :
    (rowBytes : ℤ) * rows < memoryBound := by
  cases hroom : roomFor ((rowBytes : ℤ) * rows) with
  | ok room => exact (roomFor_eq_ok_iff.1 hroom).2
  | error e =>
    have hfail : ∃ e', checkBitmapSize rowBytes rows = .error e' := by
      unfold checkBitmapSize
      rw [hroom]
      cases e <;> exact ⟨_, rfl⟩
    obtain ⟨e', he'⟩ := hfail
    rw [bitmapRoom, he'] at h
    cases h

theorem checkPosition_of_checkSize {width height : ℤ} (h : checkSize width height = .ok ()) :
    checkPosition width = .ok () ∧ checkPosition height = .ok () := by
  by_cases hneg : width < 0 ∨ height < 0
  · rw [checkSize, if_pos hneg] at h
    cases h
  rw [checkSize, if_neg hneg] at h
  unfold checkPosition
  cases hwidth : checkWord width with
  | error e =>
    rw [hwidth] at h
    cases h
  | ok u =>
    cases hheight : checkWord height with
    | error e =>
      rw [hwidth, hheight] at h
      cases h
    | ok u => exact ⟨rfl, rfl⟩

/-- At the corner of the canvas there is room for every bitmap that memory holds. -/
theorem bitmapRoom_corner (hbytes : checkBitmapSize rowBytes rows = .ok ())
    (hdots : checkSize (8 * rowBytes) rows = .ok ()) : bitmapRoom rowBytes rows 0 0 = .ok () := by
  obtain ⟨hwidth, hheight⟩ := checkPosition_of_checkSize hdots
  have hzero : checkPosition 0 = .ok () := by decide
  rw [bitmapRoom, hbytes, hdots, checkEdges, hzero, Int.zero_add, Int.zero_add, hwidth, hheight]
  rfl

/-- **A bitmap is copied if there is room for it**, and else nothing is. -/
theorem run_blit (hrow : 1 ≤ rowBytes) (hrows : 1 ≤ rows) (data : List UInt8) (c : Canvas) :
    (blit data rowBytes rows x y).run.run c =
      match bitmapRoom rowBytes rows x y with
      | .error e => (.error e, c)
      | .ok () => (.ok (), c.pasted data rowBytes rows x y) := by
  have hsome : ¬((rowBytes : ℤ) ≤ 0 ∨ (rows : ℤ) ≤ 0) := by omega
  have hroom : bitmapRoom rowBytes rows x y = (do
      checkBitmapSize rowBytes rows
      checkSize (8 * rowBytes) rows
      checkEdges x y (8 * rowBytes) rows) := rfl
  unfold blit
  rw [if_neg hsome, ← hroom]
  cases bitmapRoom rowBytes rows x y with
  | error e => rfl
  | ok u =>
    have hdots : (c.paint ⟨x, y, x + 8 * rowBytes, y + rows⟩ fun i j _ =>
        packedDot data.toArray (rowBytes : ℤ).toNat (i - x).toNat (j - y).toNat) =
        c.pasted data rowBytes rows x y :=
      c.paint_congr fun i j gray _ => packedDot_eq data rowBytes _ _
    exact Prod.ext rfl hdots

theorem run_blit_of_no_rows (data : List UInt8) (rowBytes : ℕ) (x y : ℤ) (c : Canvas) :
    (blit data rowBytes 0 x y).run.run c = (.ok (), c) := by
  unfold blit
  rw [if_pos (Or.inr le_rfl)]
  rfl

/-- **A copied bitmap, dot by dot.** A dot of it that falls on the canvas is black if its byte is
there and its bit is 0, and white otherwise; all dots beside it are as they were; and only as many
bytes as the rows hold make a difference. -/
theorem pixel?_blit (hrow : 1 ≤ rowBytes) (hrows : 1 ≤ rows)
    (h : (blit data rowBytes rows x y).run.run c = (.ok (), d)) :
    d.width = c.width ∧ d.height = c.height ∧
    (∀ u v : ℕ, u < 8 * rowBytes → v < rows → d.pixel? (x + u) (y + v) =
      (c.pixel? (x + u) (y + v)).map fun _ =>
        if (data[v * rowBytes + u / 8]?).any fun byte => !byte.toNat.testBit (7 - u % 8) then black
        else white) ∧
    (∀ i j, ¬(x ≤ i ∧ i < x + 8 * rowBytes ∧ y ≤ j ∧ j < y + rows) →
      d.pixel? i j = c.pixel? i j) ∧
    (blit (data.take (rowBytes * rows)) rowBytes rows x y).run.run c = (.ok (), d) := by
  rw [run_blit hrow hrows] at h ⊢
  rw [pasted_take]
  cases hroom : bitmapRoom rowBytes rows x y with
  | error e =>
    rw [hroom] at h
    cases h
  | ok u =>
    rw [hroom] at h
    obtain rfl : c.pasted data rowBytes rows x y = d := (Prod.mk.inj h).2
    exact ⟨rfl, rfl, fun u v hu hv => pixel?_pasted hu hv,
      fun i j hout => pixel?_pasted_of_outside hout, rfl⟩

/-- Two rows of two bytes, of which the last one is missing, over the lower left corner. -/
theorem pixel?_blit_corner :
    ∃ d, (blit [0x0f, 0xa5, 0x00] 2 2 (-3) 3).run.run (blank 16 4) = (.ok (), d) ∧
      d.width = 16 ∧ d.height = 4 ∧
      (∀ u v : ℕ, u < 8 * 2 → v < 2 → d.pixel? (-3 + u) (3 + v) =
        ((blank 16 4).pixel? (-3 + u) (3 + v)).map fun _ =>
          if (([0x0f, 0xa5, 0x00] : List UInt8)[v * 2 + u / 8]?).any fun byte =>
            !byte.toNat.testBit (7 - u % 8) then black else white) ∧
      (∀ i j, ¬(-3 ≤ i ∧ i < -3 + 8 * 2 ∧ 3 ≤ j ∧ j < 3 + 2) →
        d.pixel? i j = (blank 16 4).pixel? i j) ∧
      (blit [0x0f, 0xa5, 0x00] 2 2 (-3) 3).run.run (blank 16 4) = (.ok (), d) := by
  have hrun : (blit [0x0f, 0xa5, 0x00] (2 : ℕ) (2 : ℕ) (-3) 3).run.run (blank 16 4) =
      (.ok (), (blank 16 4).pasted [0x0f, 0xa5, 0x00] 2 2 (-3) 3) :=
    run_blit (by decide) (by decide) _ _
  exact ⟨_, hrun, @pixel?_blit _ _ [0x0f, 0xa5, 0x00] 2 2 (-3) 3 (by decide) (by decide) hrun⟩

end

end Canvas

end LabelPress
