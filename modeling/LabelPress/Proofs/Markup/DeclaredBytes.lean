import LabelPress.Proofs.Canvas.Bitmaps
import LabelPress.Proofs.Markup.FieldText
import LabelPress.Proofs.Markup.RowCount

/-! # Declared bytes

A field has as many rows as its declared size needs. They come from a quotient that is rounded
twice, to a double first and to a whole number then, but up to 53 bits they are the exact ceiling.
So the last row begins before the declared size ends, and no declared byte lies beyond it: byte `i`
stands in row `i / row`, and a bitmap that is copied shows its eight dots there.

* `ceilDiv_bounds`: the ceiling as the least number of rows that is enough.
* `pixel?_blit_byte`: the dots of one byte of a copied bitmap.
* `ofParams_ceilDiv`: the rows of a field, and its declared bytes on the canvas. -/

namespace LabelPress.Markup

open Text

section
variable {total row rows : ℕ}

/-- **The least number of rows that is enough.** -/
theorem ceilDiv_bounds (hrow : 1 ≤ row) (htotal : 1 ≤ total) :
    (total ⌈/⌉ row - 1) * row < total ∧ total ≤ total ⌈/⌉ row * row := by
  have henough : total ≤ row * (total ⌈/⌉ row) := (ceilDiv_le_iff_le_mul hrow).1 le_rfl
  have hleast : ¬total ≤ row * (total ⌈/⌉ row - 1) := by
    intro hfewer
    have hle := (ceilDiv_le_iff_le_mul hrow).2 hfewer
    have hnone : total ⌈/⌉ row = 0 := by omega
    rw [hnone, Nat.mul_zero] at henough
    omega
  rw [Nat.mul_comm _ row, Nat.mul_comm _ row]
  exact ⟨not_le.1 hleast, henough⟩

/-- A declared byte lies in one of the rows. -/
theorem lt_mul_ceilDiv (hrow : 1 ≤ row) {i : ℕ} (hi : i < total) : i < row * (total ⌈/⌉ row) :=
  hi.trans_le ((ceilDiv_le_iff_le_mul hrow).1 le_rfl)

/-- **One byte of a copied bitmap**: its eight dots, from the highest bit on. A byte that is missing
is white. -/
theorem pixel?_blit_byte {data : List UInt8} {x y : ℤ} {c d : Canvas}
    (h : (Canvas.blit data row rows x y).run.run c = (.ok (), d)) {i k : ℕ} (hi : i < row * rows)
    (hk : k < 8) :
    d.pixel? (x + (8 * (i % row) + k : ℕ)) (y + (i / row : ℕ)) =
      (c.pixel? (x + (8 * (i % row) + k : ℕ)) (y + (i / row : ℕ))).map fun _ =>
        if (data[i]?).any fun byte => !byte.toNat.testBit (7 - k) then Canvas.black
        else Canvas.white := by
  have hrow : 1 ≤ row := Nat.pos_of_mul_pos_right (Nat.zero_lt_of_lt hi)
  have hrows : 1 ≤ rows := Nat.pos_of_mul_pos_left (Nat.zero_lt_of_lt hi)
  have hcolumn : i % row < row := Nat.mod_lt i hrow
  have hline : i / row < rows := Nat.div_lt_of_lt_mul hi
  have hplace : i / row * row + (8 * (i % row) + k) / 8 = i := by
    have hbyte : (8 * (i % row) + k) / 8 = i % row := by omega
    rw [hbyte, Nat.mul_comm, Nat.div_add_mod]
  have hbit : 7 - (8 * (i % row) + k) % 8 = 7 - k := by omega
  rw [Canvas.run_blit hrow hrows] at h
  cases hroom : Canvas.bitmapRoom row rows x y with
  | error e =>
    rw [hroom] at h
    cases h
  | ok u =>
    rw [hroom] at h
    obtain rfl : c.pasted data row rows x y = d := (Prod.mk.inj h).2
    rw [Canvas.pixel?_pasted (by omega) hline, isBlackDot, hplace, hbit]

end

/-- **The rows of a field are the exact ceiling** of its declared size over the bytes of a row, as
long as both have at most 53 bits; then a field is only refused if there is no room for its data.
With one row less the declared size would not fit, and with all of them it does, so that a bitmap
that is copied shows each declared byte: its eight dots lie in the row of the byte, black for a 0,
white for a 1, and white if the byte is missing. -/
theorem ofParams_ceilDiv {params data totalText rowText : List Char} {encoding : Char}
    {total row : ℕ} (hparts : graphicParts? params = some (encoding, totalText, rowText, data))
    (htotal : digits? totalText = .ok total) (hrow : digits? rowText = .ok row)
    (hsmall : total < 2 ^ 53) (hpos : 1 ≤ row) (hmost : row < 2 ^ 53) :
    GraphicField.ofParams params =
        (fieldBytes encoding data total).map (⟨·, row, total ⌈/⌉ row⟩) ∧
      (1 ≤ total → (total ⌈/⌉ row - 1) * row < total ∧ total ≤ total ⌈/⌉ row * row) ∧
      ∀ field, GraphicField.ofParams params = .ok field → ∀ (x y : ℤ) (c d : Canvas),
        (Canvas.blit field.data field.rowBytes field.rows x y).run.run c = (.ok (), d) →
        ∀ i < total, ∀ k < 8,
          d.pixel? (x + (8 * (i % row) + k : ℕ)) (y + (i / row : ℕ)) =
            (c.pixel? (x + (8 * (i % row) + k : ℕ)) (y + (i / row : ℕ))).map fun _ =>
              if (field.data[i]?).any fun byte => !byte.toNat.testBit (7 - k) then Canvas.black
              else Canvas.white := by
  have hfield : GraphicField.ofParams params =
      (fieldBytes encoding data total).map (⟨·, row, total ⌈/⌉ row⟩) := by
    rw [ofParams_of_parts hparts htotal hrow, if_neg (by omega), rowCount?_eq hsmall hpos hmost,
      Nat.ceilDiv_eq_add_pred_div]
    cases fieldBytes encoding data total <;> rfl
  refine ⟨hfield, ceilDiv_bounds hpos, fun field hread x y c d hblit i hi k hk => ?_⟩
  rw [hfield] at hread
  cases hbytes : fieldBytes encoding data total with
  | error e =>
    rw [hbytes] at hread
    cases hread
  | ok bytes =>
    rw [hbytes] at hread
    cases hread
    exact pixel?_blit_byte hblit (lt_mul_ceilDiv hpos hi) hk

/-- Three bytes in rows of two: the last one begins the second row. -/
theorem ofParams_ceilDiv_three :
    graphicParts? "A,3,3,2,FFFF7F".toList = some ('A', ['3'], ['2'], "FFFF7F".toList) ∧
      digits? ['3'] = .ok 3 ∧ digits? ['2'] = .ok 2 ∧ 3 < 2 ^ 53 ∧ 1 ≤ 2 ∧ 2 < 2 ^ 53 ∧
      GraphicField.ofParams "A,3,3,2,FFFF7F".toList = .ok ⟨[0xff, 0xff, 0x7f], 2, 2⟩ ∧
      ((2 - 1) * 2 < 3 ∧ 3 ≤ 2 * 2) ∧
      ∃ d, (Canvas.blit [0xff, 0xff, 0x7f] 2 2 0 0).run.run (Canvas.blank 16 2) = (.ok (), d) ∧
        d.pixel? 0 1 = some Canvas.black := by
  have hparts : graphicParts? "A,3,3,2,FFFF7F".toList =
      some ('A', ['3'], ['2'], "FFFF7F".toList) := by decide
  have htotal : digits? ['3'] = .ok 3 := by decide
  have hrow : digits? ['2'] = .ok 2 := by decide
  obtain ⟨hfield, hbounds, hdots⟩ := ofParams_ceilDiv hparts htotal hrow (by norm_num) (by norm_num)
    (by norm_num)
  have hread : GraphicField.ofParams "A,3,3,2,FFFF7F".toList = .ok ⟨[0xff, 0xff, 0x7f], 2, 2⟩ :=
    hfield
  obtain ⟨d, hd⟩ : ∃ d, (Canvas.blit [0xff, 0xff, 0x7f] 2 2 0 0).run.run (Canvas.blank 16 2) =
      (.ok (), d) := ⟨_, rfl⟩
  refine ⟨hparts, htotal, hrow, by norm_num, by norm_num, by norm_num, hread,
    hbounds (by norm_num), d, hd, ?_⟩
  exact hdots _ hread 0 0 (Canvas.blank 16 2) d hd 2 (by norm_num) 0 (by norm_num)

end LabelPress.Markup
