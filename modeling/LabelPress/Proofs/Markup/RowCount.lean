import LabelPress.Markup.GraphicField
import LabelPress.Proofs.Number.Grid

/-! # The rows of a graphic field

The declared size over the row size is rounded to a double before it is rounded up. A whole number
of 53 bits is a grid point, so the quotient is not pushed across one. Nor is it pulled down to one:
above a whole number it is larger by at least one part of a row, and half a step of the grid is less
than that as long as the declared size has no more than 53 bits.

* `lt_nearest_quotient`: a quotient stays above a whole number.
* `rowCount?_eq`: the number of rows is the quotient rounded up.
* `memoryBound_le_of_rowCount?`: no rows hold a size that memory does not hold. -/

namespace LabelPress.Markup

open Binary64

section
variable {total row : ℕ}

/-- Around a quotient half a step of the grid is less than one part of a row. -/
theorem exists_gridExponent_quotient (htotal : total < 2 ^ 53) (hpos : 0 < total) (hrow : 1 ≤ row)
    (hmost : row < 2 ^ 53) :
    ∃ steps : ℕ, (2 : ℚ) ^ gridExponent ((total : ℚ) / row) = 1 / (steps : ℚ) ∧
      row < 2 * steps := by
  have hrow' : (0 : ℚ) < row := by exact_mod_cast hrow
  have htotal' : (total : ℚ) < 2 ^ 53 := by exact_mod_cast htotal
  have hq : (0 : ℚ) < (total : ℚ) / row := div_pos (by exact_mod_cast hpos) hrow'
  have hle : (total : ℚ) / row ≤ total :=
    div_le_self (Nat.cast_nonneg _) (by exact_mod_cast hrow)
  have hwhole : gridExponent ((total : ℚ) / row) ≤ 0 := by
    by_contra hcoarse
    have hfar := le_abs_of_gridExponent hq.ne' (by omega)
    have hone : (2 : ℚ) ^ (1 : ℤ) ≤ 2 ^ gridExponent ((total : ℚ) / row) :=
      zpow_le_zpow_right₀ (by norm_num) (by omega)
    rw [abs_of_pos hq] at hfar
    norm_num at hone
    linarith
  obtain ⟨k, hk⟩ := Int.eq_ofNat_of_zero_le (show 0 ≤ -gridExponent ((total : ℚ) / row) by omega)
  have hstep : (2 : ℚ) ^ gridExponent ((total : ℚ) / row) = 1 / ((2 ^ k : ℕ) : ℚ) := by
    rw [show gridExponent ((total : ℚ) / row) = -(k : ℤ) by omega, zpow_neg, one_div]
    norm_cast
  refine ⟨2 ^ k, hstep, ?_⟩
  by_cases hfine : 53 ≤ k
  · have hle := Nat.pow_le_pow_right (show 0 < 2 by omega) hfine
    omega
  · have hfar := le_abs_of_gridExponent hq.ne' (by omega)
    have hsteps : (0 : ℚ) < ((2 ^ k : ℕ) : ℚ) := by positivity
    rw [abs_of_pos hq, hstep, mul_one_div, div_le_div_iff₀ hsteps hrow'] at hfar
    have hlt : (2 : ℚ) ^ 52 * row < 2 ^ 52 * (2 * ((2 ^ k : ℕ) : ℚ)) := by
      calc (2 : ℚ) ^ 52 * row ≤ total * ((2 ^ k : ℕ) : ℚ) := hfar
        _ < 2 ^ 53 * ((2 ^ k : ℕ) : ℚ) := by gcongr
        _ = 2 ^ 52 * (2 * ((2 ^ k : ℕ) : ℚ)) := by ring
    exact_mod_cast lt_of_mul_lt_mul_left hlt (by norm_num)

/-- **A quotient stays above a whole number** when it is rounded. -/
theorem lt_nearest_quotient (htotal : total < 2 ^ 53) (hrow : 1 ≤ row) (hmost : row < 2 ^ 53)
    {n : ℕ} (h : n * row < total) : (n : ℚ) < nearest ((total : ℚ) / row) := by
  have hrow' : (0 : ℚ) < row := by exact_mod_cast hrow
  have hpos : 0 < total := by omega
  have hq : (0 : ℚ) < (total : ℚ) / row := div_pos (by exact_mod_cast hpos) hrow'
  obtain ⟨steps, hstep, hhalf⟩ := exists_gridExponent_quotient htotal hpos hrow hmost
  have hsteps : (0 : ℚ) < steps := by
    have : 0 < steps := by omega
    exact_mod_cast this
  have hhalf' : (row : ℚ) < 2 * steps := by exact_mod_cast hhalf
  have habove : (n : ℚ) * row + 1 ≤ total := by exact_mod_cast h
  have hmiddle : ((n * steps : ℤ) : ℚ) + 1 / 2 < (total : ℚ) / row / (1 / steps) := by
    have hpart : (1 : ℚ) / 2 < steps / row := by
      rw [div_lt_div_iff₀ (by norm_num) hrow']
      linarith
    have hquotient : (n : ℚ) + 1 / row ≤ total / row := by
      rw [← sub_nonneg]
      have : (total : ℚ) / row - (n + 1 / row) = (total - (n * row + 1)) / row := by
        field_simp
      rw [this]
      exact div_nonneg (by linarith) hrow'.le
    calc ((n * steps : ℤ) : ℚ) + 1 / 2 < n * steps + steps / row := by
          push_cast
          linarith
      _ = (n + 1 / row) * steps := by ring
      _ ≤ total / row * steps := by gcongr
      _ = (total : ℚ) / row / (1 / steps) := by rw [div_div_eq_mul_div, div_one]
  have hround := lt_roundHalfEven hmiddle
  have hround' : (n : ℚ) * steps < roundHalfEven ((total : ℚ) / row / (1 / steps)) := by
    exact_mod_cast hround
  rw [nearest_eq hq.ne', hstep, mul_one_div, lt_div_iff₀ hsteps]
  exact hround'

theorem le_mul_rows (total : ℕ) (hrow : 1 ≤ row) : total ≤ row * ((total + row - 1) / row) := by
  have hrest := Nat.div_add_mod (total + row - 1) row
  have hmod := Nat.mod_lt (total + row - 1) hrow
  omega

/-- Full rows hold no more than the declared size. -/
theorem mul_rows_of_dvd (hrow : 1 ≤ row) (h : row ∣ total) :
    row * ((total + row - 1) / row) = total := by
  obtain ⟨n, rfl⟩ := h
  rw [Nat.add_sub_assoc hrow, Nat.mul_add_div hrow, Nat.div_eq_of_lt (by omega), Nat.add_zero]

/-- **The number of rows** is the quotient rounded up. -/
theorem rowCount?_eq (htotal : total < 2 ^ 53) (hrow : 1 ≤ row) (hmost : row < 2 ^ 53) :
    rowCount? total row = some ((total + row - 1) / row) := by
  have hrow' : (0 : ℚ) < row := by exact_mod_cast hrow
  set rows := (total + row - 1) / row with hrows
  have henough : total ≤ rows * row := by
    rw [Nat.mul_comm]
    exact le_mul_rows total hrow
  have hfew : rows ≤ total := by
    have hgrow : total ≤ row * total := Nat.le_mul_of_pos_left _ hrow
    refine Nat.lt_succ_iff.1 (Nat.div_lt_of_lt_mul ?_)
    rw [Nat.mul_succ]
    omega
  have hnonneg : 0 ≤ nearest ((total : ℚ) / row) :=
    le_nearest_of_onGrid ⟨0, 0, by norm_num, by norm_num, by norm_num⟩ (by positivity)
  have hmostRows : nearest ((total : ℚ) / row) ≤ rows := by
    refine nearest_le_of_onGrid ⟨rows, 0, ?_, by norm_num, by simp⟩ ?_
    · rw [Nat.abs_cast]
      exact_mod_cast hfew.trans_lt htotal
    · rw [div_le_iff₀ hrow']
      exact_mod_cast henough
  have hfinite : isFinite ((total : ℚ) / row) = true := by
    have hsmall : (rows : ℚ) < 2 ^ (1024 : ℤ) := by
      have : (rows : ℚ) < 2 ^ 53 := by exact_mod_cast hfew.trans_lt htotal
      refine this.trans_le ?_
      rw [← zpow_natCast]
      exact zpow_le_zpow_right₀ (by norm_num) (by norm_num)
    have hlarge : -(2 : ℚ) ^ (1024 : ℤ) < 0 := by
      rw [neg_lt_zero]
      positivity
    simp only [isFinite, Bool.and_eq_true, decide_eq_true_eq]
    exact ⟨hlarge.trans_le hnonneg, hmostRows.trans_lt hsmall⟩
  have hceil : (nearest ((total : ℚ) / row)).ceil = rows := by
    refine le_antisymm (Rat.ceil_le_iff.2 (by exact_mod_cast hmostRows)) ?_
    rcases Nat.eq_zero_or_pos rows with hzero | hpos
    · rw [hzero]
      exact_mod_cast hnonneg.trans (Rat.le_ceil)
    · have hbelow : (rows - 1) * row < total := by
        have hdiv := Nat.div_mul_le_self (total + row - 1) row
        rw [← hrows] at hdiv
        have hsplit : (rows - 1) * row + row = rows * row := by
          rw [← Nat.succ_mul, Nat.succ_eq_add_one, Nat.sub_add_cancel hpos]
        omega
      have hlt := lt_nearest_quotient htotal hrow hmost hbelow
      have hlt' := Rat.lt_ceil_iff.2 (show (((rows - 1 : ℕ) : ℤ) : ℚ) < _ by exact_mod_cast hlt)
      omega
  rw [rowCount?, if_pos hfinite, hceil, Int.toNat_natCast]

/-- **Rows hold no more than memory**: a size that no memory holds has no rows, or rows that no
memory holds. -/
theorem memoryBound_le_of_rowCount? {rows : ℕ} (h : rowCount? total row = some rows)
    (hrow : 1 ≤ row) (hrows : 1 ≤ rows) (htotal : memoryBound ≤ total) :
    memoryBound ≤ row * rows := by
  have hbound : memoryBound = 2 ^ 40 := by decide
  have hwide : row ≤ row * rows := Nat.le_mul_of_pos_right _ hrows
  by_cases hlong : 2 ^ 40 ≤ row
  · rw [hbound]
    exact_mod_cast hlong.trans hwide
  by_cases hsmall : total < 2 ^ 53
  · rw [rowCount?_eq hsmall hrow (by omega), Option.some.injEq] at h
    have henough := le_mul_rows total hrow
    rw [h] at henough
    rw [hbound] at htotal ⊢
    exact htotal.trans (by exact_mod_cast henough)
  · -- A size of more than 53 bits: its rows are no fewer than those of a smaller one.
    have hrow' : (0 : ℚ) < row := by exact_mod_cast hrow
    obtain ⟨few, hfew⟩ : ∃ few, few = 2 ^ 52 / row := ⟨_, rfl⟩
    have hle : few ≤ 2 ^ 52 := hfew ▸ Nat.div_le_self (2 ^ 52) row
    have hfit : few * row ≤ 2 ^ 52 := hfew ▸ Nat.div_mul_le_self (2 ^ 52) row
    have hleast : (few : ℚ) ≤ nearest ((total : ℚ) / row) := by
      refine le_nearest_of_onGrid ⟨few, 0, ?_, by norm_num, by simp⟩ ?_
      · rw [Nat.abs_cast]
        exact_mod_cast hle.trans_lt (by norm_num)
      · rw [le_div_iff₀ hrow']
        exact_mod_cast hfit.trans (by omega)
    have hceil : rows = (nearest ((total : ℚ) / row)).ceil.toNat := by
      unfold rowCount? at h
      dsimp only at h
      split_ifs at h
      exact (Option.some.inj h).symm
    have hmany : few ≤ rows := by
      have hup : ((few : ℤ) : ℚ) ≤ (nearest ((total : ℚ) / row)).ceil :=
        le_trans (by exact_mod_cast hleast) Rat.le_ceil
      have hup' : (few : ℤ) ≤ (nearest ((total : ℚ) / row)).ceil := by exact_mod_cast hup
      omega
    have hfill : 2 ^ 40 ≤ row * rows := by
      have hrest := Nat.div_add_mod (2 ^ 52) row
      have hmod := Nat.mod_lt (2 ^ 52) hrow
      have hmul := Nat.mul_le_mul_left row hmany
      rw [← hfew] at hrest
      omega
    rw [hbound]
    exact_mod_cast hfill

/-- Rows that memory holds are those of the quotient rounded up, and memory holds the declared size
as well. -/
theorem rows_of_lt_memoryBound {rows : ℕ} (h : rowCount? total row = some rows) (hrow : 1 ≤ row)
    (hrows : 1 ≤ rows) (hbound : (row : ℤ) * rows < memoryBound) :
    (total : ℤ) < memoryBound ∧ rows = (total + row - 1) / row := by
  have htotal : (total : ℤ) < memoryBound := by
    by_contra hbeyond
    exact not_lt.2 (memoryBound_le_of_rowCount? h hrow hrows (not_lt.1 hbeyond)) hbound
  have hvalue : memoryBound = 2 ^ 40 := by decide
  have hshort : ((row * rows : ℕ) : ℤ) < memoryBound := by exact_mod_cast hbound
  have hwide : row ≤ row * rows := Nat.le_mul_of_pos_right _ hrows
  have hcount : rowCount? total row = some ((total + row - 1) / row) :=
    rowCount?_eq (by omega) hrow (by omega)
  exact ⟨htotal, Option.some.inj (h.symm.trans hcount)⟩

end

end LabelPress.Markup
