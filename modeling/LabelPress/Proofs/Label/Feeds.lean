import LabelPress.Proofs.Label.Dots
import LabelPress.Proofs.Number.Beyond

/-! # Lengths that are not negative

A length that is not negative has its dots exactly if it is a number below `2 ^ 1021`. Eight dots to
the millimetre then give a double that is not rounded, and half a dot more does not reach beyond all
doubles. Eight times any other number exceeds all doubles, and so does an infinity.

* `Feedable`: a length that has its dots.
* `dotsOf_of_feedable`, `dotsOf_of_not_feedable`: the dots of a length, or why there are none. -/

namespace LabelPress

open Binary64

/-- **A length that has its dots**, if it is not negative. -/
def Feedable (mm : Float) : Prop := ∃ q, ofFloat? mm = some q ∧ q < 2 ^ (1021 : ℤ)

/-- No length is rounded when it is multiplied with eight, unless it exceeds all doubles. -/
theorem onGrid_eight_mul {q : ℚ} (h : OnGrid q) : OnGrid (q * 8) := by
  obtain ⟨m, e, hm, he, rfl⟩ := h
  refine ⟨m, e + 3, hm, by omega, ?_⟩
  rw [zpow_add₀ (by norm_num), mul_assoc]
  norm_num

/-- The last grid point of a double leaves room for more than one. -/
theorem add_one_lt_of_onGrid {q : ℚ} (h : OnGrid q) (hq : q < 2 ^ (1024 : ℤ)) :
    q + 1 < 2 ^ (1024 : ℤ) := by
  have hstep : (2 : ℚ) ^ (1024 : ℤ) = 2 ^ 53 * 2 ^ (971 : ℤ) := by
    rw [← zpow_natCast, ← zpow_add₀ (by norm_num)]
    norm_num only
  have hone : (1 : ℚ) < 2 ^ (971 : ℤ) := one_lt_zpow₀ (by norm_num) (by norm_num)
  obtain ⟨m, e, hm, -, rfl⟩ := h
  rw [hstep] at hq ⊢
  by_cases he : e < 971
  · -- A finer grid ends at half of that.
    calc (m : ℚ) * 2 ^ e + 1 < 2 ^ 52 * 2 ^ (971 : ℤ) + 2 ^ (971 : ℤ) :=
          add_lt_add ((le_abs_self _).trans_lt (abs_mul_zpow_lt hm he)) hone
      _ = (2 ^ 52 + 1) * 2 ^ (971 : ℤ) := by ring
      _ ≤ 2 ^ 53 * 2 ^ (971 : ℤ) := by
          gcongr
          norm_num
  · -- A coarser one has its points among those of the last binade.
    rw [mul_zpow_eq_steps m (not_lt.1 he)] at hq ⊢
    have hsteps : m * 2 ^ (e - 971).toNat < 2 ^ 53 := by
      exact_mod_cast lt_of_mul_lt_mul_right hq (by positivity)
    have hlast : ((m * 2 ^ (e - 971).toNat : ℤ) : ℚ) ≤ 2 ^ 53 - 1 := by
      exact_mod_cast Int.le_sub_one_of_lt hsteps
    calc ((m * 2 ^ (e - 971).toNat : ℤ) : ℚ) * 2 ^ (971 : ℤ) + 1
        < (2 ^ 53 - 1) * 2 ^ (971 : ℤ) + 2 ^ (971 : ℤ) :=
          add_lt_add_of_le_of_lt (by gcongr) hone
      _ = 2 ^ 53 * 2 ^ (971 : ℤ) := by ring

theorem two_zpow_mul_eight : (2 : ℚ) ^ (1021 : ℤ) * 8 = 2 ^ (1024 : ℤ) := by
  rw [show (1024 : ℤ) = 1021 + 3 by norm_num, zpow_add₀ (by norm_num)]
  congr 1

theorem ofFloat?_dotsPerMm : ofFloat? (Float.ofNat dotsPerMm) = some 8 :=
  ofFloat?_ofNat (n := 8) (by norm_num)

theorem dotsOf_of_feedable {mm : Float} (h0 : 0 ≤ mm) (h : Feedable mm) :
    ∃ dots, dotsOf (.real mm) = .ok dots := by
  obtain ⟨q, hq, hlt⟩ := h
  have hq0 : 0 ≤ q := (le_iff_of_ofFloat? ofFloat?_zero hq).1 h0
  have hgrid : OnGrid (q * 8) := onGrid_eight_mul (stands_of_ofFloat? hq).onGrid
  have height : q * 8 < 2 ^ (1024 : ℤ) := by
    rw [← two_zpow_mul_eight]
    gcongr
  have hproduct : ofFloat? (mm * Float.ofNat dotsPerMm) = some (q * 8) := by
    have hnearest := nearest_of_onGrid hgrid
    rw [← hnearest]
    refine ofFloat?_mul hq ofFloat?_dotsPerMm ?_
    rw [hnearest, abs_of_nonneg (by linarith)]
    exact height
  have hclose := abs_sub_nearest_le (q := q * 8 + 1 / 2) hgrid
  rw [add_sub_cancel_left, abs_of_nonneg (by norm_num : (0 : ℚ) ≤ 1 / 2), abs_le] at hclose
  have hsum : |nearest (q * 8 + 1 / 2)| < 2 ^ (1024 : ℤ) := by
    rw [abs_of_nonneg (nearest_nonneg (by linarith))]
    linarith [add_one_lt_of_onGrid hgrid height, hclose.1]
  exact ⟨_, floorFloat?_of_ofFloat? (ofFloat?_add hproduct ofFloat?_half hsum)⟩

theorem floorFloat?_of_infinity {x : Float} {s : Float.Model.UnpackedFloat.Sign}
    (h : x.toModel.unpack = .infinity s) : floorFloat? x = .error .infinite := by
  have hnan : x.isNaN = false := by
    rw [← Bool.not_eq_true, isNaN_iff, h]
    nofun
  have hnone : ofFloat? x = none := by
    rw [ofFloat?_eq_worth, h]
    rfl
  rw [floorFloat?, hnan, hnone]
  rfl

theorem dotsOf_of_not_feedable {mm : Float} (h0 : 0 ≤ mm) (h : ¬Feedable mm) :
    dotsOf (.real mm) = .error .infinite := by
  have hproduct : (mm * Float.ofNat dotsPerMm).toModel.unpack = .infinity .positive := by
    rcases zero_le_cases h0 with ⟨q, hq, -⟩ | hinfinity
    · refine unpack_mul_of_beyond hq ofFloat?_dotsPerMm ?_
      rw [nearest_of_onGrid (onGrid_eight_mul (stands_of_ofFloat? hq).onGrid)]
      have hlarge : 2 ^ (1021 : ℤ) ≤ q := not_lt.1 fun hlt => h ⟨q, hq, hlt⟩
      rw [← two_zpow_mul_eight]
      gcongr
    · exact unpack_mul_infinity hinfinity ofFloat?_dotsPerMm (by norm_num)
  exact floorFloat?_of_infinity (unpack_add_infinity hproduct ofFloat?_half)

end LabelPress
