import LabelPress.Number.Binary64
import Mathlib

/-! # The grid of doubles

A grid point is a whole number of fewer than 54 bits times a power of two that is not too small.
Rounding never passes a grid point: what lies below one is rounded to at most that point, and
likewise from above. So rounding leaves the grid points alone, and bounds that are grid points
survive any number of rounded steps.

* `floorLog2_spec`, `floorLog2_eq`: the binade of a number.
* `nearest_le_of_onGrid`, `le_nearest_of_onGrid`: rounding does not pass a grid point.
* `nearest_of_onGrid`: grid points are left alone. -/

namespace LabelPress.Binary64

/-! ### Rounding to whole numbers -/

theorem roundHalfEven_le {q : ℚ} {n : ℤ} (h : q ≤ n) : roundHalfEven q ≤ n := by
  have hfloor : ⌊q⌋ ≤ n := Int.floor_le_iff.2 (h.trans_lt (by linarith))
  change (if q - ⌊q⌋ < 1 / 2 then ⌊q⌋ else if 1 / 2 < q - ⌊q⌋ then ⌊q⌋ + 1
    else if ⌊q⌋ % 2 = 0 then ⌊q⌋ else ⌊q⌋ + 1) ≤ n
  by_cases heq : ⌊q⌋ = n
  · rw [heq, if_pos (by linarith)]
  · split_ifs <;> omega

theorem floor_le_roundHalfEven (q : ℚ) : ⌊q⌋ ≤ roundHalfEven q := by
  change ⌊q⌋ ≤ if q - ⌊q⌋ < 1 / 2 then ⌊q⌋ else if 1 / 2 < q - ⌊q⌋ then ⌊q⌋ + 1
    else if ⌊q⌋ % 2 = 0 then ⌊q⌋ else ⌊q⌋ + 1
  split_ifs <;> omega

theorem le_roundHalfEven {q : ℚ} {n : ℤ} (h : n ≤ q) : n ≤ roundHalfEven q :=
  (Int.le_floor.2 h).trans (floor_le_roundHalfEven q)

theorem lt_roundHalfEven {q : ℚ} {n : ℤ} (h : n + 1 / 2 < q) : n < roundHalfEven q := by
  by_cases hfloor : n < ⌊q⌋
  · exact hfloor.trans_le (floor_le_roundHalfEven q)
  · have heq : ⌊q⌋ = n := le_antisymm (not_lt.1 hfloor) (Int.le_floor.2 (by linarith))
    change n < if q - ⌊q⌋ < 1 / 2 then ⌊q⌋ else if 1 / 2 < q - ⌊q⌋ then ⌊q⌋ + 1
      else if ⌊q⌋ % 2 = 0 then ⌊q⌋ else ⌊q⌋ + 1
    rw [heq, if_neg (by linarith), if_pos (by linarith)]
    omega

/-- Rounding half to even is the same from both sides of zero. -/
theorem roundHalfEven_neg (q : ℚ) : roundHalfEven (-q) = -roundHalfEven q := by
  by_cases hq : (⌊q⌋ : ℚ) = q
  · rw [← hq, roundHalfEven_intCast, ← Int.cast_neg, roundHalfEven_intCast]
  · have hlow := Int.floor_le q
    have hhigh := Int.lt_floor_add_one q
    have hlt : (⌊q⌋ : ℚ) < q := lt_of_le_of_ne hlow hq
    have hneg : ⌊-q⌋ = -⌊q⌋ - 1 := by
      rw [Int.floor_eq_iff]
      push_cast
      constructor <;> linarith
    change (if -q - ⌊-q⌋ < 1 / 2 then ⌊-q⌋ else if 1 / 2 < -q - ⌊-q⌋ then ⌊-q⌋ + 1
      else if ⌊-q⌋ % 2 = 0 then ⌊-q⌋ else ⌊-q⌋ + 1) =
      -(if q - ⌊q⌋ < 1 / 2 then ⌊q⌋ else if 1 / 2 < q - ⌊q⌋ then ⌊q⌋ + 1
      else if ⌊q⌋ % 2 = 0 then ⌊q⌋ else ⌊q⌋ + 1)
    rw [hneg]
    push_cast
    split_ifs <;> first | omega | linarith

/-! ### Binades -/

theorem abs_eq_natAbs_div (q : ℚ) : |q| = (q.num.natAbs : ℚ) / (q.den : ℚ) := by
  conv_lhs => rw [← Rat.num_div_den q]
  rw [abs_div, abs_of_nonneg (a := (q.den : ℚ)) (by positivity), Nat.cast_natAbs, Int.cast_abs]

/-- **The binade of a number.** -/
theorem floorLog2_spec {q : ℚ} (hq : q ≠ 0) :
    (2 : ℚ) ^ floorLog2 q ≤ |q| ∧ |q| < (2 : ℚ) ^ (floorLog2 q + 1) := by
  have hnum : q.num.natAbs ≠ 0 := by simpa using hq
  have hden : (0 : ℚ) < q.den := by exact_mod_cast q.den_pos
  have h1 : (2 : ℚ) ^ (q.num.natAbs.log2 : ℤ) ≤ q.num.natAbs := by
    exact_mod_cast Nat.log2_self_le hnum
  have h2 : (q.num.natAbs : ℚ) < (2 : ℚ) ^ (q.num.natAbs.log2 + 1 : ℤ) := by
    exact_mod_cast Nat.lt_log2_self
  have h3 : (2 : ℚ) ^ (q.den.log2 : ℤ) ≤ q.den := by
    exact_mod_cast Nat.log2_self_le q.den_nz
  have h4 : (q.den : ℚ) < (2 : ℚ) ^ (q.den.log2 + 1 : ℤ) := by
    exact_mod_cast Nat.lt_log2_self
  -- The logarithms of numerator and denominator leave two binades to choose from.
  have hlow : (2 : ℚ) ^ ((q.num.natAbs.log2 : ℤ) - q.den.log2 - 1) ≤ |q| := by
    rw [abs_eq_natAbs_div, le_div_iff₀ hden]
    calc (2 : ℚ) ^ ((q.num.natAbs.log2 : ℤ) - q.den.log2 - 1) * q.den
        ≤ (2 : ℚ) ^ ((q.num.natAbs.log2 : ℤ) - q.den.log2 - 1) * 2 ^ (q.den.log2 + 1 : ℤ) := by
          gcongr
      _ = (2 : ℚ) ^ (q.num.natAbs.log2 : ℤ) := by
          rw [← zpow_add₀ (by norm_num)]
          congr 1
          ring
      _ ≤ q.num.natAbs := h1
  have hhigh : |q| < (2 : ℚ) ^ ((q.num.natAbs.log2 : ℤ) - q.den.log2 + 1) := by
    rw [abs_eq_natAbs_div, div_lt_iff₀ hden]
    calc (q.num.natAbs : ℚ) < (2 : ℚ) ^ (q.num.natAbs.log2 + 1 : ℤ) := h2
      _ = (2 : ℚ) ^ ((q.num.natAbs.log2 : ℤ) - q.den.log2 + 1) * 2 ^ (q.den.log2 : ℤ) := by
          rw [← zpow_add₀ (by norm_num)]
          congr 1
          ring
      _ ≤ (2 : ℚ) ^ ((q.num.natAbs.log2 : ℤ) - q.den.log2 + 1) * q.den := by gcongr
  unfold floorLog2
  simp only [← abs_eq_natAbs_div]
  split_ifs with hbelow
  · exact ⟨hlow, by simpa using hbelow⟩
  · exact ⟨not_lt.1 hbelow, hhigh⟩

theorem floorLog2_eq {q : ℚ} {k : ℤ} (h1 : (2 : ℚ) ^ k ≤ |q|) (h2 : |q| < (2 : ℚ) ^ (k + 1)) :
    floorLog2 q = k := by
  have hq : q ≠ 0 := by
    rintro rfl
    have : (0 : ℚ) < 2 ^ k := by positivity
    simp only [abs_zero] at h1
    linarith
  obtain ⟨h3, h4⟩ := floorLog2_spec hq
  have h5 : k < floorLog2 q + 1 := (zpow_lt_zpow_iff_right₀ (by norm_num)).1 (h1.trans_lt h4)
  have h6 : floorLog2 q < k + 1 := (zpow_lt_zpow_iff_right₀ (by norm_num)).1 (h3.trans_lt h2)
  omega

theorem floorLog2_neg (q : ℚ) : floorLog2 (-q) = floorLog2 q := by
  simp only [floorLog2, Rat.neg_num, Int.natAbs_neg, Rat.neg_den]

theorem gridExponent_neg (q : ℚ) : gridExponent (-q) = gridExponent q := by
  rw [gridExponent, gridExponent, floorLog2_neg]

/-- A number has at most 53 bits before the point of its grid. -/
theorem abs_lt_of_gridExponent {q : ℚ} (hq : q ≠ 0) : |q| < 2 ^ 53 * (2 : ℚ) ^ gridExponent q := by
  refine (floorLog2_spec hq).2.trans_le ?_
  rw [← zpow_natCast, ← zpow_add₀ (by norm_num)]
  refine zpow_le_zpow_right₀ (by norm_num) ?_
  unfold gridExponent
  omega

/-- Above the finest grid a number has exactly 53 of them. -/
theorem le_abs_of_gridExponent {q : ℚ} (hq : q ≠ 0) (h : -1074 < gridExponent q) :
    2 ^ 52 * (2 : ℚ) ^ gridExponent q ≤ |q| := by
  refine le_trans ?_ (floorLog2_spec hq).1
  rw [← zpow_natCast, ← zpow_add₀ (by norm_num)]
  refine zpow_le_zpow_right₀ (by norm_num) ?_
  unfold gridExponent at h ⊢
  omega

/-- A number that has 53 bits before a point has a grid no finer than the steps there. -/
theorem le_gridExponent {q : ℚ} {e : ℤ} (h : 2 ^ 52 * (2 : ℚ) ^ e ≤ |q|) : e ≤ gridExponent q := by
  have hpos : (0 : ℚ) < 2 ^ 52 * 2 ^ e := by positivity
  have hq : q ≠ 0 := abs_pos.1 (hpos.trans_le h)
  have hlt := h.trans_lt (floorLog2_spec hq).2
  rw [← zpow_natCast, ← zpow_add₀ (by norm_num)] at hlt
  have := (zpow_lt_zpow_iff_right₀ (by norm_num)).1 hlt
  unfold gridExponent
  omega

/-- **Rounded to a whole number of steps** of its grid a positive number has at most 53 bits or is
the next power of two, and no fewer unless the grid is the finest. -/
theorem roundHalfEven_steps {q : ℚ} (hq : 0 < q) :
    roundHalfEven (q / 2 ^ gridExponent q) ≤ 2 ^ 53 ∧
      (2 ^ 52 ≤ roundHalfEven (q / 2 ^ gridExponent q) ∨ gridExponent q = -1074) := by
  have hpos : (0 : ℚ) < 2 ^ gridExponent q := by positivity
  have habs : |q| = q := abs_of_pos hq
  constructor
  · have hlt := abs_lt_of_gridExponent hq.ne'
    rw [habs] at hlt
    refine roundHalfEven_le ((div_le_iff₀ hpos).2 ?_)
    push_cast
    exact hlt.le
  · by_cases hmin : gridExponent q = -1074
    · exact Or.inr hmin
    · left
      have hgrid : -1074 ≤ gridExponent q := le_max_right ..
      have hfar := le_abs_of_gridExponent hq.ne' (by omega)
      rw [habs] at hfar
      refine le_roundHalfEven ((le_div_iff₀ hpos).2 ?_)
      push_cast
      exact hfar

/-! ### Rounding to the grid -/

theorem nearest_eq {q : ℚ} (hq : q ≠ 0) :
    nearest q = roundHalfEven (q / 2 ^ gridExponent q) * 2 ^ gridExponent q := by
  rw [nearest, if_neg hq]

theorem nearest_neg (q : ℚ) : nearest (-q) = -nearest q := by
  by_cases hq : q = 0
  · rw [hq, neg_zero, nearest_zero, neg_zero]
  · rw [nearest_eq hq, nearest_eq (neg_ne_zero.2 hq), gridExponent_neg, neg_div, roundHalfEven_neg]
    push_cast
    ring

/-- A grid point. -/
def OnGrid (g : ℚ) : Prop := ∃ m e : ℤ, |m| < 2 ^ 53 ∧ -1074 ≤ e ∧ g = m * 2 ^ e

theorem OnGrid.neg {g : ℚ} (h : OnGrid g) : OnGrid (-g) := by
  obtain ⟨m, e, hm, he, rfl⟩ := h
  exact ⟨-m, e, by rwa [abs_neg], he, by push_cast; ring⟩

/-- A number of coarser steps is a number of finer ones. -/
theorem mul_zpow_eq_steps (m : ℤ) {E e : ℤ} (h : e ≤ E) :
    (m : ℚ) * 2 ^ E = ((m * 2 ^ (E - e).toNat : ℤ) : ℚ) * 2 ^ e := by
  push_cast
  rw [mul_assoc, ← zpow_natCast, ← zpow_add₀ (by norm_num), Int.toNat_of_nonneg (by omega)]
  congr 2
  ring

/-- A grid point of a finer grid lies below the binade of a coarser one. -/
theorem abs_mul_zpow_lt {m E e : ℤ} (hm : |m| < 2 ^ 53) (h : E < e) :
    |(m : ℚ) * 2 ^ E| < 2 ^ 52 * 2 ^ e := by
  have hm' : |(m : ℚ)| < 2 ^ 53 := by exact_mod_cast hm
  calc |(m : ℚ) * 2 ^ E| = |(m : ℚ)| * 2 ^ E := by
        rw [abs_mul, abs_of_pos (a := (2 : ℚ) ^ E) (by positivity)]
    _ < 2 ^ 53 * (2 : ℚ) ^ E := by gcongr
    _ = 2 ^ 52 * (2 : ℚ) ^ (E + 1) := by
        rw [zpow_add_one₀ (by norm_num)]
        ring
    _ ≤ 2 ^ 52 * 2 ^ e := by
        gcongr
        · norm_num
        · omega

/-- **Rounding does not pass a grid point** from below. -/
theorem nearest_le_of_onGrid {q g : ℚ} (hg : OnGrid g) (h : q ≤ g) : nearest q ≤ g := by
  by_cases hq : q = 0
  · rwa [hq, nearest_zero, ← hq]
  obtain ⟨m, E, hm, hE, rfl⟩ := hg
  have hpos : (0 : ℚ) < 2 ^ gridExponent q := by positivity
  rw [nearest_eq hq]
  by_cases hle : gridExponent q ≤ E
  · -- The point is a whole number of steps of the grid around `q`.
    rw [mul_zpow_eq_steps m hle] at h ⊢
    have hround := roundHalfEven_le ((div_le_iff₀ hpos).2 h)
    gcongr
  · -- The point lies below the binade of `q`, so `q` is negative and far from it.
    have hfar := le_abs_of_gridExponent hq (by omega)
    have hnear := abs_mul_zpow_lt hm (not_le.1 hle)
    have hnegative : q < 0 := by
      by_contra hge
      rw [abs_of_nonneg (not_lt.1 hge)] at hfar
      linarith [le_abs_self ((m : ℚ) * 2 ^ E)]
    rw [abs_of_neg hnegative] at hfar
    have hround : roundHalfEven (q / 2 ^ gridExponent q) ≤ -2 ^ 52 := by
      refine roundHalfEven_le ((div_le_iff₀ hpos).2 ?_)
      push_cast
      linarith
    have hround' : (roundHalfEven (q / 2 ^ gridExponent q) : ℚ) ≤ -2 ^ 52 := by
      exact_mod_cast hround
    calc (roundHalfEven (q / 2 ^ gridExponent q) : ℚ) * 2 ^ gridExponent q
        ≤ -2 ^ 52 * 2 ^ gridExponent q := by gcongr
      _ ≤ m * 2 ^ E := by linarith [neg_abs_le ((m : ℚ) * 2 ^ E)]

/-- **Rounding does not pass a grid point** from above. -/
theorem le_nearest_of_onGrid {q g : ℚ} (hg : OnGrid g) (h : g ≤ q) : g ≤ nearest q := by
  have hneg := nearest_le_of_onGrid hg.neg (neg_le_neg h)
  rw [nearest_neg] at hneg
  exact neg_le_neg_iff.1 hneg

theorem nearest_of_onGrid {q : ℚ} (h : OnGrid q) : nearest q = q :=
  le_antisymm (nearest_le_of_onGrid h le_rfl) (le_nearest_of_onGrid h le_rfl)

end LabelPress.Binary64
