import LabelPress.Proofs.Number.Nearest

/-! # Differences and quotients of doubles

A difference is the sum with the opposite number, for unpacked doubles as for numbers. A quotient is
taken in whole steps that are fine enough, with the remainder told by the two bits of the mantissa,
and rounded like everything else. So both are the doubles nearest to the exact results.

* `sub_eq_add_opposite`, `Stands.sub`: differences.
* `tells_quotient`: what the quotient of whole numbers and its remainder say.
* `Stands.div`: quotients.
* `ofFloat?_neg`, `ofFloat?_sub`, `ofFloat?_div`: the same for doubles. -/

namespace LabelPress.Binary64

open Float.Model Float.Model.UnpackedFloat

/-! ### Differences -/

theorem neg_apply (s : Sign) (n : ℤ) : (-s).apply n = -s.apply n := by
  cases s
  · exact (neg_neg n).symm
  · rfl

/-- **A difference is a sum**, also where one of the two is no number. -/
theorem sub_eq_add_opposite (format : Format) (u v : UnpackedFloat) :
    UnpackedFloat.sub format u v = UnpackedFloat.add format u v.neg := by
  cases u with
  | infinity s => cases v <;> rfl
  | notANumber => cases v <;> rfl
  | zero s => cases v <;> rfl
  | finite s m e hm =>
    cases v with
    | infinity t => rfl
    | notANumber => rfl
    | zero t => rfl
    | finite t n f hn =>
      simp only [UnpackedFloat.sub, UnpackedFloat.neg, UnpackedFloat.add, neg_apply,
        Int.sub_eq_add_neg]

section
variable {u v : UnpackedFloat} {p q : ℚ}

theorem Stands.neg (hu : Stands u p) : Stands u.neg (-p) := by
  cases u with
  | infinity s => cases hu.worth_eq
  | notANumber => cases hu.worth_eq
  | zero s =>
    rw [hu.eq_zero, neg_zero]
    exact stands_zero _
  | finite s m e hm =>
    obtain ⟨h1, h2, h3⟩ := hu.canonical
    have hstands := stands_finite (s := -s) hm h1 h2 h3
    rw [neg_apply, Int.cast_neg, neg_mul, ← hu.eq_finite] at hstands
    exact hstands

/-- **The difference of two doubles** is the grid point nearest to their difference. -/
theorem Stands.sub (hu : Stands u p) (hv : Stands v q) :
    Stands (UnpackedFloat.sub Format.binary64 u v) (nearest (p - q)) := by
  rw [sub_eq_add_opposite, sub_eq_add_neg]
  exact hu.add hv.neg

/-! ### Quotients -/

/-- **What a quotient of whole numbers and its remainder say** about the exact quotient. -/
theorem tells_quotient (m : ℕ) {n : ℕ} (hn : 0 < n) :
    Tells (.ofMantissaAndAccuracy (m / n) (accuracyOfFraction (m % n) n)) ((m : ℚ) / n) := by
  have hn' : (0 : ℚ) < n := by exact_mod_cast hn
  have hsplit : (m : ℚ) = n * (m / n : ℕ) + (m % n : ℕ) := by
    exact_mod_cast (Nat.div_add_mod m n).symm
  have hrest := Nat.mod_lt m hn
  generalize m / n = whole at hsplit ⊢
  generalize m % n = rest at hsplit hrest ⊢
  have hquotient : (m : ℚ) / n = whole + (rest : ℚ) / n := by
    rw [hsplit, add_div, mul_div_cancel_left₀ _ hn'.ne']
  have hone : (rest : ℚ) / n < 1 := (div_lt_one hn').2 (by exact_mod_cast hrest)
  rw [hquotient, accuracyOfFraction]
  split_ifs with hzero
  · simp [Tells, ExtendedMantissa.ofMantissaAndAccuracy, hzero]
  have hpos : (0 : ℚ) < rest / n := div_pos (by exact_mod_cast Nat.pos_of_ne_zero hzero) hn'
  rcases Nat.lt_trichotomy (2 * rest) n with hlt | heq | hgt
  · rw [Nat.compare_eq_lt.2 hlt]
    have hbelow : (rest : ℚ) / n < 1 / 2 := by
      rw [div_lt_div_iff₀ hn' (by norm_num)]
      exact_mod_cast (by omega : rest * 2 < 1 * n)
    change (whole : ℚ) < whole + rest / n ∧ whole + (rest : ℚ) / n < whole + 1 / 2
    exact ⟨by linarith, by linarith⟩
  · rw [Nat.compare_eq_eq.2 heq]
    have hmiddle : (rest : ℚ) / n = 1 / 2 := by
      rw [div_eq_div_iff hn'.ne' (by norm_num)]
      exact_mod_cast (by omega : rest * 2 = 1 * n)
    exact congrArg _ hmiddle
  · rw [Nat.compare_eq_gt.2 hgt]
    have habove : (1 : ℚ) / 2 < rest / n := by
      rw [div_lt_div_iff₀ (by norm_num) hn']
      exact_mod_cast (by omega : 1 * n < rest * 2)
    change (whole : ℚ) + 1 / 2 < whole + rest / n ∧ whole + (rest : ℚ) / n < whole + 1
    exact ⟨by linarith, by linarith⟩

theorem apply_one_div (s t : Sign) : ((s / t).apply 1 : ℚ) = s.apply 1 / t.apply 1 := by
  cases s <;> cases t
  · change ((1 : ℤ) : ℚ) = ((-1 : ℤ) : ℚ) / ((-1 : ℤ) : ℚ)
    norm_num
  · change ((-1 : ℤ) : ℚ) = ((-1 : ℤ) : ℚ) / ((1 : ℤ) : ℚ)
    norm_num
  · change ((-1 : ℤ) : ℚ) = ((1 : ℤ) : ℚ) / ((-1 : ℤ) : ℚ)
    norm_num
  · change ((1 : ℤ) : ℚ) = ((1 : ℤ) : ℚ) / ((1 : ℤ) : ℚ)
    norm_num

/-- The steps in which a quotient is taken are no coarser than its grid. -/
theorem targetExponent_le_gridExponent {m n : ℕ} (hm : 0 < m) (hn : 0 < n) (e f : ℤ) :
    Format.binary64.targetExponent (totalExponent m e - totalExponent n f) ≤
      gridExponent ((m : ℚ) / n * 2 ^ (e - f)) := by
  have hn' : (0 : ℚ) < n := by exact_mod_cast hn
  have hpos : (0 : ℚ) < m / n * 2 ^ (e - f) := by positivity
  have hlow : (2 : ℚ) ^ ((m.log2 : ℤ) - n.log2 - 1 + (e - f)) ≤ m / n * 2 ^ (e - f) := by
    have h1 : ((2 : ℚ) ^ m.log2) ≤ m := by exact_mod_cast Nat.log2_self_le hm.ne'
    have h2 : (n : ℚ) ≤ (2 : ℚ) ^ (n.log2 + 1) := by exact_mod_cast Nat.lt_log2_self.le
    have hsplit : (2 : ℚ) ^ ((m.log2 : ℤ) - n.log2 - 1) = 2 ^ m.log2 / 2 ^ (n.log2 + 1) := by
      rw [← zpow_natCast, ← zpow_natCast, ← zpow_sub₀ (by norm_num)]
      congr 1
      push_cast
      ring
    rw [zpow_add₀ (by norm_num), hsplit]
    gcongr
  have hlog : (m.log2 : ℤ) - n.log2 - 1 + (e - f) < floorLog2 (m / n * 2 ^ (e - f)) + 1 := by
    have hhigh := (floorLog2_spec hpos.ne').2
    rw [abs_of_pos hpos] at hhigh
    exact (zpow_lt_zpow_iff_right₀ (by norm_num)).1 (hlow.trans_lt hhigh)
  have hmin : Format.binary64.minExponent = -1074 := by decide
  have hbits : (Format.binary64.mantissaBits : ℤ) = 53 := by decide
  rw [Format.targetExponent, totalExponent, totalExponent, gridExponent, hmin, hbits]
  omega

/-- In steps that are fine enough a quotient is one of whole numbers. -/
theorem quotient_in_steps (m n : ℕ) {e steps : ℤ} (h : steps ≤ e) :
    (m : ℚ) / n * 2 ^ e / 2 ^ steps = ((m <<< (e - steps).toNat : ℕ) : ℚ) / n := by
  have hexponent : e - ((e - steps).toNat : ℤ) = steps := by omega
  have hshift := apply_shiftLeft .positive m (e - steps).toNat e
  simp only [Sign.apply, Int.cast_natCast, hexponent] at hshift
  rw [div_mul_eq_mul_div, ← hshift, mul_div_right_comm, mul_div_cancel_right₀ _ (by positivity)]

/-- **The quotient of two doubles** is the grid point nearest to their quotient. -/
theorem Stands.div (hu : Stands u p) (hv : Stands v q) (hq : q ≠ 0) :
    Stands (UnpackedFloat.div Format.binary64 u v) (nearest (p / q)) := by
  cases v with
  | infinity t => cases hv.worth_eq
  | notANumber => cases hv.worth_eq
  | zero t => exact absurd hv.eq_zero hq
  | finite t n f hn =>
    cases u with
    | infinity s => cases hu.worth_eq
    | notANumber => cases hu.worth_eq
    | zero s =>
      rw [hu.eq_zero, zero_div, nearest_zero]
      exact stands_zero _
    | finite s m e hm =>
      have hgrid := targetExponent_le_gridExponent hm hn e f
      obtain ⟨steps, hsteps⟩ : ∃ steps, steps = min (e - f) (Format.binary64.targetExponent
        (totalExponent m e - totalExponent n f)) := ⟨_, rfl⟩
      have hn' : (0 : ℚ) < n := by exact_mod_cast hn
      have hpos : (0 : ℚ) < m / n * 2 ^ (e - f) := by positivity
      have htells := tells_quotient (m <<< (e - f - steps).toNat) hn
      rw [← quotient_in_steps m n (by omega)] at htells
      have hstands := stands_roundWithAccuracy_of_tells (s / t) hpos (by omega) htells
      have hvalue : ((s / t).apply 1 : ℚ) * (m / n * 2 ^ (e - f)) = p / q := by
        rw [hu.eq_finite, hv.eq_finite, apply_cast s m, apply_cast t n, apply_one_div,
          zpow_sub₀ (by norm_num)]
        field_simp
      rw [hvalue, hsteps] at hstands
      exact hstands

end

/-! ### Doubles -/

section
variable {x y : Float} {p q : ℚ}

theorem ofFloat?_neg (hx : ofFloat? x = some p) (hp : |p| < 2 ^ (1024 : ℤ)) :
    ofFloat? (-x) = some (-p) := by
  have hstands := (stands_of_ofFloat? hx).neg.pack (by rwa [abs_neg])
  rw [ofFloat?_eq_worth]
  exact hstands.worth_eq

/-- **The difference of two doubles** is the double nearest to their difference. -/
theorem ofFloat?_sub (hx : ofFloat? x = some p) (hy : ofFloat? y = some q)
    (hdifference : |nearest (p - q)| < 2 ^ (1024 : ℤ)) :
    ofFloat? (x - y) = some (nearest (p - q)) := by
  have hstands := ((stands_of_ofFloat? hx).sub (stands_of_ofFloat? hy)).pack hdifference
  rw [ofFloat?_eq_worth]
  exact hstands.worth_eq

/-- **The quotient of two doubles** is the double nearest to their quotient. -/
theorem ofFloat?_div (hx : ofFloat? x = some p) (hy : ofFloat? y = some q) (hq : q ≠ 0)
    (hquotient : |nearest (p / q)| < 2 ^ (1024 : ℤ)) :
    ofFloat? (x / y) = some (nearest (p / q)) := by
  have hstands := ((stands_of_ofFloat? hx).div (stands_of_ofFloat? hy) hq).pack hquotient
  rw [ofFloat?_eq_worth]
  exact hstands.worth_eq

end

end LabelPress.Binary64
