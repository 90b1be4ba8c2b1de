import LabelPress.Proofs.Number.Grid

/-! # Unpacked doubles

An unpacked double is a sign, a mantissa and an exponent. Its arithmetic is exact up to the last
step, which shifts the mantissa to the grid and rounds by two bits that tell what was shifted out.
That step is rounding to the nearest grid point, so the sum and the product of two doubles are the
grid points nearest to their exact sum and product.

* `Tells`: what a mantissa with its two bits says about a number; shifting keeps it.
* `Stands`: a canonical double and the number it stands for.
* `stands_roundWithAccuracy_of_tells`, `stands_normalize`: the last step.
* `Stands.add`, `Stands.mul`, `Stands.lt_iff`, `Stands.le_iff`: sums, products and order. -/

namespace LabelPress.Binary64

open Float.Model Float.Model.UnpackedFloat

/-! ### Shifting with two bits -/

/-- **What a mantissa and its two bits say**: whole, below the half, at the half, above it. -/
def Tells (em : ExtendedMantissa) (q : ℚ) : Prop :=
  match em.roundBit, em.stickyBit with
  | false, false => q = em.mantissa
  | false, true => em.mantissa < q ∧ q < em.mantissa + 1 / 2
  | true, false => q = em.mantissa + 1 / 2
  | true, true => em.mantissa + 1 / 2 < q ∧ q < em.mantissa + 1

theorem tells_exact (m : ℕ) : Tells (.ofMantissaAndAccuracy m .exact) m := rfl

section
variable {em : ExtendedMantissa} {q : ℚ}

theorem Tells.floor_eq (h : Tells em q) : ⌊q⌋ = (em.mantissa : ℤ) := by
  rw [Int.floor_eq_iff]
  obtain ⟨m, half, rest⟩ := em
  cases half <;> cases rest <;> simp only [Tells] at h <;> push_cast <;> constructor <;> linarith

/-- The two bits are all that rounding needs. -/
theorem Tells.roundedMantissa_eq (h : Tells em q) :
    (em.roundedMantissa : ℤ) = roundHalfEven q := by
  have hfloor := h.floor_eq
  change _ = if q - ⌊q⌋ < 1 / 2 then ⌊q⌋ else if 1 / 2 < q - ⌊q⌋ then ⌊q⌋ + 1
    else if ⌊q⌋ % 2 = 0 then ⌊q⌋ else ⌊q⌋ + 1
  rw [hfloor]
  obtain ⟨m, half, rest⟩ := em
  cases half <;> cases rest <;>
    simp only [Tells, ExtendedMantissa.roundedMantissa, ExtendedMantissa.accuracy,
      Accuracy.roundToNearestEven] at h ⊢ <;> push_cast
  case false.false => rw [if_pos (by linarith)]
  case false.true => rw [if_pos (by linarith [h.2])]
  case true.false =>
    rw [if_neg (by linarith), if_neg (by linarith)]
    split_ifs <;> omega
  case true.true => rw [if_neg (by linarith [h.1]), if_pos (by linarith [h.1])]

theorem Tells.shiftRightOne (h : Tells em q) : Tells em.shiftRightOne (q / 2) := by
  obtain ⟨m, half, rest⟩ := em
  have hsplit : (m : ℚ) = 2 * (m / 2 : ℕ) + (m % 2 : ℕ) := by
    exact_mod_cast (Nat.div_add_mod m 2).symm
  rcases Nat.mod_two_eq_zero_or_one m with hm | hm
  · have hbit : (m % 2 != 0) = false := by rw [hm]; rfl
    rw [hm, Nat.cast_zero] at hsplit
    cases half <;> cases rest <;>
      simp only [Tells, ExtendedMantissa.shiftRightOne, hbit, Bool.or_true, Bool.or_false] at h ⊢
    case false.false => linarith
    all_goals constructor <;> linarith
  · have hbit : (m % 2 != 0) = true := by rw [hm]; rfl
    rw [hm, Nat.cast_one] at hsplit
    cases half <;> cases rest <;>
      simp only [Tells, ExtendedMantissa.shiftRightOne, hbit, Bool.or_true, Bool.or_false] at h ⊢
    case false.false => linarith
    all_goals constructor <;> linarith

/-- **Shifting keeps what is said**, about a number that shrinks. -/
theorem Tells.shiftRight (h : Tells em q) (n : ℕ) : Tells (em >>> n) (q / 2 ^ n) := by
  change Tells (n.repeat ExtendedMantissa.shiftRightOne em) _
  induction n with
  | zero =>
    rw [pow_zero, div_one]
    exact h
  | succ n ih =>
    rw [pow_succ, ← div_div]
    exact ih.shiftRightOne

end

/-! ### What an unpacked double stands for -/

/-- On the grid of its binade. -/
def Canonical : UnpackedFloat → Prop
  | .finite _ m e _ => m < 2 ^ 53 ∧ -1074 ≤ e ∧ (2 ^ 52 ≤ m ∨ e = -1074)
  | _ => True

/-- The number that an unpacked double stands for, if it stands for one. -/
def worth : UnpackedFloat → Option ℚ
  | .zero _ => some 0
  | .finite s m e _ => some (s.apply m * 2 ^ e)
  | .infinity _ | .notANumber => none

/-- **A canonical double and what it stands for.** -/
structure Stands (u : UnpackedFloat) (q : ℚ) : Prop where
  canonical : Canonical u
  worth_eq : worth u = some q

theorem stands_zero (s : Sign) : Stands (.zero s) 0 := ⟨trivial, rfl⟩

theorem stands_finite {s : Sign} {m : ℕ} {e : ℤ} (hpos : 0 < m) (h1 : m < 2 ^ 53) (h2 : -1074 ≤ e)
    (h3 : 2 ^ 52 ≤ m ∨ e = -1074) : Stands (.finite s m e hpos) (s.apply m * 2 ^ e) :=
  ⟨⟨h1, h2, h3⟩, rfl⟩

theorem Stands.eq_zero {s : Sign} {q : ℚ} (h : Stands (.zero s) q) : q = 0 :=
  (Option.some.inj h.worth_eq).symm

theorem Stands.eq_finite {s : Sign} {m : ℕ} {e : ℤ} {hpos : 0 < m} {q : ℚ}
    (h : Stands (.finite s m e hpos) q) : q = s.apply m * 2 ^ e :=
  (Option.some.inj h.worth_eq).symm

theorem apply_mul (s t : Sign) (m n : ℕ) :
    (s * t).apply (m * n : ℕ) = s.apply m * t.apply n := by
  cases s <;> cases t
  · change ((m * n : ℕ) : ℤ) = -(m : ℤ) * -(n : ℤ)
    rw [Nat.cast_mul, neg_mul_neg]
  · change -((m * n : ℕ) : ℤ) = -(m : ℤ) * n
    rw [Nat.cast_mul, neg_mul]
  · change -((m * n : ℕ) : ℤ) = m * -(n : ℤ)
    rw [Nat.cast_mul, mul_neg]
  · exact Nat.cast_mul m n

theorem apply_cast (s : Sign) (m : ℕ) : ((s.apply m : ℤ) : ℚ) = s.apply 1 * m := by
  cases s <;> simp [Sign.apply]

theorem abs_apply (s : Sign) (m : ℕ) : |s.apply (m : ℤ)| = m := by
  cases s <;> simp [Sign.apply]

/-- A mantissa may be made longer and its exponent smaller. -/
theorem apply_shiftLeft (s : Sign) (m k : ℕ) (e : ℤ) :
    ((s.apply (m <<< k : ℕ) : ℤ) : ℚ) * 2 ^ (e - k) = s.apply m * 2 ^ e := by
  rw [apply_cast, apply_cast s m, Nat.shiftLeft_eq]
  push_cast
  rw [mul_assoc, mul_assoc, mul_assoc, ← zpow_natCast, ← zpow_add₀ (by norm_num)]
  congr 3
  omega

/-- A double stands for a grid point. -/
theorem Stands.onGrid {u : UnpackedFloat} {q : ℚ} (h : Stands u q) : OnGrid q := by
  cases u with
  | infinity s => cases h.worth_eq
  | notANumber => cases h.worth_eq
  | zero s => exact ⟨0, 0, by norm_num, by norm_num, by rw [h.eq_zero]; norm_num⟩
  | finite s m e hpos =>
    obtain ⟨h1, h2, -⟩ := h.canonical
    exact ⟨s.apply m, e, by rw [abs_apply]; exact_mod_cast h1, h2, h.eq_finite⟩

/-! ### The last step -/

section
variable {m : ℕ} {e : ℤ}

/-- The exponent that a mantissa is shifted to is that of the grid around its number, also if that
lies beyond the mantissa by less than one step. -/
theorem targetExponent_eq_of_mem {q : ℚ} (hm : 0 < m) (hlow : m * 2 ^ e ≤ q)
    (hhigh : q < (m + 1) * 2 ^ e) :
    Format.binary64.targetExponent (totalExponent m e) = gridExponent q := by
  have hpos : (0 : ℚ) < q := lt_of_lt_of_le (by positivity) hlow
  have hlog : floorLog2 q = m.log2 + e := by
    have h1 : ((2 : ℚ) ^ m.log2) ≤ m := by exact_mod_cast Nat.log2_self_le hm.ne'
    have h2 : (m : ℚ) + 1 ≤ (2 : ℚ) ^ (m.log2 + 1) := by
      exact_mod_cast Nat.succ_le_of_lt (Nat.lt_log2_self (n := m))
    refine floorLog2_eq ?_ ?_
    · rw [abs_of_pos hpos, zpow_add₀ (by norm_num), zpow_natCast]
      refine le_trans ?_ hlow
      gcongr
    · rw [abs_of_pos hpos,
        show (m.log2 : ℤ) + e + 1 = ((m.log2 + 1 : ℕ) : ℤ) + e by push_cast; ring,
        zpow_add₀ (by norm_num), zpow_natCast]
      refine hhigh.trans_le ?_
      gcongr
  have hmin : Format.binary64.minExponent = -1074 := by decide
  have hbits : (Format.binary64.mantissaBits : ℤ) = 53 := by decide
  rw [Format.targetExponent, totalExponent, gridExponent, hlog, hmin, hbits]
  omega

theorem targetExponent_eq (hm : 0 < m) :
    Format.binary64.targetExponent (totalExponent m e) = gridExponent (m * 2 ^ e) := by
  refine targetExponent_eq_of_mem hm le_rfl ?_
  gcongr
  exact lt_add_one _

/-- A mantissa that is already on the grid is not shifted. -/
theorem shiftToTargetExponent_small (hm : m < 2 ^ 53) (he : -1074 ≤ e) :
    shiftToTargetExponent Format.binary64 m e .exact = (.ofMantissaAndAccuracy m .exact, e) := by
  have hlog : m.log2 ≤ 52 := by
    by_cases h0 : m = 0
    · rw [h0]
      decide
    · have := (Nat.log2_lt h0).2 hm
      omega
  have hmin : Format.binary64.minExponent = -1074 := by decide
  have hbits : (Format.binary64.mantissaBits : ℤ) = 53 := by decide
  have hnone : (Format.binary64.targetExponent (totalExponent m e) - e).toNat = 0 := by
    rw [Format.targetExponent, totalExponent, hmin, hbits]
    omega
  simp only [shiftToTargetExponent, shiftToExponent, hnone]
  exact Prod.ext rfl (add_zero e)

/-- A mantissa that was rounded up to 54 bits is shifted by one. -/
theorem shiftToTargetExponent_carry (he : -1074 ≤ e) :
    shiftToTargetExponent Format.binary64 (2 ^ 53) e .exact =
      (.ofMantissaAndAccuracy (2 ^ 52) .exact, e + 1) := by
  have hmin : Format.binary64.minExponent = -1074 := by decide
  have hbits : (Format.binary64.mantissaBits : ℤ) = 53 := by decide
  have hone : (Format.binary64.targetExponent (totalExponent (2 ^ 53) e) - e).toNat = 1 := by
    rw [Format.targetExponent, totalExponent, Nat.log2_two_pow, hmin, hbits]
    omega
  simp only [shiftToTargetExponent, shiftToExponent, hone]
  rfl

/-- **The first shift says what a number is in steps of its grid**, if the mantissa and its two bits
say what it is in finer steps. -/
theorem exists_shiftToTargetExponent {accuracy : Accuracy} {q : ℚ} (hq : 0 < q)
    (he : e ≤ gridExponent q) (h : Tells (.ofMantissaAndAccuracy m accuracy) (q / 2 ^ e)) :
    ∃ em : ExtendedMantissa,
      shiftToTargetExponent Format.binary64 m e accuracy = (em, gridExponent q) ∧
        Tells em (q / 2 ^ gridExponent q) := by
  have hstep : (0 : ℚ) < 2 ^ e := by positivity
  have hmantissa : (ExtendedMantissa.ofMantissaAndAccuracy m accuracy).mantissa = m := by
    rcases accuracy with _ | _ | _ | _ <;> rfl
  have hfloor := h.floor_eq
  rw [hmantissa, Int.floor_eq_iff, Int.cast_natCast, le_div_iff₀ hstep, div_lt_iff₀ hstep] at hfloor
  have htarget : Format.binary64.targetExponent (totalExponent m e) = gridExponent q := by
    rcases Nat.eq_zero_or_pos m with rfl | hm
    · -- The number is smaller than a step of its grid, so that this is the finest one.
      have hsmall : q < 2 ^ gridExponent q := by
        have hbelow := hfloor.2
        rw [Nat.cast_zero, zero_add, one_mul] at hbelow
        exact hbelow.trans_le (zpow_le_zpow_right₀ (by norm_num) he)
      have hfinest : gridExponent q = -1074 := by
        by_contra hcoarse
        have hgrid : -1074 ≤ gridExponent q := le_max_right ..
        have hfar := le_abs_of_gridExponent hq.ne' (by omega)
        rw [abs_of_pos hq] at hfar
        linarith
      have hmin : Format.binary64.minExponent = -1074 := by decide
      have hbits : (Format.binary64.mantissaBits : ℤ) = 53 := by decide
      have hlog : (0 : ℕ).log2 = 0 := by decide
      rw [Format.targetExponent, totalExponent, hlog, hmin, hbits]
      omega
    · exact targetExponent_eq_of_mem hm hfloor.1 hfloor.2
  refine ⟨ExtendedMantissa.ofMantissaAndAccuracy m accuracy >>> (gridExponent q - e).toNat, ?_, ?_⟩
  · rw [shiftToTargetExponent, htarget, shiftToExponent]
    exact Prod.ext rfl (by dsimp only; omega)
  · have hshift := h.shiftRight (gridExponent q - e).toNat
    rw [← zpow_natCast, Int.toNat_of_nonneg (by omega), zpow_sub₀ (by norm_num), div_div,
      mul_div_cancel₀ _ hstep.ne'] at hshift
    exact hshift

/-- The second shift changes nothing but the form. -/
theorem stands_shifted (s : Sign) (h1 : m ≤ 2 ^ 53) (h2 : -1074 ≤ e)
    (h3 : 2 ^ 52 ≤ m ∨ e = -1074) :
    Stands (if h : (shiftToTargetExponent Format.binary64 m e .exact).1.mantissa = 0 then .zero s
      else .finite s (shiftToTargetExponent Format.binary64 m e .exact).1.mantissa
        (shiftToTargetExponent Format.binary64 m e .exact).2 (Nat.pos_of_ne_zero h))
      (s.apply m * 2 ^ e) := by
  generalize hshift : shiftToTargetExponent Format.binary64 m e .exact = shifted
  by_cases hcarry : m = 2 ^ 53
  · subst hcarry
    rw [shiftToTargetExponent_carry h2] at hshift
    subst hshift
    have hsame : ((s.apply (2 ^ 53 : ℕ) : ℤ) : ℚ) * 2 ^ e =
        ((s.apply (2 ^ 52 : ℕ) : ℤ) : ℚ) * 2 ^ (e + 1) := by
      rw [apply_cast s (2 ^ 53), apply_cast s (2 ^ 52), zpow_add_one₀ (by norm_num)]
      push_cast
      ring
    rw [hsame]
    exact stands_finite (m := 2 ^ 52) (by decide) (by decide) (by omega) (Or.inl le_rfl)
  · rw [shiftToTargetExponent_small (by omega) h2] at hshift
    subst hshift
    by_cases hzero : m = 0
    · subst hzero
      have hnone : ((s.apply (0 : ℕ) : ℤ) : ℚ) * 2 ^ e = 0 := by
        rw [apply_cast, Nat.cast_zero, mul_zero, zero_mul]
      rw [hnone]
      exact stands_zero s
    · change Stands (if h : m = 0 then .zero s else .finite s m e (Nat.pos_of_ne_zero h)) _
      rw [dif_neg hzero]
      exact stands_finite (by omega) (by omega) h2 h3

/-- **The last step rounds to the nearest grid point.** -/
theorem stands_roundWithAccuracy_of_tells (s : Sign) {accuracy : Accuracy} {q : ℚ} (hq : 0 < q)
    (he : e ≤ gridExponent q) (h : Tells (.ofMantissaAndAccuracy m accuracy) (q / 2 ^ e)) :
    Stands (roundWithAccuracy Format.binary64 s m e accuracy) (nearest (s.apply 1 * q)) := by
  obtain ⟨em, hshift, htells⟩ := exists_shiftToTargetExponent hq he h
  obtain ⟨hle, hge⟩ := roundHalfEven_steps hq
  rw [← htells.roundedMantissa_eq] at hle hge
  have hunsigned : nearest q = em.roundedMantissa * 2 ^ gridExponent q := by
    rw [nearest_eq hq.ne', ← htells.roundedMantissa_eq, Int.cast_natCast]
  have hnearest : nearest (s.apply 1 * q) = s.apply em.roundedMantissa * 2 ^ gridExponent q := by
    cases s with
    | positive => simpa [Sign.apply] using hunsigned
    | negative =>
      simp only [Sign.apply, Int.cast_neg, Int.cast_natCast, Int.cast_one, neg_mul, one_mul]
      rw [nearest_neg, hunsigned]
  rw [hnearest, roundWithAccuracy, hshift]
  exact stands_shifted s (by exact_mod_cast hle) (le_max_right ..) (by exact_mod_cast hge)

theorem stands_roundWithAccuracy (s : Sign) (hm : 0 < m) (he : e ≤ gridExponent (m * 2 ^ e)) :
    Stands (roundWithAccuracy Format.binary64 s m e .exact) (nearest (s.apply m * 2 ^ e)) := by
  have hstep : (0 : ℚ) < 2 ^ e := by positivity
  have htells : Tells (.ofMantissaAndAccuracy m .exact) ((m : ℚ) * 2 ^ e / 2 ^ e) := by
    rw [mul_div_cancel_right₀ _ hstep.ne']
    exact tells_exact m
  have hstands := stands_roundWithAccuracy_of_tells s (by positivity) he htells
  rwa [← mul_assoc, ← apply_cast] at hstands

/-- **Rounding any mantissa**, also one that is too short. -/
theorem stands_round (s : Sign) (hm : 0 < m) :
    Stands (UnpackedFloat.round Format.binary64 s m e) (nearest (s.apply m * 2 ^ e)) := by
  obtain ⟨k, hk⟩ : ∃ k, k = (e - gridExponent ((m : ℚ) * 2 ^ e)).toNat := ⟨_, rfl⟩
  have hpos : 0 < m <<< k := by
    rw [Nat.shiftLeft_eq]
    positivity
  have hvalue : ((m <<< k : ℕ) : ℚ) * 2 ^ (e - k) = m * 2 ^ e := by
    exact_mod_cast apply_shiftLeft .positive m k e
  have hstands := stands_roundWithAccuracy s hpos (e := e - k) (by rw [hvalue]; omega)
  rw [apply_shiftLeft] at hstands
  rw [UnpackedFloat.round, targetExponent_eq hm, decreaseExponent, ← hk]
  exact hstands

theorem stands_normalize (n : ℤ) (e : ℤ) (z : Sign) :
    Stands (UnpackedFloat.normalize Format.binary64 n e z) (nearest (n * 2 ^ e)) := by
  rw [UnpackedFloat.normalize]
  rcases lt_trichotomy n 0 with hn | rfl | hn
  · have hcast : (((-n).toNat : ℕ) : ℤ) = -n := Int.toNat_of_nonneg (by omega)
    have hstands := stands_round (e := e) .negative (m := (-n).toNat) (by omega)
    rw [Sign.apply, hcast, neg_neg] at hstands
    rw [Int.compare_eq_lt.2 hn]
    exact hstands
  · rw [Int.cast_zero, zero_mul, nearest_zero]
    exact stands_zero z
  · have hcast : ((n.toNat : ℕ) : ℤ) = n := Int.toNat_of_nonneg hn.le
    have hstands := stands_round (e := e) .positive (m := n.toNat) (by omega)
    rw [Sign.apply, hcast] at hstands
    rw [Int.compare_eq_gt.2 hn]
    exact hstands

end

/-! ### Sums, products and order -/

section
variable {u v : UnpackedFloat} {p q : ℚ}

/-- **The product of two doubles** is the grid point nearest to their product. -/
theorem Stands.mul (hu : Stands u p) (hv : Stands v q) :
    Stands (UnpackedFloat.mul Format.binary64 u v) (nearest (p * q)) := by
  cases u with
  | infinity s => cases hu.worth_eq
  | notANumber => cases hu.worth_eq
  | zero s =>
    rw [hu.eq_zero, zero_mul, nearest_zero]
    cases v with
    | infinity t => cases hv.worth_eq
    | notANumber => cases hv.worth_eq
    | zero t => exact stands_zero _
    | finite t n f hn => exact stands_zero _
  | finite s m e hm =>
    cases v with
    | infinity t => cases hv.worth_eq
    | notANumber => cases hv.worth_eq
    | zero t =>
      rw [hv.eq_zero, mul_zero, nearest_zero]
      exact stands_zero _
    | finite t n f hn =>
      obtain ⟨-, -, hm52⟩ := hu.canonical
      obtain ⟨-, -, hn52⟩ := hv.canonical
      -- The product has enough bits, or both factors lie on the finest grid.
      have hexponent : e + f ≤ gridExponent ((m * n : ℕ) * 2 ^ (e + f)) := by
        by_cases hlong : 2 ^ 52 ≤ m * n
        · refine le_gridExponent ?_
          rw [abs_of_nonneg (by positivity)]
          gcongr
          exact_mod_cast hlong
        · have hm' : ¬2 ^ 52 ≤ m := fun h => hlong (h.trans (Nat.le_mul_of_pos_right m hn))
          have hn' : ¬2 ^ 52 ≤ n := fun h => hlong (h.trans (Nat.le_mul_of_pos_left n hm))
          have hgrid : -1074 ≤ gridExponent ((m * n : ℕ) * 2 ^ (e + f)) := le_max_right ..
          omega
      have hstands := stands_roundWithAccuracy (s * t) (Nat.mul_pos hm hn) hexponent
      have hvalue : (((s * t).apply (m * n : ℕ) : ℤ) : ℚ) * 2 ^ (e + f) = p * q := by
        rw [apply_mul, hu.eq_finite, hv.eq_finite, zpow_add₀ (by norm_num)]
        push_cast
        ring
      rw [hvalue] at hstands
      exact hstands

/-- **The sum of two doubles** is the grid point nearest to their sum. -/
theorem Stands.add (hu : Stands u p) (hv : Stands v q) :
    Stands (UnpackedFloat.add Format.binary64 u v) (nearest (p + q)) := by
  cases u with
  | infinity s => cases hu.worth_eq
  | notANumber => cases hu.worth_eq
  | zero s =>
    rw [hu.eq_zero, zero_add, nearest_of_onGrid hv.onGrid]
    cases v with
    | infinity t => cases hv.worth_eq
    | notANumber => cases hv.worth_eq
    | zero t =>
      rw [hv.eq_zero, UnpackedFloat.add]
      split_ifs
      · exact stands_zero _
      · exact stands_zero _
    | finite t n f hn => exact hv
  | finite s m e hm =>
    cases v with
    | infinity t => cases hv.worth_eq
    | notANumber => cases hv.worth_eq
    | zero t =>
      rw [hv.eq_zero, add_zero, nearest_of_onGrid hu.onGrid]
      exact hu
    | finite t n f hn =>
      have hshift (r : Sign) (k : ℕ) (g : ℤ) (hg : min e f ≤ g) :
          ((r.apply (k <<< (g - min e f).toNat : ℕ) : ℤ) : ℚ) * 2 ^ (min e f) =
            r.apply k * 2 ^ g := by
        rw [← apply_shiftLeft r k (g - min e f).toNat g]
        congr 2
        omega
      have hstands := stands_normalize (s.apply (m <<< (e - min e f).toNat : ℕ) +
        t.apply (n <<< (f - min e f).toNat : ℕ)) (min e f) .positive
      rw [Int.cast_add, add_mul, hshift s m e (min_le_left ..), hshift t n f (min_le_right ..),
        ← hu.eq_finite, ← hv.eq_finite] at hstands
      exact hstands

/-- Among positive canonical doubles the exponent decides first, and the mantissa then. -/
theorem then_compare_eq_lt_iff {m n : ℕ} {e f : ℤ} (hm : m < 2 ^ 53) (he : -1074 ≤ e)
    (hn : n < 2 ^ 53) (hf : -1074 ≤ f) (hm' : 2 ^ 52 ≤ m ∨ e = -1074)
    (hn' : 2 ^ 52 ≤ n ∨ f = -1074) :
    (compare e f).then (compare m n) = .lt ↔ (m : ℚ) * 2 ^ e < n * 2 ^ f := by
  have hsmaller {m n : ℕ} {e f : ℤ} (hm : m < 2 ^ 53) (hn : 2 ^ 52 ≤ n) (hef : e < f) :
      (m : ℚ) * 2 ^ e < n * 2 ^ f := by
    have hm53 : (m : ℚ) < 2 ^ 53 := by exact_mod_cast hm
    have hn52 : (2 : ℚ) ^ 52 ≤ n := by exact_mod_cast hn
    calc (m : ℚ) * 2 ^ e < 2 ^ 53 * 2 ^ e := by gcongr
      _ = 2 ^ 52 * 2 ^ (e + 1) := by
          rw [zpow_add_one₀ (by norm_num)]
          ring
      _ ≤ n * 2 ^ f := by
          gcongr
          · norm_num
          · omega
  rw [Ordering.then_eq_lt, Int.compare_eq_lt, Int.compare_eq_eq, Nat.compare_eq_lt]
  rcases lt_trichotomy e f with hlt | rfl | hgt
  · exact iff_of_true (Or.inl hlt) (hsmaller hm (by omega) hlt)
  · have hpos : (0 : ℚ) < 2 ^ e := by positivity
    rw [mul_lt_mul_iff_left₀ hpos, Nat.cast_lt]
    simp
  · refine iff_of_false (by omega) (not_lt.2 ?_)
    exact (hsmaller hn (by omega) hgt).le

theorem Stands.eq_positive {m : ℕ} {e : ℤ} {hm : 0 < m} (h : Stands (.finite .positive m e hm) p) :
    p = m * 2 ^ e ∧ 0 < p := by
  have hp : p = m * 2 ^ e := h.eq_finite
  exact ⟨hp, by rw [hp]; positivity⟩

theorem Stands.eq_negative {m : ℕ} {e : ℤ} {hm : 0 < m} (h : Stands (.finite .negative m e hm) p) :
    p = -(m * 2 ^ e) ∧ p < 0 := by
  have hp : p = -(m * 2 ^ e) := by
    rw [h.eq_finite, Sign.apply]
    push_cast
    ring
  exact ⟨hp, by rw [hp, neg_lt_zero]; positivity⟩

/-- **The order of doubles** is that of their numbers. -/
theorem Stands.lt_iff (hu : Stands u p) (hv : Stands v q) :
    UnpackedFloat.lt u v = true ↔ p < q := by
  rw [UnpackedFloat.lt, beq_iff_eq]
  cases u with
  | infinity s => cases hu.worth_eq
  | notANumber => cases hu.worth_eq
  | zero s =>
    rw [hu.eq_zero]
    cases v with
    | infinity t => cases hv.worth_eq
    | notANumber => cases hv.worth_eq
    | zero t => exact iff_of_false nofun (by rw [hv.eq_zero]; exact lt_irrefl 0)
    | finite t n f hn =>
      cases t with
      | negative => exact iff_of_false nofun hv.eq_negative.2.le.not_gt
      | positive => exact iff_of_true rfl hv.eq_positive.2
  | finite s m e hm =>
    cases v with
    | infinity t => cases hv.worth_eq
    | notANumber => cases hv.worth_eq
    | zero t =>
      rw [hv.eq_zero]
      cases s with
      | negative => exact iff_of_true rfl hu.eq_negative.2
      | positive => exact iff_of_false nofun hu.eq_positive.2.le.not_gt
    | finite t n f hn =>
      obtain ⟨hm53, he, hm52⟩ := hu.canonical
      obtain ⟨hn53, hf, hn52⟩ := hv.canonical
      cases s with
      | negative =>
        cases t with
        | negative =>
          rw [hu.eq_negative.1, hv.eq_negative.1, neg_lt_neg_iff,
            ← then_compare_eq_lt_iff hn53 hf hm53 he hn52 hm52, ← Int.compare_swap,
            ← Nat.compare_swap m n, ← Ordering.swap_then]
          exact Option.some_inj
        | positive => exact iff_of_true rfl (hu.eq_negative.2.trans hv.eq_positive.2)
      | positive =>
        cases t with
        | negative => exact iff_of_false nofun (hv.eq_negative.2.trans hu.eq_positive.2).le.not_gt
        | positive =>
          rw [hu.eq_positive.1, hv.eq_positive.1,
            ← then_compare_eq_lt_iff hm53 he hn53 hf hm52 hn52]
          exact Option.some_inj

theorem then_compare_swap (m n : ℕ) (e f : ℤ) :
    (compare f e).then (compare n m) = ((compare e f).then (compare m n)).swap := by
  rw [Ordering.swap_then, Int.compare_swap, Nat.compare_swap]

theorem Stands.le_iff (hu : Stands u p) (hv : Stands v q) :
    UnpackedFloat.le u v = true ↔ p ≤ q := by
  -- Numbers can be compared, and seen from the other side they compare the other way.
  have hcompare : UnpackedFloat.le u v = true ↔ ¬UnpackedFloat.lt v u = true := by
    rw [UnpackedFloat.le, UnpackedFloat.lt, beq_iff_eq]
    cases u with
    | infinity s => cases hu.worth_eq
    | notANumber => cases hu.worth_eq
    | zero s =>
      cases v with
      | infinity t => cases hv.worth_eq
      | notANumber => cases hv.worth_eq
      | zero t => exact iff_of_true rfl nofun
      | finite t n f hn =>
        cases t with
        | negative => exact iff_of_false nofun fun h => h rfl
        | positive => exact iff_of_true rfl nofun
    | finite s m e hm =>
      cases v with
      | infinity t => cases hv.worth_eq
      | notANumber => cases hv.worth_eq
      | zero t =>
        cases s with
        | negative => exact iff_of_true rfl nofun
        | positive => exact iff_of_false nofun fun h => h rfl
      | finite t n f hn =>
        have hswap := then_compare_swap m n e f
        cases s <;> cases t
        case negative.positive => exact iff_of_true rfl nofun
        case positive.negative => exact iff_of_false nofun fun h => h rfl
        all_goals
          simp only [UnpackedFloat.compare, hswap]
          cases (compare e f).then (compare m n) <;> simp
  rw [hcompare, hv.lt_iff hu, not_lt]

/-- Every number lies between the infinities. -/
theorem Stands.lt_infinity (hu : Stands u p) :
    UnpackedFloat.lt (.infinity .negative) u = true ∧
      UnpackedFloat.lt u (.infinity .positive) = true := by
  cases u with
  | infinity s => cases hu.worth_eq
  | notANumber => cases hu.worth_eq
  | zero s => exact ⟨rfl, rfl⟩
  | finite s m e hm =>
    cases s
    · exact ⟨rfl, rfl⟩
    · exact ⟨rfl, rfl⟩

end

end LabelPress.Binary64
