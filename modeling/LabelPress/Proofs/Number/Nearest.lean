import LabelPress.Proofs.Number.Doubles

/-! # The nearest double

Rounding to the grid gives a grid point, and no grid point is nearer. So rounding keeps the order of
numbers, and the double that a number is made into stands for the grid point nearest to it as long
as this is one of the doubles.

* `abs_sub_nearest_le`, `onGrid_nearest`: nothing is nearer, and it is on the grid.
* `nearest_mono`: rounding keeps the order.
* `ofFloat?_toFloat`: the double of a number.
* `IsNearest`: a double and a number that it is nearest to.
* `nearest_div_lt_one`: a part of a whole is not rounded up to the whole.
* `ofFloat?_ofNat`: whole numbers are doubles. -/

namespace LabelPress.Binary64

open Float.Model Float.Model.UnpackedFloat

/-! ### Nothing is nearer -/

theorem abs_sub_roundHalfEven_le_half (t : ℚ) : |t - roundHalfEven t| ≤ 1 / 2 := by
  have hlow := Int.floor_le t
  have hhigh := Int.lt_floor_add_one t
  change |t - ((if t - ⌊t⌋ < 1 / 2 then ⌊t⌋ else if 1 / 2 < t - ⌊t⌋ then ⌊t⌋ + 1
    else if ⌊t⌋ % 2 = 0 then ⌊t⌋ else ⌊t⌋ + 1 : ℤ) : ℚ)| ≤ 1 / 2
  rw [abs_le]
  split_ifs <;> push_cast <;> constructor <;> linarith

theorem abs_sub_roundHalfEven_le (t : ℚ) (k : ℤ) : |t - roundHalfEven t| ≤ |t - k| := by
  by_cases hk : k = roundHalfEven t
  · rw [hk]
  · -- Another whole number is at least one away from the rounded one.
    have hone : (1 : ℚ) ≤ |(k : ℚ) - roundHalfEven t| := by
      exact_mod_cast Int.one_le_abs (sub_ne_zero.2 hk)
    have hhalf := abs_sub_roundHalfEven_le_half t
    have htriangle := abs_sub_le (k : ℚ) t (roundHalfEven t)
    rw [abs_sub_comm (k : ℚ) t] at htriangle
    linarith

section
variable {p q g : ℚ}

/-- No whole number of steps is nearer. -/
theorem abs_sub_nearest_le_steps (hq : q ≠ 0) (k : ℤ) :
    |q - nearest q| ≤ |q - k * 2 ^ gridExponent q| := by
  have hpos : (0 : ℚ) < 2 ^ gridExponent q := by positivity
  have hscale : ∀ n : ℤ, |q - n * 2 ^ gridExponent q| =
      |q / 2 ^ gridExponent q - n| * 2 ^ gridExponent q := by
    intro n
    have hq' : q / 2 ^ gridExponent q * 2 ^ gridExponent q = q := div_mul_cancel₀ q hpos.ne'
    rw [← abs_of_pos hpos, ← abs_mul, abs_of_pos hpos, sub_mul, hq']
  rw [nearest_eq hq, hscale, hscale]
  gcongr ?_ * _
  exact abs_sub_roundHalfEven_le _ k

theorem abs_sub_nearest_le_of_pos (hq : 0 < q) (hg : OnGrid g) : |q - nearest q| ≤ |q - g| := by
  obtain ⟨m, E, hm, hE, rfl⟩ := hg
  by_cases hle : gridExponent q ≤ E
  · rw [mul_zpow_eq_steps m hle]
    exact abs_sub_nearest_le_steps hq.ne' _
  · -- The point lies below the binade of `q`, whose first point lies between the two.
    have hfar := le_abs_of_gridExponent hq.ne' (by omega)
    rw [abs_of_pos hq] at hfar
    have hnear := (le_abs_self _).trans_lt (abs_mul_zpow_lt hm (not_le.1 hle))
    calc |q - nearest q| ≤ |q - (2 ^ 52 : ℤ) * 2 ^ gridExponent q| :=
          abs_sub_nearest_le_steps hq.ne' (2 ^ 52)
      _ = q - 2 ^ 52 * 2 ^ gridExponent q := by
          rw [Int.cast_pow, Int.cast_ofNat, abs_of_nonneg (sub_nonneg.2 hfar)]
      _ ≤ q - m * 2 ^ E := by linarith
      _ ≤ |q - m * 2 ^ E| := le_abs_self _

/-- **No grid point is nearer.** -/
theorem abs_sub_nearest_le (hg : OnGrid g) : |q - nearest q| ≤ |q - g| := by
  rcases lt_trichotomy q 0 with hneg | rfl | hpos
  · have h := abs_sub_nearest_le_of_pos (neg_pos.2 hneg) hg.neg
    rwa [nearest_neg, neg_sub_neg, neg_sub_neg, abs_sub_comm, abs_sub_comm g] at h
  · rw [nearest_zero, sub_zero, abs_zero]
    exact abs_nonneg _
  · exact abs_sub_nearest_le_of_pos hpos hg

theorem onGrid_nearest_of_pos (hq : 0 < q) : OnGrid (nearest q) := by
  have hgrid : -1074 ≤ gridExponent q := le_max_right ..
  have hpos : (0 : ℚ) < 2 ^ gridExponent q := by positivity
  obtain ⟨hle, -⟩ := roundHalfEven_steps hq
  have hnonneg : 0 ≤ roundHalfEven (q / 2 ^ gridExponent q) := by
    refine le_roundHalfEven ?_
    rw [Int.cast_zero]
    positivity
  rw [nearest_eq hq.ne']
  by_cases hcarry : roundHalfEven (q / 2 ^ gridExponent q) = 2 ^ 53
  · refine ⟨2 ^ 52, gridExponent q + 1, by norm_num, by omega, ?_⟩
    rw [hcarry, zpow_add_one₀ (by norm_num)]
    push_cast
    ring
  · exact ⟨_, gridExponent q, by rw [abs_of_nonneg hnonneg]; omega, hgrid, rfl⟩

theorem onGrid_nearest (q : ℚ) : OnGrid (nearest q) := by
  rcases lt_trichotomy q 0 with hneg | rfl | hpos
  · have h := (onGrid_nearest_of_pos (neg_pos.2 hneg)).neg
    rwa [nearest_neg, neg_neg] at h
  · exact ⟨0, 0, by norm_num, by norm_num, by simp⟩
  · exact onGrid_nearest_of_pos hpos

/-- **Rounding keeps the order.** -/
theorem nearest_mono (h : p ≤ q) : nearest p ≤ nearest q := by
  by_contra hlt
  have hlt := not_le.1 hlt
  -- Each is nearer to its own point, so the two lie on the wrong sides of the middle.
  have hp := abs_sub_nearest_le (q := p) (onGrid_nearest q)
  have hq := abs_sub_nearest_le (q := q) (onGrid_nearest p)
  have hp' : nearest p + nearest q ≤ 2 * p := by
    rcases abs_cases (p - nearest p) with ⟨h1, h2⟩ | ⟨h1, h2⟩ <;>
      rcases abs_cases (p - nearest q) with ⟨h3, h4⟩ | ⟨h3, h4⟩ <;> linarith
  have hq' : 2 * q ≤ nearest p + nearest q := by
    rcases abs_cases (q - nearest p) with ⟨h1, h2⟩ | ⟨h1, h2⟩ <;>
      rcases abs_cases (q - nearest q) with ⟨h3, h4⟩ | ⟨h3, h4⟩ <;> linarith
  have hsame : p = q := by linarith
  rw [hsame] at hlt
  exact lt_irrefl _ hlt

end

theorem nearest_nonneg {q : ℚ} (hq : 0 ≤ q) : 0 ≤ nearest q := by
  rw [← nearest_zero]
  exact nearest_mono hq

/-! ### The double of a number -/

theorem ofFloat?_ofBits {w : UInt64} {q : ℚ}
    (h : Stands (UnpackedFloat.unpack Format.binary64 w.toBitVec) q) (hq : |q| < 2 ^ (1024 : ℤ)) :
    ofFloat? (Float.ofBits w) = some q := by
  rw [ofFloat?_eq_worth]
  exact (h.pack hq).worth_eq

/-- The double with an exponent and a fraction. -/
theorem ofFloat?_ofBits_fields {E M : ℕ} (hE : E < 2047) (hM : M < 2 ^ 52) {q : ℚ}
    (hq : q = if E = 0 then (M : ℚ) * 2 ^ (-1074 : ℤ)
      else ((M + 2 ^ 52 : ℕ) : ℚ) * 2 ^ ((E : ℤ) - 1075))
    (hfinite : |q| < 2 ^ (1024 : ℤ)) :
    ofFloat? (Float.ofBits (UInt64.ofNat (E * 2 ^ 52 + M))) = some q := by
  have hleading : leadingBit = 2 ^ 52 := by decide
  obtain ⟨w, hw⟩ : ∃ w : BitVec Format.binary64.numBits,
      w = (UInt64.ofNat (E * 2 ^ 52 + M)).toBitVec := ⟨_, rfl⟩
  have hword : (UInt64.ofNat (E * 2 ^ 52 + M)).toNat = E * 2 ^ 52 + M := by
    rw [UInt64.toNat_ofNat', Nat.mod_eq_of_lt (by omega)]
  have hbits : w.toNat = E * 2 ^ 52 + M := by
    rw [hw]
    exact hword
  have hexponent : (unpackExponent w).toNat = E := by
    rw [toNat_unpackExponent, hbits, Nat.shiftRight_eq_div_pow]
    omega
  have hmantissa : (unpackMantissa w).toNat = M := by
    rw [toNat_unpackMantissa, hbits, hleading]
    omega
  have hsign : ∀ m : ℕ, (Sign.ofBitVec (unpackSign w)).apply m = m := by
    intro m
    rw [apply_ofBitVec, toNat_unpackSign, hbits, Nat.shiftRight_eq_div_pow, if_neg (by omega)]
  refine ofFloat?_ofBits ?_ hfinite
  rw [← hw, hq]
  by_cases hzero : E = 0
  · have hstands := stands_unpack_subnormal w (by rw [hexponent, hzero])
    rw [hsign, hmantissa, Int.cast_natCast] at hstands
    rw [if_pos hzero]
    exact hstands
  · have hstands := stands_unpack_normal w (by rwa [hexponent]) (by omega)
    rw [hsign, hmantissa, hexponent, hleading, Int.cast_natCast] at hstands
    rw [if_neg hzero]
    exact hstands

theorem toFloat_of_pos {q : ℚ} {m : ℕ} (hq : 0 < q)
    (hm : roundHalfEven (q / 2 ^ gridExponent q) = m) :
    toFloat q = Float.ofBits (UInt64.ofNat (min
      (if m < 2 ^ 52 then m else (gridExponent q + 1075).toNat * 2 ^ 52 + (m - 2 ^ 52))
      (2047 * 2 ^ 52))) := by
  have hleading : leadingBit = 2 ^ 52 := by decide
  have hinfinity : 0x7ff <<< 52 = 2047 * 2 ^ 52 := by decide
  rw [toFloat, if_neg hq.ne']
  simp only [hm, hleading, hinfinity, Int.natAbs_natCast, if_neg hq.not_gt, Nat.shiftLeft_eq,
    UInt64.zero_or]

/-- The exponent of a mantissa of so many bits fits. -/
theorem add_lt_of_mul_zpow_lt {m k : ℕ} {e : ℤ} (hm : 2 ^ k ≤ m)
    (hlt : (m : ℚ) * 2 ^ e < 2 ^ (1024 : ℤ)) : e + k < 1024 := by
  have hm' : (2 : ℚ) ^ k ≤ m := by exact_mod_cast hm
  have hpow : (2 : ℚ) ^ (e + k) < 2 ^ (1024 : ℤ) := by
    calc (2 : ℚ) ^ (e + k) = 2 ^ k * 2 ^ e := by
          rw [zpow_add₀ (by norm_num), zpow_natCast, mul_comm]
      _ ≤ m * 2 ^ e := by gcongr
      _ < 2 ^ (1024 : ℤ) := hlt
  exact (zpow_lt_zpow_iff_right₀ (by norm_num)).1 hpow

/-- **The double of a number** stands for the grid point nearest to it, if that is a double. -/
theorem ofFloat?_toFloat {q : ℚ} (hq : 0 ≤ q) (hfinite : nearest q < 2 ^ (1024 : ℤ)) :
    ofFloat? (toFloat q) = some (nearest q) := by
  rcases hq.eq_or_lt with rfl | hpos
  · rw [nearest_zero, toFloat, if_pos rfl, ofFloat?_eq_worth]
    rfl
  have hgrid : -1074 ≤ gridExponent q := le_max_right ..
  have hnonneg : 0 ≤ roundHalfEven (q / 2 ^ gridExponent q) := by
    refine le_roundHalfEven ?_
    rw [Int.cast_zero]
    positivity
  obtain ⟨m, hm⟩ := Int.eq_ofNat_of_zero_le hnonneg
  obtain ⟨hle, hge⟩ := roundHalfEven_steps hpos
  have hvalue := nearest_eq hpos.ne'
  rw [toFloat_of_pos hpos hm]
  rw [hm] at hle hge hvalue
  rw [Int.cast_natCast] at hvalue
  have habs : |nearest q| < 2 ^ (1024 : ℤ) := (abs_of_nonneg (nearest_nonneg hq)).trans_lt hfinite
  rw [hvalue] at hfinite
  by_cases hshort : m < 2 ^ 52
  · -- The finest grid.
    have he : gridExponent q = -1074 := hge.resolve_left (by omega)
    rw [he] at hvalue
    rw [if_pos hshort, min_eq_left (by omega)]
    have hfields := ofFloat?_ofBits_fields (by omega : 0 < 2047) hshort hvalue habs
    rwa [zero_mul, zero_add] at hfields
  rw [if_neg hshort]
  have hexponent : ((gridExponent q + 1075).toNat : ℤ) = gridExponent q + 1075 :=
    Int.toNat_of_nonneg (by omega)
  by_cases hcarry : m = 2 ^ 53
  · -- The mantissa was rounded up to the next power of two.
    have hfits := add_lt_of_mul_zpow_lt hcarry.ge hfinite
    have hmagnitude : (gridExponent q + 1075).toNat * 2 ^ 52 + (m - 2 ^ 52) =
        ((gridExponent q + 1075).toNat + 1) * 2 ^ 52 + 0 := by omega
    rw [hmagnitude, min_eq_left (by omega)]
    refine ofFloat?_ofBits_fields (by omega) (by omega) ?_ habs
    have hnext : (((gridExponent q + 1075).toNat + 1 : ℕ) : ℤ) - 1075 = gridExponent q + 1 := by
      omega
    rw [hvalue, if_neg (by omega), hcarry, hnext, zpow_add_one₀ (by norm_num)]
    push_cast
    ring
  · have hfits := add_lt_of_mul_zpow_lt (not_lt.1 hshort) hfinite
    rw [min_eq_left (by omega)]
    refine ofFloat?_ofBits_fields (by omega) (by omega) ?_ habs
    rw [hvalue, if_neg (by omega), Nat.sub_add_cancel (not_lt.1 hshort), hexponent,
      add_sub_cancel_right]

/-- **A double nearest to a number**: that of its grid point, and no double is nearer. -/
structure IsNearest (x : Float) (q : ℚ) : Prop where
  ofFloat?_eq : ofFloat? x = some (nearest q)
  abs_sub_le : ∀ (y : Float) (w : ℚ), ofFloat? y = some w → |q - nearest q| ≤ |q - w|

theorem isNearest_toFloat {q : ℚ} (hq : 0 ≤ q) (hfinite : nearest q < 2 ^ (1024 : ℤ)) :
    IsNearest (toFloat q) q :=
  ⟨ofFloat?_toFloat hq hfinite, fun _ _ hy => abs_sub_nearest_le (stands_of_ofFloat? hy).onGrid⟩

/-! ### Parts of a whole -/

theorem nearest_le_one {q : ℚ} (hq : q ≤ 1) : nearest q ≤ 1 :=
  nearest_le_of_onGrid ⟨1, 0, by norm_num, by norm_num, by norm_num⟩ hq

/-- **A part of a whole is not rounded up to the whole**, if the whole has no more than 53 bits. -/
theorem nearest_div_lt_one {m n : ℕ} (hlt : m < n) (hn : n ≤ 2 ^ 53) :
    nearest ((m : ℚ) / n) < 1 := by
  -- The last grid point before one is at least as large as the largest such part.
  have hgrid : OnGrid (((2 ^ 53 - 1 : ℤ) : ℚ) * 2 ^ (-53 : ℤ)) :=
    ⟨2 ^ 53 - 1, -53, by norm_num, by norm_num, rfl⟩
  have hpos : (0 : ℚ) < n := by exact_mod_cast (Nat.zero_le m).trans_lt hlt
  have hm : (m : ℚ) + 1 ≤ n := by exact_mod_cast hlt
  have hn' : (n : ℚ) / 2 ^ 53 ≤ 1 := by
    rw [div_le_one (by positivity)]
    exact_mod_cast hn
  have hpart : (m : ℚ) / n ≤ ((2 ^ 53 - 1 : ℤ) : ℚ) * 2 ^ (-53 : ℤ) := by
    rw [div_le_iff₀ hpos]
    calc (m : ℚ) ≤ n - n / 2 ^ 53 := by linarith
      _ = ((2 ^ 53 - 1 : ℤ) : ℚ) * 2 ^ (-53 : ℤ) * n := by
          push_cast
          ring
  refine (nearest_le_of_onGrid hgrid hpart).trans_lt ?_
  norm_num

/-! ### Whole numbers -/

theorem toFloat_one : toFloat 1 = 1 := by
  have hgrid : gridExponent 1 = -52 := by
    have hlog : floorLog2 1 = 0 := floorLog2_eq (by norm_num) (by norm_num)
    rw [gridExponent, hlog]
    rfl
  have hsteps : roundHalfEven (1 / 2 ^ gridExponent 1) = (2 ^ 52 : ℕ) := by
    have hscaled : (1 : ℚ) / 2 ^ (-52 : ℤ) = ((2 ^ 52 : ℤ) : ℚ) := by norm_num
    rw [hgrid, hscaled, roundHalfEven_intCast]
    norm_num
  rw [toFloat_of_pos one_pos hsteps, hgrid]
  decide

theorem ofFloat?_toUInt64 (w : UInt64) : ofFloat? w.toFloat = some (nearest w.toNat) := by
  have hstands := stands_normalize (w.toNat : ℤ) 0 .positive
  rw [zpow_zero, mul_one, Int.cast_natCast] at hstands
  have hle : nearest (w.toNat : ℚ) ≤ 2 ^ (64 : ℤ) := by
    refine nearest_le_of_onGrid ⟨1, 64, by norm_num, by norm_num, by norm_num⟩ ?_
    exact_mod_cast w.toNat_lt.le
  have hfinite : |nearest (w.toNat : ℚ)| < 2 ^ (1024 : ℤ) := by
    rw [abs_of_nonneg (nearest_nonneg (Nat.cast_nonneg _))]
    exact hle.trans_lt (zpow_lt_zpow_right₀ (by norm_num) (by norm_num))
  rw [ofFloat?_eq_worth]
  exact (hstands.pack hfinite).worth_eq

/-- **A whole number of no more than 53 bits is a double.** -/
theorem ofFloat?_ofNat {n : ℕ} (hn : n < 2 ^ 53) : ofFloat? (Float.ofNat n) = some (n : ℚ) := by
  have hexact : nearest (n : ℚ) = n :=
    nearest_of_onGrid ⟨n, 0, by rw [Nat.abs_cast]; exact_mod_cast hn, by norm_num, by simp⟩
  have hlt : |nearest (n : ℚ)| < 2 ^ (1024 : ℤ) := by
    rw [hexact, Nat.abs_cast]
    calc (n : ℚ) ≤ 2 ^ (53 : ℤ) := by exact_mod_cast hn.le
      _ < 2 ^ (1024 : ℤ) := zpow_lt_zpow_right₀ (by norm_num) (by norm_num)
  have hword : n.toUInt64.toNat = n := Nat.mod_eq_of_lt (hn.trans (by norm_num))
  have hfactor := ofFloat?_toUInt64 n.toUInt64
  rw [hword, hexact] at hfactor
  -- The number is read as a decimal without a power of ten.
  have hten : ofFloat? Float.exactlyRepresentablePowersOfTen[0] = some 1 := by
    refine ofFloat?_ofBits_fields (by omega : 1023 < 2047) (by omega : 0 < 2 ^ 52) ?_ ?_
    · norm_num
    · rw [abs_one]
      exact one_lt_zpow₀ (by norm_num) (by norm_num)
  have hproduct := ofFloat?_mul hfactor hten (by rwa [mul_one])
  rw [mul_one, hexact] at hproduct
  have hof : Float.ofNat n = n.toUInt64.toFloat * Float.exactlyRepresentablePowersOfTen[0] := by
    change Float.ofScientific n false 0 = _
    rw [Float.ofScientific, dif_pos ⟨hn, by omega⟩]
    rfl
  rw [hof, hproduct]

theorem ofFloat?_literal (n : ℕ) [n.AtLeastTwo] (hn : n < 2 ^ 53) :
    ofFloat? (OfNat.ofNat n) = some (OfNat.ofNat n) :=
  ofFloat?_ofNat hn

theorem ofFloat?_zero : ofFloat? 0 = some 0 := by
  exact_mod_cast ofFloat?_ofNat (n := 0) (by norm_num)

theorem ofFloat?_one : ofFloat? 1 = some 1 := by
  exact_mod_cast ofFloat?_ofNat (n := 1) (by norm_num)

end LabelPress.Binary64
