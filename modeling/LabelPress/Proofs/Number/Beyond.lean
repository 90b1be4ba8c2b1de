import LabelPress.Proofs.Number.Nearest

/-! # Beyond all doubles

A result that exceeds all doubles is an infinity. Infinities stay what they are when numbers are
added to them or multiplied with them, and an infinity has no integer part.

* `unpack_pack_of_beyond`: packing a number that exceeds all doubles.
* `unpack_mul_of_beyond`: a product of numbers that exceeds all doubles.
* `unpack_mul_infinity`, `unpack_add_infinity`: infinities in products and sums.
* `zero_le_cases`: what is not negative is a number or an infinity.
* `ofFloat?_of_nonneg_of_le`: what is moreover not above a number is a number. -/

namespace LabelPress.Binary64

open Float.Model Float.Model.UnpackedFloat

theorem unpack_pack_infinity (s : Sign) :
    (Float.Model.pack (.infinity s)).unpack = .infinity s := by
  cases s
  · rfl
  · rfl

/-- The exponent of a number that exceeds all doubles does not fit. -/
theorem Stands.lt_exponent {s : Sign} {m : ℕ} {e : ℤ} {hm : 0 < m} {q : ℚ}
    (h : Stands (.finite s m e hm) q) (hq : 2 ^ (1024 : ℤ) ≤ |q|) : 971 < e := by
  obtain ⟨hm53, -, -⟩ := h.canonical
  by_contra hsmall
  have hm' : (m : ℚ) < 2 ^ 53 := by exact_mod_cast hm53
  have habs : |q| = m * 2 ^ e := by
    rw [h.eq_finite, abs_mul, abs_of_pos (a := (2 : ℚ) ^ e) (by positivity), ← Int.cast_abs,
      abs_apply, Int.cast_natCast]
  have hlt : (m : ℚ) * 2 ^ e < 2 ^ (1024 : ℤ) := by
    calc (m : ℚ) * 2 ^ e < 2 ^ 53 * 2 ^ e := by gcongr
      _ ≤ 2 ^ 53 * 2 ^ (971 : ℤ) := by
          gcongr
          · norm_num
          · omega
      _ = 2 ^ (1024 : ℤ) := by
          rw [← zpow_natCast, ← zpow_add₀ (by norm_num)]
          norm_num only
  rw [habs] at hq
  exact absurd hq hlt.not_ge

/-- **Packing what exceeds all doubles** gives an infinity. -/
theorem unpack_pack_of_beyond {u : UnpackedFloat} {q : ℚ} (h : Stands u q)
    (hq : 2 ^ (1024 : ℤ) ≤ q) : (Float.Model.pack u).unpack = .infinity .positive := by
  have hpos : (0 : ℚ) < q := lt_of_lt_of_le (by positivity) hq
  cases u with
  | infinity s => cases h.worth_eq
  | notANumber => cases h.worth_eq
  | zero s => exact absurd h.eq_zero hpos.ne'
  | finite s m e hm =>
    have hlarge := h.lt_exponent (hq.trans (le_abs_self q))
    have hexponent : (e + Format.binary64.exponentBias +
        Format.binary64.mantissaBitsWithoutImplicit).toNat = (e + 1075).toNat := by
      have hbias : (Format.binary64.exponentBias : ℤ) = 1023 := by decide
      have hbits : (Format.binary64.mantissaBitsWithoutImplicit : ℤ) = 52 := rfl
      omega
    have hbeyond : 2 ^ Format.binary64.exponentBits ≤ (e + 1075).toNat + 1 := by
      change 2 ^ 11 ≤ (e + 1075).toNat + 1
      omega
    cases s with
    | negative => exact absurd h.eq_negative.2 hpos.not_gt
    | positive =>
      have hpack : Float.Model.pack (.finite .positive m e hm) =
          Float.Model.pack (.infinity .positive) := by
        simp only [Float.Model.pack, UnpackedFloat.pack, hexponent, if_pos hbeyond]
      rw [hpack]
      exact unpack_pack_infinity .positive

section
variable {x y : Float} {p q : ℚ}

/-- **A product that exceeds all doubles** is an infinity. -/
theorem unpack_mul_of_beyond (hx : ofFloat? x = some p) (hy : ofFloat? y = some q)
    (hproduct : 2 ^ (1024 : ℤ) ≤ nearest (p * q)) :
    (x * y).toModel.unpack = .infinity .positive :=
  unpack_pack_of_beyond ((stands_of_ofFloat? hx).mul (stands_of_ofFloat? hy)) hproduct

/-- An infinity stays one when it is multiplied with a positive number. -/
theorem unpack_mul_infinity {s : Sign} (hx : x.toModel.unpack = .infinity s)
    (hy : ofFloat? y = some q) (hq : 0 < q) : (x * y).toModel.unpack = .infinity s := by
  have hstands := stands_of_ofFloat? hy
  change (Float.Model.pack (UnpackedFloat.mul Format.binary64 x.toModel.unpack
    y.toModel.unpack)).unpack = .infinity s
  rw [hx]
  cases hu : y.toModel.unpack with
  | infinity t =>
    rw [hu] at hstands
    cases hstands.worth_eq
  | notANumber =>
    rw [hu] at hstands
    cases hstands.worth_eq
  | zero t =>
    rw [hu] at hstands
    exact absurd hstands.eq_zero hq.ne'
  | finite t n f hn =>
    rw [hu] at hstands
    cases t with
    | negative => exact absurd hstands.eq_negative.2 hq.not_gt
    | positive =>
      cases s
      · exact unpack_pack_infinity .negative
      · exact unpack_pack_infinity .positive

/-- An infinity stays one when a number is added. -/
theorem unpack_add_infinity {s : Sign} (hx : x.toModel.unpack = .infinity s)
    (hy : ofFloat? y = some q) : (x + y).toModel.unpack = .infinity s := by
  have hstands := stands_of_ofFloat? hy
  change (Float.Model.pack (UnpackedFloat.add Format.binary64 x.toModel.unpack
    y.toModel.unpack)).unpack = .infinity s
  rw [hx]
  cases hu : y.toModel.unpack with
  | infinity t =>
    rw [hu] at hstands
    cases hstands.worth_eq
  | notANumber =>
    rw [hu] at hstands
    cases hstands.worth_eq
  | zero t => exact unpack_pack_infinity s
  | finite t n f hn => exact unpack_pack_infinity s

/-- **What is not negative** is a number or the infinity above all numbers. -/
theorem zero_le_cases (h : 0 ≤ x) :
    (∃ q, ofFloat? x = some q ∧ 0 ≤ q) ∨ x.toModel.unpack = .infinity .positive := by
  have hle : UnpackedFloat.le (0 : Float).toModel.unpack x.toModel.unpack = true := by
    change decide ((0 : Float).toModel ≤ x.toModel) = true at h
    rw [decide_eq_true_iff] at h
    exact h
  have hzero : (0 : Float).toModel.unpack = .zero .positive := rfl
  rw [hzero] at hle
  cases hu : x.toModel.unpack with
  | notANumber =>
    rw [hu] at hle
    cases hle
  | infinity s =>
    cases s with
    | negative =>
      rw [hu] at hle
      cases hle
    | positive => exact .inr rfl
  | zero s => exact .inl ⟨0, by rw [ofFloat?_eq_worth, hu]; rfl, le_rfl⟩
  | finite s m e hm =>
    obtain ⟨q, hq⟩ : ∃ q, ofFloat? x = some q := by
      rw [ofFloat?_eq_worth, hu]
      exact ⟨_, rfl⟩
    exact .inl ⟨q, hq, (le_iff_of_ofFloat? ofFloat?_zero hq).1 h⟩

/-- An infinity above all numbers is not below one. -/
theorem not_le_of_infinity (hx : x.toModel.unpack = .infinity .positive)
    (hy : ofFloat? y = some q) : ¬x ≤ y := by
  intro h
  have hstands := stands_of_ofFloat? hy
  have hle : UnpackedFloat.le x.toModel.unpack y.toModel.unpack = true := by
    change decide (x.toModel ≤ y.toModel) = true at h
    rw [decide_eq_true_iff] at h
    exact h
  rw [hx] at hle
  cases hu : y.toModel.unpack with
  | notANumber =>
    rw [hu] at hstands
    cases hstands.worth_eq
  | infinity t =>
    rw [hu] at hstands
    cases hstands.worth_eq
  | zero t =>
    rw [hu] at hle
    cases hle
  | finite t n f hn =>
    rw [hu] at hle
    cases hle

/-- **What is not negative and not above a number** is a number itself. -/
theorem ofFloat?_of_nonneg_of_le (h : 0 ≤ x) (hxy : x ≤ y) (hy : ofFloat? y = some q) :
    ∃ p, ofFloat? x = some p ∧ 0 ≤ p ∧ p ≤ q := by
  rcases zero_le_cases h with ⟨p, hp, hpos⟩ | hinfinity
  · exact ⟨p, hp, hpos, (le_iff_of_ofFloat? hp hy).1 hxy⟩
  · exact absurd hxy (not_le_of_infinity hinfinity hy)

end

end LabelPress.Binary64
