import LabelPress.Proofs.Number.Unpacked
import LabelPress.Number.Measure

/-! # Doubles

A double is an unpacked double in 64 bits: its fields are read and written without loss as long as
the exponent fits. So the sum and the product of two doubles stand for the grid points nearest to
their sum and product, unless those exceed all doubles, and the order of doubles is that of the
numbers they stand for.

* `stands_of_ofFloat?`, `Stands.pack`: the two directions between the bits and the unpacked form.
* `ofFloat?_add`, `ofFloat?_mul`: sums and products.
* `ofFloat?_of_between`: what lies between two numbers is a number. -/

namespace LabelPress.Binary64

open Float.Model Float.Model.UnpackedFloat

/-! ### The fields -/

section
variable (w : BitVec Format.binary64.numBits)

theorem toNat_unpackMantissa : (unpackMantissa w).toNat = w.toNat % leadingBit := by
  rw [unpackMantissa, BitVec.toNat_cast, BitVec.extractLsb_toNat]
  rfl

theorem toNat_unpackExponent : (unpackExponent w).toNat = (w.toNat >>> 52) % 2048 := by
  rw [unpackExponent, BitVec.toNat_cast, BitVec.extractLsb_toNat]
  rfl

theorem toNat_unpackSign : (unpackSign w).toNat = w.toNat >>> 63 := by
  rw [unpackSign, BitVec.toNat_cast, BitVec.extractLsb_toNat]
  change (w.toNat >>> 63) % 2 = w.toNat >>> 63
  have hw : w.toNat < 2 ^ 64 := w.isLt
  rw [Nat.shiftRight_eq_div_pow]
  omega

theorem apply_ofBitVec (b : BitVec 1) (m : ℕ) :
    (Sign.ofBitVec b).apply m = if b.toNat = 1 then -(m : ℤ) else m := by
  rcases b.eq_zero_or_eq_one with rfl | rfl
  · rfl
  · rfl

/-- The leading bit that is not written. -/
theorem toNat_append_one (x : BitVec 52) : (1#1 ++ x).toNat = x.toNat + leadingBit := by
  rw [BitVec.toNat_append, ← Nat.shiftLeft_add_eq_or_of_lt x.isLt]
  exact Nat.add_comm ..

theorem eq_ofNat_iff (x : BitVec 11) {n : ℕ} (hn : n < 2048) :
    x = BitVec.ofNat 11 n ↔ x.toNat = n := by
  rw [← BitVec.toNat_inj, BitVec.toNat_ofNat, Nat.mod_eq_of_lt hn]

/-- The largest exponent is that of no number. -/
theorem worth_unpack_special (h : (unpackExponent w).toNat = 2047) :
    worth (UnpackedFloat.unpack Format.binary64 w) = none := by
  have hspecial : unpackExponent w = -1#11 := (eq_ofNat_iff _ (by decide)).2 h
  rw [UnpackedFloat.unpack]
  dsimp only
  rw [if_pos hspecial]
  split_ifs
  · rfl
  · rfl

/-- The smallest exponent is that of the finest grid. -/
theorem stands_unpack_subnormal (h : (unpackExponent w).toNat = 0) :
    Stands (UnpackedFloat.unpack Format.binary64 w)
      ((Sign.ofBitVec (unpackSign w)).apply (unpackMantissa w).toNat * 2 ^ (-1074 : ℤ)) := by
  have hspecial : ¬unpackExponent w = -1#11 := fun hE => by
    rw [hE] at h
    cases h
  have hsmallest : unpackExponent w = 0#11 := (eq_ofNat_iff _ (by decide)).2 h
  have hlt : (unpackMantissa w).toNat < 2 ^ 52 := (unpackMantissa w).isLt
  rw [UnpackedFloat.unpack]
  dsimp only
  rw [if_neg hspecial, if_pos hsmallest]
  split_ifs with hzero
  · rw [hzero, apply_cast]
    simp only [BitVec.toNat_ofNat, Nat.zero_mod, Nat.cast_zero, mul_zero, zero_mul]
    exact stands_zero _
  · have hexponent : ((unpackExponent w).toNat : ℤ) - (Format.binary64.exponentBias +
        Format.binary64.mantissaBitsWithoutImplicit) + 1 = -1074 := by
      rw [h]
      decide
    rw [← hexponent]
    exact stands_finite _ (hlt.trans (by decide)) hexponent.ge (Or.inr hexponent)

/-- Any other exponent is that of a mantissa with a leading bit. -/
theorem stands_unpack_normal (h0 : (unpackExponent w).toNat ≠ 0)
    (h : (unpackExponent w).toNat ≠ 2047) :
    Stands (UnpackedFloat.unpack Format.binary64 w)
      ((Sign.ofBitVec (unpackSign w)).apply ((unpackMantissa w).toNat + leadingBit : ℕ) *
        2 ^ (((unpackExponent w).toNat : ℤ) - 1075)) := by
  have hspecial : ¬unpackExponent w = -1#11 := fun hE => by
    rw [hE] at h
    exact h rfl
  have hsmallest : ¬unpackExponent w = 0#11 := fun hE => by
    rw [hE] at h0
    exact h0 rfl
  have hlt : (unpackMantissa w).toNat < 2 ^ 52 := (unpackMantissa w).isLt
  have hbit := toNat_append_one (unpackMantissa w)
  have hleading : leadingBit = 2 ^ 52 := by decide
  have hexponent : ((unpackExponent w).toNat : ℤ) - (Format.binary64.exponentBias +
      Format.binary64.mantissaBitsWithoutImplicit) = (unpackExponent w).toNat - 1075 := rfl
  have hgrid : -1074 ≤ ((unpackExponent w).toNat : ℤ) - 1075 := by omega
  rw [UnpackedFloat.unpack, ← hbit, ← hexponent]
  dsimp only
  rw [if_neg hspecial, if_neg hsmallest]
  exact stands_finite _ (by omega) hgrid (Or.inl (by omega))

end

/-- **The number of a double** is that of its unpacked form. -/
theorem ofFloat?_eq_worth (x : Float) : ofFloat? x = worth x.toModel.unpack := by
  have hbits : x.toBits.toNat = x.toModel.toBits.toBitVec.toNat := rfl
  have hE := toNat_unpackExponent x.toModel.toBits.toBitVec
  rw [ofFloat?, Float.Model.unpack]
  dsimp only
  rw [hbits, ← hE, ← toNat_unpackMantissa, ← toNat_unpackSign]
  split_ifs with h1 h2 h3 h3
  · rw [worth_unpack_special _ h1]
  · rw [(stands_unpack_subnormal _ h2).worth_eq, apply_ofBitVec, if_pos h3]
  · rw [(stands_unpack_subnormal _ h2).worth_eq, apply_ofBitVec, if_neg h3]
  · rw [(stands_unpack_normal _ h2 h1).worth_eq, apply_ofBitVec, if_pos h3]
  · rw [(stands_unpack_normal _ h2 h1).worth_eq, apply_ofBitVec, if_neg h3]

theorem stands_of_ofFloat? {x : Float} {q : ℚ} (h : ofFloat? x = some q) :
    Stands x.toModel.unpack q := by
  rw [ofFloat?_eq_worth] at h
  refine ⟨?_, h⟩
  obtain ⟨w, hw⟩ : ∃ w : BitVec Format.binary64.numBits, w = x.toModel.toBits.toBitVec := ⟨_, rfl⟩
  rw [Float.Model.unpack, ← hw] at h ⊢
  by_cases h1 : (unpackExponent w).toNat = 2047
  · rw [worth_unpack_special _ h1] at h
    cases h
  · by_cases h2 : (unpackExponent w).toNat = 0
    · exact (stands_unpack_subnormal _ h2).canonical
    · exact (stands_unpack_normal _ h2 h1).canonical

/-! ### Writing the fields -/

theorem ofBitVec_unpackSign_packComponents (s : Sign) (E : BitVec 11) (M : BitVec 52) :
    Sign.ofBitVec (unpackSign (packComponents Format.binary64 s E M)) = s := by
  simp only [unpackSign, packComponents, BitVec.extractLsb]
  rw [BitVec.extractLsb'_append_eq_of_le (by omega), BitVec.extractLsb'_append_eq_of_le (by omega)]
  cases s
  · rfl
  · rfl

/-- The exponent of a canonical double fits if its number does not exceed all doubles. -/
theorem Stands.exponent_le {s : Sign} {m : ℕ} {e : ℤ} {hm : 0 < m} {q : ℚ}
    (h : Stands (.finite s m e hm) q) (hq : |q| < 2 ^ (1024 : ℤ)) : e ≤ 971 := by
  obtain ⟨-, -, hm52⟩ := h.canonical
  by_contra hlarge
  have hm' : (2 : ℚ) ^ 52 ≤ m := by exact_mod_cast hm52.resolve_right (by omega)
  have habs : |q| = m * 2 ^ e := by
    rw [h.eq_finite, abs_mul, abs_of_pos (a := (2 : ℚ) ^ e) (by positivity), ← Int.cast_abs,
      abs_apply, Int.cast_natCast]
  have hle : (2 : ℚ) ^ (1024 : ℤ) ≤ m * 2 ^ e := by
    calc (2 : ℚ) ^ (1024 : ℤ) = 2 ^ 52 * 2 ^ (972 : ℤ) := by
          rw [← zpow_natCast, ← zpow_add₀ (by norm_num)]
          norm_num only
      _ ≤ m * 2 ^ e := by
          gcongr
          · norm_num
          · omega
  rw [habs] at hq
  exact absurd hq hle.not_gt

/-- A mantissa with a leading bit is written without it. -/
theorem pack_finite_normal (s : Sign) {m : ℕ} {e : ℤ} (hm : 0 < m) (h52 : 2 ^ 52 ≤ m)
    (h53 : m < 2 ^ 53) (he : e ≤ 971) :
    UnpackedFloat.pack Format.binary64 (.finite s m e hm) =
      packComponents Format.binary64 s (BitVec.ofNat 11 (e + 1075).toNat) (BitVec.ofNat 52 m) := by
  have hexponent : (e + Format.binary64.exponentBias +
      Format.binary64.mantissaBitsWithoutImplicit).toNat = (e + 1075).toNat := by
    have hbias : (Format.binary64.exponentBias : ℤ) = 1023 := by decide
    have hbits : (Format.binary64.mantissaBitsWithoutImplicit : ℤ) = 52 := rfl
    omega
  have hfits : ¬2 ^ Format.binary64.exponentBits ≤ (e + 1075).toNat + 1 := by
    change ¬2 ^ 11 ≤ (e + 1075).toNat + 1
    omega
  have hlog : m.log2 + 1 = Format.binary64.mantissaBits := by
    have h1 := (Nat.log2_lt hm.ne').2 h53
    have h2 := (Nat.le_log2 hm.ne').2 h52
    change m.log2 + 1 = 53
    omega
  rw [UnpackedFloat.pack]
  dsimp only
  rw [hexponent, if_neg hfits, if_pos hlog]

/-- A mantissa on the finest grid is written as it is. -/
theorem pack_finite_subnormal (s : Sign) {m : ℕ} (hm : 0 < m) (h52 : m < 2 ^ 52) :
    UnpackedFloat.pack Format.binary64 (.finite s m (-1074) hm) =
      packComponents Format.binary64 s 0#11 (BitVec.ofNat 52 m) := by
  have hlog : ¬m.log2 + 1 = Format.binary64.mantissaBits := by
    have h1 := (Nat.log2_lt hm.ne').2 h52
    change ¬m.log2 + 1 = 53
    omega
  rw [UnpackedFloat.pack]
  dsimp only
  rw [if_neg (by decide), if_neg hlog]

/-- **Packing keeps the number** as long as it does not exceed all doubles. -/
theorem Stands.pack {u : UnpackedFloat} {q : ℚ} (h : Stands u q) (hq : |q| < 2 ^ (1024 : ℤ)) :
    Stands (Float.Model.pack u).unpack q := by
  change Stands (UnpackedFloat.unpack Format.binary64 (UnpackedFloat.pack Format.binary64 u)) q
  cases u with
  | infinity s => cases h.worth_eq
  | notANumber => cases h.worth_eq
  | zero s =>
    rw [h.eq_zero]
    cases s
    · exact stands_zero .negative
    · exact stands_zero .positive
  | finite s m e hm =>
    obtain ⟨hm53, he, hm52⟩ := h.canonical
    have hsmall := h.exponent_le hq
    have hM : (BitVec.ofNat 52 m).toNat = m % 2 ^ 52 := BitVec.toNat_ofNat ..
    by_cases hlong : 2 ^ 52 ≤ m
    · rw [pack_finite_normal s hm hlong hm53 hsmall]
      have hE : (BitVec.ofNat 11 (e + 1075).toNat).toNat = (e + 1075).toNat := by
        rw [BitVec.toNat_ofNat]
        omega
      have hstands := stands_unpack_normal (packComponents Format.binary64 s
        (BitVec.ofNat 11 (e + 1075).toNat) (BitVec.ofNat 52 m))
        (by rw [unpackExponent_packComponents, hE]; omega)
        (by rw [unpackExponent_packComponents, hE]; omega)
      have hmantissa : m % 2 ^ 52 + leadingBit = m := by
        have hleading : leadingBit = 2 ^ 52 := by decide
        omega
      rw [unpackExponent_packComponents, unpackMantissa_packComponents, hE, hM, hmantissa,
        ofBitVec_unpackSign_packComponents, Int.toNat_of_nonneg (by omega), add_sub_cancel_right,
        ← h.eq_finite] at hstands
      exact hstands
    · obtain rfl := hm52.resolve_left hlong
      rw [pack_finite_subnormal s hm (not_le.1 hlong)]
      have hstands := stands_unpack_subnormal (packComponents Format.binary64 s 0#11
        (BitVec.ofNat 52 m)) (by rw [unpackExponent_packComponents]; rfl)
      rw [unpackMantissa_packComponents, hM, ofBitVec_unpackSign_packComponents,
        Nat.mod_eq_of_lt (not_le.1 hlong), ← h.eq_finite] at hstands
      exact hstands

/-! ### Sums, products and order -/

section
variable {x y : Float} {p q : ℚ}

/-- **The sum of two doubles** is the double nearest to their sum. -/
theorem ofFloat?_add (hx : ofFloat? x = some p) (hy : ofFloat? y = some q)
    (hsum : |nearest (p + q)| < 2 ^ (1024 : ℤ)) : ofFloat? (x + y) = some (nearest (p + q)) := by
  have hstands := ((stands_of_ofFloat? hx).add (stands_of_ofFloat? hy)).pack hsum
  rw [ofFloat?_eq_worth]
  exact hstands.worth_eq

/-- **The product of two doubles** is the double nearest to their product. -/
theorem ofFloat?_mul (hx : ofFloat? x = some p) (hy : ofFloat? y = some q)
    (hproduct : |nearest (p * q)| < 2 ^ (1024 : ℤ)) :
    ofFloat? (x * y) = some (nearest (p * q)) := by
  have hstands := ((stands_of_ofFloat? hx).mul (stands_of_ofFloat? hy)).pack hproduct
  rw [ofFloat?_eq_worth]
  exact hstands.worth_eq

theorem lt_iff (x y : Float) :
    x < y ↔ UnpackedFloat.lt x.toModel.unpack y.toModel.unpack = true := by
  change decide (x.toModel < y.toModel) = true ↔ _
  rw [decide_eq_true_iff]
  rfl

theorem lt_iff_of_ofFloat? (hx : ofFloat? x = some p) (hy : ofFloat? y = some q) :
    x < y ↔ p < q :=
  (lt_iff x y).trans ((stands_of_ofFloat? hx).lt_iff (stands_of_ofFloat? hy))

theorem le_iff_of_ofFloat? (hx : ofFloat? x = some p) (hy : ofFloat? y = some q) :
    x ≤ y ↔ p ≤ q := by
  rw [← (stands_of_ofFloat? hx).le_iff (stands_of_ofFloat? hy)]
  change decide (x.toModel ≤ y.toModel) = true ↔ _
  rw [decide_eq_true_iff]
  rfl

/-! ### What is no number -/

theorem isNaN_iff : x.isNaN = true ↔ x.toModel.unpack = .notANumber := by
  change x.toModel.unpack.isNaN = true ↔ _
  cases x.toModel.unpack with
  | notANumber => exact iff_of_true rfl rfl
  | infinity s => exact iff_of_false nofun nofun
  | zero s => exact iff_of_false nofun nofun
  | finite s m e hm => exact iff_of_false nofun nofun

theorem isNaN_of_ofFloat? (hx : ofFloat? x = some p) : x.isNaN = false := by
  rw [← Bool.not_eq_true, isNaN_iff]
  intro hnan
  have hworth := (stands_of_ofFloat? hx).worth_eq
  rw [hnan] at hworth
  cases hworth

/-- What is no number makes a sum no number. -/
theorem isNaN_add (hx : x.isNaN = true) : (x + y).isNaN = true := by
  have hnan : UnpackedFloat.add Format.binary64 x.toModel.unpack y.toModel.unpack =
      .notANumber := by
    rw [isNaN_iff.1 hx]
    cases y.toModel.unpack <;> rfl
  change (Float.Model.pack (UnpackedFloat.add Format.binary64 x.toModel.unpack
    y.toModel.unpack)).unpack.isNaN = true
  rw [hnan]
  rfl

/-- What is no number makes a product no number. -/
theorem isNaN_mul (hx : x.isNaN = true) : (x * y).isNaN = true := by
  have hnan : UnpackedFloat.mul Format.binary64 x.toModel.unpack y.toModel.unpack =
      .notANumber := by
    rw [isNaN_iff.1 hx]
    cases y.toModel.unpack <;> rfl
  change (Float.Model.pack (UnpackedFloat.mul Format.binary64 x.toModel.unpack
    y.toModel.unpack)).unpack.isNaN = true
  rw [hnan]
  rfl

/-- **What lies between two numbers is a number**, unless it is no number at all. -/
theorem ofFloat?_of_between {z : Float} (hz : z.isNaN = false) (hx : ofFloat? x = some p)
    (hy : ofFloat? y = some q) (h1 : ¬z < x) (h2 : ¬y < z) :
    ∃ r, ofFloat? z = some r ∧ p ≤ r ∧ r ≤ q := by
  have hnumber : ∃ r, ofFloat? z = some r := by
    rw [lt_iff] at h1 h2
    rw [ofFloat?_eq_worth]
    cases hu : z.toModel.unpack with
    | notANumber =>
      rw [← Bool.not_eq_true, isNaN_iff] at hz
      exact absurd hu hz
    | infinity s =>
      rw [hu] at h1 h2
      cases s with
      | negative => exact absurd (stands_of_ofFloat? hx).lt_infinity.1 h1
      | positive => exact absurd (stands_of_ofFloat? hy).lt_infinity.2 h2
    | zero s => exact ⟨_, rfl⟩
    | finite s m e hm => exact ⟨_, rfl⟩
  obtain ⟨r, hr⟩ := hnumber
  rw [lt_iff_of_ofFloat? hr hx] at h1
  rw [lt_iff_of_ofFloat? hy hr] at h2
  exact ⟨r, hr, not_lt.1 h1, not_lt.1 h2⟩

end

end LabelPress.Binary64
