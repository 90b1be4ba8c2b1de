import LabelPress.Proofs.Number.Nearest
import LabelPress.Label.Size

/-! # Sizes in dots

A width that passes the two bounds in millimetres is no number at all or fits the print head in
dots, since both bounds are grid points and rounding does not pass them. The height has no upper
bound; it may be too large for a number of dots, or no number.

* `dotsOf_real`: a length in dots, from its bounds in millimetres.
* `dotsOf_width`: the width in dots.
* `ofMillimetres_cases`: what becomes of a size. -/

namespace LabelPress

open Binary64

theorem floorFloat?_of_ofFloat? {x : Float} {q : ℚ} (h : ofFloat? x = some q) :
    floorFloat? x = .ok ⌊q⌋ := by
  rw [floorFloat?, isNaN_of_ofFloat? h, h]
  rfl

/-- Halves are grid points. -/
theorem onGrid_half {k : ℕ} (hk : k < 2 ^ 53) {g : ℚ} (hg : g = k / 2) : OnGrid g := by
  refine ⟨k, -1, by rw [Nat.abs_cast]; exact_mod_cast hk, by norm_num, ?_⟩
  rw [hg, zpow_neg_one, Int.cast_natCast]
  rfl

theorem ofFloat?_half : ofFloat? 0.5 = some (1 / 2) := by
  have hbits : (0.5 : Float) = Float.ofBits (UInt64.ofNat (1022 * 2 ^ 52 + 0)) := rfl
  have hlt : |(1 / 2 : ℚ)| < 2 ^ (1024 : ℤ) := by
    calc |(1 / 2 : ℚ)| < 1 := by norm_num
      _ < 2 ^ (1024 : ℤ) := one_lt_zpow₀ (by norm_num) (by norm_num)
  rw [hbits]
  exact ofFloat?_ofBits_fields (by omega) (by omega) (by norm_num) hlt

/-- **A length in dots** lies between the bounds that it has in millimetres, if these are whole and
leave room for half a dot. -/
theorem dotsOf_real {x : Float} {r : ℚ} (hx : ofFloat? x = some r) {m n : ℕ} (hm : m ≤ r)
    (hn : r ≤ n) (hlarge : n < 2 ^ 48) :
    ∃ dots, dotsOf (.real x) = .ok dots ∧ (8 * m : ℤ) ≤ dots ∧ dots ≤ 8 * n := by
  have hdots : ofFloat? (Float.ofNat dotsPerMm) = some 8 := ofFloat?_ofNat (n := 8) (by norm_num)
  have hmn : m ≤ n := by exact_mod_cast hm.trans hn
  have hfinite {q : ℚ} (h0 : 0 ≤ q) (h1 : q ≤ 8 * n + 1 / 2) : |q| < 2 ^ (1024 : ℤ) := by
    have hn' : (n : ℚ) ≤ 2 ^ 48 := by exact_mod_cast hlarge.le
    calc |q| = q := abs_of_nonneg h0
      _ ≤ 8 * n + 1 / 2 := h1
      _ ≤ 2 ^ (52 : ℤ) := by
          norm_num only at hn' ⊢
          linarith
      _ < 2 ^ (1024 : ℤ) := zpow_lt_zpow_right₀ (by norm_num) (by norm_num)
  -- Eight times the length is rounded, and its sum with half a dot is rounded again.
  have h1 : 8 * (m : ℚ) ≤ nearest (r * 8) :=
    le_nearest_of_onGrid (onGrid_half (k := 16 * m) (by omega) (by push_cast; ring)) (by linarith)
  have h2 : nearest (r * 8) ≤ 8 * n :=
    nearest_le_of_onGrid (onGrid_half (k := 16 * n) (by omega) (by push_cast; ring)) (by linarith)
  have h3 : 8 * (m : ℚ) + 1 / 2 ≤ nearest (nearest (r * 8) + 1 / 2) :=
    le_nearest_of_onGrid (onGrid_half (k := 16 * m + 1) (by omega) (by push_cast; ring))
      (by linarith)
  have h4 : nearest (nearest (r * 8) + 1 / 2) ≤ 8 * n + 1 / 2 :=
    nearest_le_of_onGrid (onGrid_half (k := 16 * n + 1) (by omega) (by push_cast; ring))
      (by linarith)
  have hm0 : (0 : ℚ) ≤ m := Nat.cast_nonneg m
  have hproduct := ofFloat?_mul hx hdots (hfinite (by linarith) (by linarith))
  have hsum := ofFloat?_add hproduct ofFloat?_half (hfinite (by linarith) (by linarith))
  refine ⟨_, floorFloat?_of_ofFloat? hsum, ?_, ?_⟩
  · rw [Int.le_floor]
    push_cast
    linarith
  · rw [Int.floor_le_iff]
    push_cast
    linarith

/-- The whole widths in dots, eight to the millimetre. -/
theorem dotsOf_whole : ∀ n ∈ Finset.Icc (20 : ℤ) 48, dotsOf (.whole n) = .ok (8 * n) := by
  decide +kernel

/-- **A width in dots**: no narrower than the narrowest label and no wider than the print head,
unless the width is no number. -/
theorem dotsOf_width {width : Measure} (h1 : width.ltNat minWidthMm = false)
    (h2 : width.gtNat maxWidthMm = false) :
    dotsOf width = .error .notANumber ∨
      ∃ dots, dotsOf width = .ok dots ∧ 160 ≤ dots ∧ dots ≤ 384 := by
  cases width with
  | whole n =>
    have hmin : ¬n < 20 := of_decide_eq_false h1
    have hmax : ¬48 < n := of_decide_eq_false h2
    right
    exact ⟨_, dotsOf_whole n (Finset.mem_Icc.2 ⟨by omega, by omega⟩), by omega, by omega⟩
  | real x =>
    cases hnan : x.isNaN with
    | true =>
      left
      simp only [dotsOf, floorFloat?, isNaN_add (isNaN_mul hnan), if_true]
    | false =>
      right
      have hmin : ofFloat? (Float.ofNat minWidthMm) = some 20 :=
        ofFloat?_ofNat (n := 20) (by norm_num)
      have hmax : ofFloat? (Float.ofNat maxWidthMm) = some 48 :=
        ofFloat?_ofNat (n := 48) (by norm_num)
      obtain ⟨r, hr, hr20, hr48⟩ := ofFloat?_of_between hnan hmin hmax
        (of_decide_eq_false h1) (of_decide_eq_false h2)
      obtain ⟨dots, hdots, hlow, hhigh⟩ := dotsOf_real hr (m := 20) (n := 48)
        (by exact_mod_cast hr20) (by exact_mod_cast hr48) (by norm_num)
      exact ⟨dots, hdots, by omega, by omega⟩

/-! ### Sizes -/

/-- Refused by its bounds in millimetres. -/
def OutOfBounds (width height : Measure) : Prop :=
  width.ltNat minWidthMm = true ∨ width.gtNat maxWidthMm = true ∨ height.leNat 0 = true

/-- **What becomes of a size**: it is refused by its bounds, or a side is no number of dots, or the
height is less than one dot, or both sides have their dots and the width fits the print head. No
width is beyond the print head in dots only. -/
theorem ofMillimetres_cases (width height : Measure) :
    (OutOfBounds width height ∧ ∃ e, LabelSize.ofMillimetres width height = .error e ∧
      ∀ a, e ≠ .reckoning a) ∨
    (¬OutOfBounds width height ∧ ∃ a, LabelSize.ofMillimetres width height =
      .error (.reckoning a) ∧ (dotsOf width = .error a ∨ dotsOf height = .error a)) ∨
    (¬OutOfBounds width height ∧ ∃ w h, dotsOf width = .ok w ∧ dotsOf height = .ok h ∧
      (160 ≤ w ∧ w ≤ 384) ∧ LabelSize.ofMillimetres width height =
        if h < 1 then .error .belowOneDot else .ok ⟨w, h⟩) := by
  cases hnarrow : width.ltNat minWidthMm with
  | true =>
    left
    refine ⟨Or.inl hnarrow, .tooNarrow, ?_, nofun⟩
    rw [LabelSize.ofMillimetres, hnarrow]
    rfl
  | false =>
  cases hwide : width.gtNat maxWidthMm with
  | true =>
    left
    refine ⟨Or.inr (Or.inl hwide), .tooWide, ?_, nofun⟩
    rw [LabelSize.ofMillimetres, hnarrow, hwide]
    rfl
  | false =>
  cases hnone : height.leNat 0 with
  | true =>
    left
    refine ⟨Or.inr (Or.inr hnone), .noHeight, ?_, nofun⟩
    rw [LabelSize.ofMillimetres, hnarrow, hwide, hnone]
    rfl
  | false =>
    right
    have hin : ¬OutOfBounds width height := by
      rw [OutOfBounds, hnarrow, hwide, hnone]
      simp
    rcases dotsOf_width hnarrow hwide with hw | ⟨w, hw, hfits⟩
    · left
      refine ⟨hin, .notANumber, ?_, Or.inl hw⟩
      rw [LabelSize.ofMillimetres, hnarrow, hwide, hnone, hw]
      rfl
    · cases hdots : dotsOf height with
      | error a =>
        left
        refine ⟨hin, a, ?_, Or.inr rfl⟩
        rw [LabelSize.ofMillimetres, hnarrow, hwide, hnone, hw, hdots]
        rfl
      | ok h =>
        right
        refine ⟨hin, w, h, hw, rfl, hfits, ?_⟩
        have hhead : ¬(maxWidth : Int) < w := by
          rw [maxWidth]
          omega
        rw [LabelSize.ofMillimetres, hnarrow, hwide, hnone, hw, hdots]
        by_cases hh : h < 1
        · simp only [Except.mapError, bind, Except.bind, hhead, hh, if_true, if_false]
          rfl
        · simp only [Except.mapError, bind, Except.bind, hhead, hh, if_false]
          rfl

end LabelPress
