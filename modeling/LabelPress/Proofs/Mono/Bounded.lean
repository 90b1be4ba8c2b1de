import LabelPress.Proofs.Mono.Diffusion
import LabelPress.Proofs.Number.Beyond
import LabelPress.Proofs.Number.Quotients

/-! # Error diffusion stays bounded

Errors go on from dot to dot along paths of any length, but they do not grow. What is left of a
value between -127 and 383 when black or white is taken off is between -127 and 128, and the shares
that a dot is handed are no more than sixteen sixteenths of such errors, so that the dot stays
between -127 and 383 itself.

A dot that has only got some of its shares is within the part of these bounds that belongs to their
weight: after `w` sixteenths it is between `-127 w / 16` and `255 + 128 w / 16`. All these bounds
are whole sixteenths and so grid points, which rounding does not pass.

* `Within`: a double between two numbers of sixteenths; `Within.add`, `within_share`,
  `within_residue`: the steps of the arithmetic.
* `Within.pull`, `within_arrived`: one more share, and all that have arrived.
* `within_pulled`: the values that are quantised.
* `duringStep`: the picture in the middle of a step of the scan.
* `diffusion_bounded`: the bounds at every point of the scan. -/

namespace LabelPress

open Binary64 GrayArithmetic

/-! ### Bounds in sixteenths -/

/-- **A double between two numbers of sixteenths.** -/
def Within (low high : ℤ) (v : Float) : Prop :=
  ∃ q : ℚ, ofFloat? v = some q ∧ (low : ℚ) / 16 ≤ q ∧ q ≤ (high : ℚ) / 16

theorem onGrid_sixteenths {n : ℤ} (hn : |n| < 2 ^ 53) : OnGrid ((n : ℚ) / 16) :=
  ⟨n, -4, hn, by norm_num, by rw [zpow_neg]; norm_num [div_eq_mul_inv]⟩

section
variable {low high a b c d : ℤ} {v w : Float}

/-- Rounding does not pass bounds in sixteenths. -/
theorem nearest_mem (hlow : |a| < 2 ^ 53) (hhigh : |b| < 2 ^ 53) {q : ℚ}
    (h1 : (a : ℚ) / 16 ≤ q) (h2 : q ≤ (b : ℚ) / 16) :
    (a : ℚ) / 16 ≤ nearest q ∧ nearest q ≤ (b : ℚ) / 16 ∧ |nearest q| < 2 ^ (1024 : ℤ) := by
  have h3 := le_nearest_of_onGrid (onGrid_sixteenths hlow) h1
  have h4 := nearest_le_of_onGrid (onGrid_sixteenths hhigh) h2
  have hlow' : |(a : ℚ)| < 2 ^ 53 := by exact_mod_cast hlow
  have hhigh' : |(b : ℚ)| < 2 ^ 53 := by exact_mod_cast hhigh
  have hfinite : (2 : ℚ) ^ 53 ≤ 2 ^ (1024 : ℤ) := by
    rw [← zpow_natCast]
    exact zpow_le_zpow_right₀ (by norm_num) (by norm_num)
  refine ⟨h3, h4, lt_of_lt_of_le (abs_lt.2 ⟨?_, ?_⟩) hfinite⟩
  · linarith [(abs_lt.1 hlow').1]
  · linarith [(abs_lt.1 hhigh').2]

theorem Within.mono (h : Within a b v) (hlow : c ≤ a) (hhigh : b ≤ d) : Within c d v := by
  obtain ⟨q, hq, h1, h2⟩ := h
  have hlow' : (c : ℚ) ≤ a := by exact_mod_cast hlow
  have hhigh' : (b : ℚ) ≤ d := by exact_mod_cast hhigh
  exact ⟨q, hq, by linarith, by linarith⟩

/-- **A sum** is between the sums of the bounds. -/
theorem Within.add (hv : Within a b v) (hw : Within c d w) (hlow : |a + c| < 2 ^ 53)
    (hhigh : |b + d| < 2 ^ 53) : Within (a + c) (b + d) (v + w) := by
  obtain ⟨p, hp, hp1, hp2⟩ := hv
  obtain ⟨q, hq, hq1, hq2⟩ := hw
  obtain ⟨h1, h2, hfinite⟩ := nearest_mem hlow hhigh (q := p + q)
    (by push_cast; linarith) (by push_cast; linarith)
  exact ⟨_, ofFloat?_add hp hq hfinite, h1, h2⟩

/-- **A share of an error**: multiplied first and divided then. -/
theorem within_share (hv : Within (-2032) 2048 v) {k : ℕ} (hk : k ≤ 16) :
    Within (-(127 * k)) (128 * k) (sixteenths k v) := by
  obtain ⟨p, hp, hp1, hp2⟩ := hv
  have hk' : (k : ℚ) ≤ 16 := by exact_mod_cast hk
  have hk0 : (0 : ℚ) ≤ k := Nat.cast_nonneg k
  have hfactor : ofFloat? (Float.ofNat k) = some (k : ℚ) := ofFloat?_ofNat (by omega)
  have hsixteen : ofFloat? (16 : Float) = some 16 := ofFloat?_literal 16 (by norm_num)
  push_cast at hp1 hp2
  obtain ⟨hm1, hm2, hproduct⟩ := nearest_mem (a := -2032 * k) (b := 2048 * k) (q := p * k)
    (by rw [abs_lt]; omega) (by rw [abs_lt]; omega)
    (by push_cast; nlinarith) (by push_cast; nlinarith)
  push_cast at hm1 hm2
  obtain ⟨h1, h2, hquotient⟩ := nearest_mem (a := -(127 * k)) (b := 128 * k)
    (q := nearest (p * k) / 16)
    (by rw [abs_lt]; omega) (by rw [abs_lt]; omega)
    (by push_cast; linarith) (by push_cast; linarith)
  have hshare := ofFloat?_div (ofFloat?_mul hp hfactor hproduct) hsixteen (by norm_num) hquotient
  exact ⟨_, hshare, h1, h2⟩

/-- **What is left when black or white is taken off.** A dark value is left as it is, and of a light
one, which is no less than 128, white is taken off. -/
theorem within_residue (hv : Within (-2032) 6128 v) : Within (-2032) 2048 (residue v) := by
  obtain ⟨p, hp, hp1, hp2⟩ := hv
  have hmiddle : ofFloat? (128 : Float) = some 128 := ofFloat?_literal 128 (by norm_num)
  have hwhite : ofFloat? (255 : Float) = some 255 := ofFloat?_literal 255 (by norm_num)
  have hdark : v < 128 ↔ p < 128 := lt_iff_of_ofFloat? hp hmiddle
  have hresidue : residue v = v - if v < 128 then 0 else 255 := by
    change v - (if decide (v < 128) = true then 0 else 255) = _
    simp only [decide_eq_true_eq]
  push_cast at hp1 hp2
  obtain ⟨q, hq, hlow, hhigh⟩ : ∃ q : ℚ, ofFloat? (if v < 128 then 0 else 255) = some q ∧
      -127 ≤ p - q ∧ p - q ≤ 128 := by
    by_cases h : v < 128
    · have hbelow := hdark.1 h
      rw [if_pos h]
      exact ⟨0, ofFloat?_zero, by linarith, by linarith⟩
    · have habove := not_lt.1 (mt hdark.2 h)
      rw [if_neg h]
      exact ⟨255, hwhite, by linarith, by linarith⟩
  obtain ⟨h1, h2, hfinite⟩ := nearest_mem (a := -2032) (b := 2048) (q := p - q)
    (by norm_num) (by norm_num) (by push_cast; linarith) (by push_cast; linarith)
  rw [hresidue]
  exact ⟨_, ofFloat?_sub hp hq hfinite, h1, h2⟩

/-- Bounds that are whole numbers, as doubles. -/
theorem Within.le_and_le (hv : Within low high v) (hw : ofFloat? w = some ((low : ℚ) / 16))
    {z : Float} (hz : ofFloat? z = some ((high : ℚ) / 16)) : w ≤ v ∧ v ≤ z := by
  obtain ⟨p, hp, h1, h2⟩ := hv
  exact ⟨(le_iff_of_ofFloat? hw hp).2 h1, (le_iff_of_ofFloat? hp hz).2 h2⟩

end

theorem ofFloat?_minus_127 : ofFloat? (-127) = some (((-2032 : ℤ) : ℚ) / 16) := by
  have hvalue : ofFloat? (127 : Float) = some 127 := ofFloat?_literal 127 (by norm_num)
  have hfinite : |(127 : ℚ)| < 2 ^ (1024 : ℤ) := by
    calc |(127 : ℚ)| < 2 ^ (7 : ℤ) := by norm_num
      _ < 2 ^ (1024 : ℤ) := zpow_lt_zpow_right₀ (by norm_num) (by norm_num)
  rw [ofFloat?_neg hvalue hfinite]
  norm_num

theorem Within.value_bounds {v : Float} (hv : Within (-2032) 6128 v) : -127 ≤ v ∧ v ≤ 383 := by
  have hhigh : ofFloat? (383 : Float) = some (((6128 : ℤ) : ℚ) / 16) := by
    rw [ofFloat?_literal 383 (by norm_num)]
    norm_num
  exact hv.le_and_le ofFloat?_minus_127 hhigh

theorem Within.error_bounds {v : Float} (hv : Within (-2032) 2048 v) : -127 ≤ v ∧ v ≤ 128 := by
  have hhigh : ofFloat? (128 : Float) = some (((2048 : ℤ) : ℚ) / 16) := by
    rw [ofFloat?_literal 128 (by norm_num)]
    norm_num
  exact hv.le_and_le ofFloat?_minus_127 hhigh

/-! ### Shares that arrive -/

section
variable {width : ℕ} {gray : ℕ → ℕ → Float}

/-- **One more share**: the bounds grow by its weight, whether it has arrived or not. -/
theorem Within.pull {weight k n x y : ℕ} {inside : Prop} [Decidable inside] {v : Float}
    (hv : Within (-(127 * weight)) (4080 + 128 * weight) v)
    (hfrom : inside → Within (-2032) 6128 (pulled width gray x y)) (hweight : weight + k ≤ 16) :
    Within (-(127 * (weight + k : ℕ))) (4080 + 128 * (weight + k : ℕ))
      (pull width gray n inside k x y v) := by
  unfold LabelPress.pull
  split_ifs with h
  · have hshare := within_share (within_residue (hfrom h.1)) (show k ≤ 16 by omega)
    refine (hv.add hshare ?_ ?_).mono ?_ ?_
    · rw [abs_lt]; omega
    · rw [abs_lt]; omega
    · push_cast; omega
    · push_cast; omega
  · exact hv.mono (by push_cast; omega) (by push_cast; omega)

/-- **All shares that have arrived**, at any time: their weights add up to sixteen sixteenths. -/
theorem within_arrived {n x y : ℕ} (hgray : Within 0 4080 (gray x y))
    (h1 : 0 < x ∧ 0 < y → Within (-2032) 6128 (pulled width gray (x - 1) (y - 1)))
    (h5 : 0 < y → Within (-2032) 6128 (pulled width gray x (y - 1)))
    (h3 : x + 1 < width ∧ 0 < y → Within (-2032) 6128 (pulled width gray (x + 1) (y - 1)))
    (h7 : 0 < x → Within (-2032) 6128 (pulled width gray (x - 1) y)) :
    Within (-2032) 6128 (arrived width gray n x y) := by
  have hstart : Within (-(127 * (0 : ℕ))) (4080 + 128 * (0 : ℕ)) (gray x y) := hgray
  exact (((hstart.pull h1 (by norm_num)).pull h5 (by norm_num)).pull h3 (by norm_num)).pull h7
    (by norm_num)

/-- **The values that are quantised** are bounded: by induction along the scan. -/
theorem within_pulled (hgray : ∀ x y, Within 0 4080 (gray x y)) {x : ℕ} (hx : x < width) (y : ℕ) :
    Within (-2032) 6128 (pulled width gray x y) := by
  rw [← arrived_self hx]
  refine within_arrived (hgray x y) (fun h => ?_) (fun h => ?_) (fun h => ?_) (fun h => ?_)
  · exact within_pulled hgray (show x - 1 < width by omega) (y - 1)
  · exact within_pulled hgray hx (y - 1)
  · exact within_pulled hgray h.1 (y - 1)
  · exact within_pulled hgray (show x - 1 < width by omega) y
termination_by (y, x)

/-- **The dots still to come** are bounded at any time. -/
theorem within_waiting (hgray : ∀ x y, Within 0 4080 (gray x y)) {x : ℕ} (hx : x < width)
    (n y : ℕ) : Within (-2032) 6128 (arrived width gray n x y) :=
  within_arrived (hgray x y) (fun _ => within_pulled hgray (by omega) _)
    (fun _ => within_pulled hgray hx _) (fun h => within_pulled hgray h.1 _)
    fun _ => within_pulled hgray (by omega) _

end

/-! ### The middle of a step -/

section
variable {α : Type} [GrayArithmetic α] {width height : ℕ}

/-- A share of an error on its way to a dot. -/
structure Share (α : Type) where
  /-- Is there such a dot? -/
  inside : Bool
  /-- The number of the dot. -/
  target : ℕ
  /-- How much it is. -/
  amount : α

/-- Add shares to their dots, one after the other. -/
def handOut (gray : Array α) (shares : List (Share α)) : Array α :=
  shares.foldl (fun gray s => spread s.inside s.target s.amount gray) gray

/-- The shares of the error of dot `(x, y)`, in the order in which they are handed out. -/
def sharesOf (width height x y : ℕ) (error : α) : List (Share α) :=
  let i := y * width + x
  let right := decide (x + 1 < width)
  let below := decide (y + 1 < height)
  [⟨right, i + 1, sixteenths 7 error⟩,
    ⟨below && decide (0 < x), i + width - 1, sixteenths 3 error⟩,
    ⟨below, i + width, sixteenths 5 error⟩,
    ⟨below && right, i + width + 1, sixteenths 1 error⟩]

/-- **The picture in the middle of a step**: dot `(x, y)` is quantised, and the first `j` shares of
its error are handed out. -/
def duringStep (width height : ℕ) (gray : Array α) (x y j : ℕ) : Array α :=
  match gray[y * width + x]? with
  | none => gray
  | some old =>
    handOut (gray.setIfInBounds (y * width + x) (quantise old))
      ((sharesOf width height x y (residue old)).take j)

/-- After all four shares the step is done. -/
theorem duringStep_four (gray : Array α) (x y : ℕ) :
    duringStep width height gray x y 4 = ditherStep width height gray x y := by
  simp only [duringStep, ditherStep]
  cases gray[y * width + x]? with
  | none => rfl
  | some old => rfl

/-- No two shares go to one dot. -/
theorem pairwise_sharesOf {x : ℕ} (hx : x < width) (y : ℕ) (error : α) :
    (sharesOf width height x y error).Pairwise fun s t =>
      s.inside = true → t.inside = true → s.target ≠ t.target := by
  simp only [sharesOf, List.pairwise_cons, List.mem_cons, List.not_mem_nil, or_false,
    forall_eq_or_imp, forall_eq, Bool.and_eq_true, decide_eq_true_eq, List.Pairwise.nil,
    IsEmpty.forall_iff, implies_true, and_true]
  omega

/-- A dot that no share goes to stays as it is. -/
theorem getElem?_handOut_of_ne {shares : List (Share α)} {i : ℕ} (gray : Array α)
    (h : ∀ s ∈ shares, ¬(s.inside = true ∧ s.target = i)) :
    (handOut gray shares)[i]? = gray[i]? := by
  induction shares generalizing gray with
  | nil => rfl
  | cons s shares ih =>
    have hfirst := h s List.mem_cons_self
    have hrest := ih (spread s.inside s.target s.amount gray)
      fun t ht => h t (List.mem_cons_of_mem s ht)
    rw [getElem?_spread, if_neg hfirst] at hrest
    exact hrest

/-- **In the middle a dot is as it was or as it will be.** -/
theorem getElem?_handOut_take {shares : List (Share α)} (h : shares.Pairwise fun s t =>
      s.inside = true → t.inside = true → s.target ≠ t.target) (gray : Array α) (i j : ℕ) :
    (handOut gray (shares.take j))[i]? = gray[i]? ∨
      (handOut gray (shares.take j))[i]? = (handOut gray shares)[i]? := by
  induction shares generalizing gray j with
  | nil => exact .inl (by rw [List.take_nil]; rfl)
  | cons s shares ih =>
    cases j with
    | zero => exact .inl rfl
    | succ j =>
      obtain ⟨hfirst, hrest⟩ := List.pairwise_cons.1 h
      have hnext (taken : List (Share α)) : handOut gray (s :: taken) =
          handOut (spread s.inside s.target s.amount gray) taken := rfl
      rw [List.take_succ_cons, hnext, hnext]
      by_cases hs : s.inside = true ∧ s.target = i
      · -- The other shares go elsewhere.
        have hothers : ∀ t ∈ shares, ¬(t.inside = true ∧ t.target = i) := fun t ht hti =>
          hfirst t ht hs.1 hti.1 (hs.2.trans hti.2.symm)
        rw [getElem?_handOut_of_ne _ hothers,
          getElem?_handOut_of_ne _ fun t ht => hothers t (List.mem_of_mem_take ht)]
        exact .inr rfl
      · have hcases := ih hrest (spread s.inside s.target s.amount gray) j
        rwa [getElem?_spread, if_neg hs] at hcases

/-- In the middle of a step a dot to come is as before the step or as after it. -/
theorem getElem?_duringStep {x : ℕ} (hx : x < width) (y : ℕ) (gray : Array α) {i : ℕ}
    (hi : y * width + x < i) (j : ℕ) :
    (duringStep width height gray x y j)[i]? = gray[i]? ∨
      (duringStep width height gray x y j)[i]? = (ditherStep width height gray x y)[i]? := by
  rw [← duringStep_four]
  unfold duringStep
  cases gray[y * width + x]? with
  | none => exact .inl rfl
  | some old =>
    have hdifferent : (sharesOf width height x y (residue old)).Pairwise _ :=
      pairwise_sharesOf hx y (residue old)
    have hcases := getElem?_handOut_take hdifferent
      (gray.setIfInBounds (y * width + x) (quantise old)) i j
    rwa [Array.getElem?_setIfInBounds_ne hi.ne] at hcases

end

/-! ### The whole scan -/

/-- A gray value from black to white. -/
def Measure.IsGray : Measure → Prop
  | whole n => 0 ≤ n ∧ n ≤ 255
  | real v => 0 ≤ v ∧ v ≤ 255

theorem within_toFloat {m : Measure} (hm : m.IsGray) : Within 0 4080 m.toFloat := by
  cases m with
  | whole n =>
    obtain ⟨hblack, hwhite⟩ := hm
    have hblack' : (0 : ℚ) ≤ n := by exact_mod_cast hblack
    have hwhite' : (n : ℚ) ≤ 255 := by exact_mod_cast hwhite
    obtain ⟨h1, h2, hfinite⟩ := nearest_mem (a := 0) (b := 4080) (q := n) (by norm_num)
      (by norm_num) (by push_cast; linarith) (by push_cast; linarith)
    exact ⟨_, ofFloat?_toFloat hblack' (abs_lt.1 hfinite).2, h1, h2⟩
  | real v =>
    obtain ⟨hblack, hwhite⟩ := hm
    have hvalue : ofFloat? (255 : Float) = some 255 := ofFloat?_literal 255 (by norm_num)
    obtain ⟨q, hq, h1, h2⟩ := ofFloat?_of_nonneg_of_le hblack hwhite hvalue
    exact ⟨q, hq, by push_cast; linarith, by push_cast; linarith⟩

theorem within_doubleAt {measures : Array Measure} (hrange : ∀ m ∈ measures, m.IsGray)
    (width x y : ℕ) : Within 0 4080 (doubleAt measures width x y) := by
  unfold doubleAt
  cases hm : measures[y * width + x]? with
  | none => exact ⟨0, ofFloat?_zero, by norm_num, by norm_num⟩
  | some m => exact within_toFloat (hrange m (Array.mem_of_getElem? hm))

/-- A dot of the picture that has not had its turn, after any number of turns. -/
theorem exists_within_ditherUpTo {measures : Array Measure} {width height : ℕ}
    (hsize : measures.size = width * height) (hrange : ∀ m ∈ measures, m.IsGray) {n i : ℕ}
    (hni : n ≤ i) (hi : i < width * height) :
    ∃ v, (ditherUpTo width height n (measures.map Measure.toFloat))[i]? = some v ∧
      Within (-2032) 6128 v := by
  have hwidth : 0 < width := Nat.pos_of_mul_pos_right (Nat.zero_lt_of_lt hi)
  have hx : i % width < width := Nat.mod_lt i hwidth
  have hy : i / width < height := Nat.div_lt_of_lt_mul hi
  have hdot := getElem?_ditherUpTo (getElem?_doubles hsize) (hni.trans hi.le) hx hy
  rw [Nat.div_add_mod', if_neg (Nat.not_lt.2 hni)] at hdot
  exact ⟨_, hdot, within_waiting (fun x y => within_doubleAt hrange width x y) hx n _⟩

/-- **Error diffusion stays bounded.** When the turn of dot `(x, y)` comes, its value is between
-127 and 383 and its error between -127 and 128. The dots after it are between -127 and 383 all
through its turn: before it, after each of the shares that are handed out, and when the last of them
has led to the picture with which the next turn begins. -/
theorem diffusion_bounded {measures : Array Measure} {width height : ℕ}
    (hsize : measures.size = width * height) (hrange : ∀ m ∈ measures, m.IsGray) {x y : ℕ}
    (hx : x < width) (hy : y < height) :
    let start := measures.map Measure.toFloat
    let gray := ditherUpTo width height (y * width + x) start
    (∃ old, gray[y * width + x]? = some old ∧ (-127 ≤ old ∧ old ≤ 383) ∧
      (-127 ≤ old - quantise old ∧ old - quantise old ≤ 128)) ∧
    (∀ j i, y * width + x < i → i < width * height →
      ∃ v, (duringStep width height gray x y j)[i]? = some v ∧ -127 ≤ v ∧ v ≤ 383) ∧
    duringStep width height gray x y 4 = ditherUpTo width height (y * width + x + 1) start := by
  intro start gray
  refine ⟨?_, fun j i hafter hi => ?_, ?_⟩
  · obtain ⟨old, hold, hwithin⟩ :=
      exists_within_ditherUpTo hsize hrange (le_refl (y * width + x)) (index_lt hx hy)
    exact ⟨old, hold, hwithin.value_bounds, (within_residue hwithin).error_bounds⟩
  · have hcases : (duringStep width height gray x y j)[i]? = gray[i]? ∨ _ :=
      getElem?_duringStep hx y gray hafter j
    rcases hcases with hbefore | hdone
    · obtain ⟨v, hv, hwithin⟩ := exists_within_ditherUpTo hsize hrange hafter.le hi
      exact ⟨v, hbefore.trans hv, hwithin.value_bounds⟩
    · obtain ⟨v, hv, hwithin⟩ := exists_within_ditherUpTo hsize hrange hafter hi
      rw [← ditherUpTo_succ hx] at hdone
      exact ⟨v, hdone.trans hv, hwithin.value_bounds⟩
  · rw [duringStep_four, ditherUpTo_succ hx]

/-- A dark dot hands its error to a white one, which is above white then. -/
theorem diffusion_bounded_dark_white :
    (∀ m ∈ #[.whole 100, .real 255], Measure.IsGray m) ∧
      let start := #[Measure.whole 100, .real 255].map Measure.toFloat
      let gray := ditherUpTo 2 1 0 start
      (∃ old : Float, gray[0]? = some old ∧ (-127 ≤ old ∧ old ≤ 383) ∧
        (-127 ≤ old - quantise old ∧ old - quantise old ≤ 128)) ∧
      (∀ j i, 0 < i → i < 2 → ∃ v : Float,
        (duringStep 2 1 gray 0 0 j)[i]? = some v ∧ -127 ≤ v ∧ v ≤ 383) ∧
      duringStep 2 1 gray 0 0 4 = ditherUpTo 2 1 1 start := by
  have hvalue : ofFloat? (255 : Float) = some 255 := ofFloat?_literal 255 (by norm_num)
  have hall : ∀ m ∈ #[.whole 100, .real 255], Measure.IsGray m := by
    intro m hm
    simp only [List.mem_toArray, List.mem_cons, List.not_mem_nil, or_false] at hm
    rcases hm with rfl | rfl
    · exact ⟨by norm_num, by norm_num⟩
    · exact ⟨(le_iff_of_ofFloat? ofFloat?_zero hvalue).2 (by norm_num),
        (le_iff_of_ofFloat? hvalue hvalue).2 le_rfl⟩
  exact ⟨hall, @diffusion_bounded #[.whole 100, .real 255] 2 1 rfl hall 0 0 (by norm_num)
    (by norm_num)⟩

end LabelPress
