import LabelPress.Canvas.Basic
import LabelPress.Proofs.Mono.Packing

/-! # Error diffusion in pull form

Diffusion pushes the error of each dot to four neighbours that come later. The same picture comes
out when each dot, in its turn, pulls the errors of the four neighbours that came before it: above
left, above, above right and left, in this order.

* `pulled`: the value of a dot when its turn comes, by recursion on the neighbours before it.
* `arrived`: the value of a dot when only some dots have had their turn. This is what stands in the
  picture during the scan (`getElem?_ditherUpTo`), one dot at a time (`arrived_succ`).
* `getElem?_dither`: after the scan each dot is its quantised pulled value.
* `toMonoOfMeasures_eq_pulled`: the packed bitmap, bit by bit. -/

namespace LabelPress

open GrayArithmetic

/-- An arithmetic in which white is light and black is not. -/
class LawfulGrayArithmetic (α : Type) [GrayArithmetic α] : Prop where
  isLight_white : isLight (white : α) = true
  isLight_black : isLight (black : α) = false

instance : LawfulGrayArithmetic Float where
  isLight_white := by decide +kernel
  isLight_black := by decide +kernel

section
variable {α : Type} [GrayArithmetic α]

/-- What a dot hands on when it is quantised. -/
def residue (v : α) : α := sub v (quantise v)

/-- **The value of a dot when its turn comes.** -/
def pulled (width : Nat) (gray : Nat → Nat → α) (x y : Nat) : α :=
  let v := gray x y
  let v := if _ : 0 < x ∧ 0 < y then
    add v (sixteenths 1 (residue (pulled width gray (x - 1) (y - 1)))) else v
  let v := if _ : 0 < y then
    add v (sixteenths 5 (residue (pulled width gray x (y - 1)))) else v
  let v := if _ : x + 1 < width ∧ 0 < y then
    add v (sixteenths 3 (residue (pulled width gray (x + 1) (y - 1)))) else v
  if _ : 0 < x then
    add v (sixteenths 7 (residue (pulled width gray (x - 1) y))) else v
termination_by (y, x)

/-- Pull a share of the error of dot `(x, y)`, if it is there and among the first `n` dots. -/
def pull (width : Nat) (gray : Nat → Nat → α) (n : Nat) (inside : Prop) [Decidable inside]
    (k x y : Nat) (v : α) : α :=
  if inside ∧ y * width + x < n then add v (sixteenths k (residue (pulled width gray x y))) else v

/-- The value of a dot before its turn, when the first `n` dots have had theirs. -/
def arrived (width : Nat) (gray : Nat → Nat → α) (n x y : Nat) : α :=
  pull width gray n (0 < x) 7 (x - 1) y <|
  pull width gray n (x + 1 < width ∧ 0 < y) 3 (x + 1) (y - 1) <|
  pull width gray n (0 < y) 5 x (y - 1) <|
  pull width gray n (0 < x ∧ 0 < y) 1 (x - 1) (y - 1) (gray x y)

variable {width height : Nat} {gray : Nat → Nat → α}

/-! ### The order of arrival -/

theorem arrived_zero (x y : Nat) : arrived width gray 0 x y = gray x y := by
  simp [arrived, pull]

/-- When its turn comes, all that a dot pulls has arrived. -/
theorem arrived_self {x : Nat} (hx : x < width) (y : Nat) :
    arrived width gray (y * width + x) x y = pulled width gray x y := by
  have habove : 0 < y → (y - 1) * width + width = y * width := fun hy => by
    rw [← Nat.succ_mul, Nat.succ_eq_add_one, Nat.sub_add_cancel hy]
  have h1 : (0 < x ∧ 0 < y) ∧ (y - 1) * width + (x - 1) < y * width + x ↔ 0 < x ∧ 0 < y := by
    constructor
    · exact And.left
    · intro h; have := habove h.2; omega
  have h5 : 0 < y ∧ (y - 1) * width + x < y * width + x ↔ 0 < y := by
    constructor
    · exact And.left
    · intro h; have := habove h; omega
  have h3 : (x + 1 < width ∧ 0 < y) ∧ (y - 1) * width + (x + 1) < y * width + x ↔
      x + 1 < width ∧ 0 < y := by
    constructor
    · exact And.left
    · intro h; have := habove h.2; omega
  have h7 : 0 < x ∧ y * width + (x - 1) < y * width + x ↔ 0 < x := by omega
  rw [pulled]
  simp only [arrived, pull, h1, h5, h3, h7, dite_eq_ite]

/-- The value of a dot after dot `(a, b)` has handed on its error `e`. -/
def handed (a b : Nat) (e : α) (x y : Nat) (v : α) : α :=
  if x = a + 1 ∧ y = b then add v (sixteenths 7 e)
  else if x + 1 = a ∧ y = b + 1 then add v (sixteenths 3 e)
  else if x = a ∧ y = b + 1 then add v (sixteenths 5 e)
  else if x = a + 1 ∧ y = b + 1 then add v (sixteenths 1 e)
  else v

/-- A share is still to come as long as its dot has not had its turn. -/
theorem pull_of_le {n x y : Nat} {inside : Prop} [Decidable inside] (k : Nat)
    (h : inside → n ≤ y * width + x) (v : α) : pull width gray n inside k x y v = v :=
  if_neg fun hi => Nat.not_le_of_lt hi.2 (h hi.1)

/-- One more dot has its turn: that matters only where it is the dot that is pulled from. -/
theorem pull_succ {a b x y : Nat} {inside : Prop} [Decidable inside] (ha : a < width)
    (hx : inside → x < width) (k : Nat) (v : α) :
    pull width gray (b * width + a + 1) inside k x y v =
      if inside ∧ x = a ∧ y = b then add v (sixteenths k (residue (pulled width gray a b)))
      else pull width gray (b * width + a) inside k x y v := by
  by_cases hi : inside
  · by_cases h : x = a ∧ y = b
    · obtain ⟨rfl, rfl⟩ := h
      simp [pull, hi]
    · have hne : y * width + x ≠ b * width + a := fun he =>
        h (Canvas.index_inj (hx hi) ha he).symm
      have hlt : y * width + x < b * width + a + 1 ↔ y * width + x < b * width + a := by omega
      simp [pull, hlt, h]
  · simp [pull, hi]

/-- **One dot has its turn**, and its error arrives at its four neighbours. -/
theorem arrived_succ {a b x : Nat} (ha : a < width) (hx : x < width) (y : Nat) :
    arrived width gray (b * width + a + 1) x y =
      handed a b (residue (pulled width gray a b)) x y
        (arrived width gray (b * width + a) x y) := by
  have hbelow : (b + 1) * width = b * width + width := Nat.succ_mul b width
  have c7 : 0 < x ∧ x - 1 = a ∧ y = b ↔ x = a + 1 ∧ y = b := by omega
  have c3 : (x + 1 < width ∧ 0 < y) ∧ x + 1 = a ∧ y - 1 = b ↔ x + 1 = a ∧ y = b + 1 := by omega
  have c5 : 0 < y ∧ x = a ∧ y - 1 = b ↔ x = a ∧ y = b + 1 := by omega
  have c1 : (0 < x ∧ 0 < y) ∧ x - 1 = a ∧ y - 1 = b ↔ x = a + 1 ∧ y = b + 1 := by omega
  simp only [arrived, handed]
  rw [pull_succ ha fun h => by omega, pull_succ ha fun h => by omega,
    pull_succ ha fun h => by omega, pull_succ ha fun h => by omega]
  simp only [c7, c3, c5, c1]
  -- Shares arrive in the order in which they are pulled: those after the new one are still to come.
  by_cases h7 : x = a + 1 ∧ y = b
  · have h3 : ¬(x + 1 = a ∧ y = b + 1) := by omega
    have h5 : ¬(x = a ∧ y = b + 1) := by omega
    have h1 : ¬(x = a + 1 ∧ y = b + 1) := by omega
    simp only [if_pos h7, if_neg h3, if_neg h5, if_neg h1]
    obtain ⟨rfl, rfl⟩ := h7
    rw [pull_of_le 7 fun _ => by omega]
  by_cases h3 : x + 1 = a ∧ y = b + 1
  · have h5 : ¬(x = a ∧ y = b + 1) := by omega
    have h1 : ¬(x = a + 1 ∧ y = b + 1) := by omega
    simp only [if_pos h3, if_neg h7, if_neg h5, if_neg h1]
    obtain ⟨rfl, rfl⟩ := h3
    rw [pull_of_le 7 fun _ => by omega, pull_of_le 7 fun _ => by omega, Nat.add_sub_cancel,
      pull_of_le 3 fun _ => by omega]
  by_cases h5 : x = a ∧ y = b + 1
  · have h1 : ¬(x = a + 1 ∧ y = b + 1) := by omega
    simp only [if_pos h5, if_neg h7, if_neg h3, if_neg h1]
    obtain ⟨rfl, rfl⟩ := h5
    rw [Nat.add_sub_cancel, pull_of_le 7 fun _ => by omega, pull_of_le 7 fun _ => by omega,
      pull_of_le 3 fun _ => by omega, pull_of_le 3 fun _ => by omega,
      pull_of_le 5 fun _ => by omega]
  by_cases h1 : x = a + 1 ∧ y = b + 1
  · simp only [if_pos h1, if_neg h7, if_neg h3, if_neg h5]
    obtain ⟨rfl, rfl⟩ := h1
    rw [Nat.add_sub_cancel, Nat.add_sub_cancel,
      pull_of_le 7 fun _ => by omega, pull_of_le 7 fun _ => by omega,
      pull_of_le 3 fun _ => by omega, pull_of_le 3 fun _ => by omega,
      pull_of_le 5 fun _ => by omega, pull_of_le 5 fun _ => by omega,
      pull_of_le 1 fun _ => by omega]
  simp only [if_neg h7, if_neg h3, if_neg h5, if_neg h1]

/-! ### The scan -/

theorem getElem?_spread (inside : Bool) (i j : Nat) (share : α) (a : Array α) :
    (spread inside i share a)[j]? =
      if inside = true ∧ i = j then a[j]?.map (add · share) else a[j]? := by
  unfold spread
  by_cases hi : inside = true
  · simp only [hi, if_true, Array.getElem?_modify, true_and]
  · simp only [hi, if_false, false_and, Bool.false_eq_true]

theorem index_eq_iff {x x' : Nat} (hx : x < width) (hx' : x' < width) (y y' : Nat) :
    y' * width + x' = y * width + x ↔ x = x' ∧ y = y' := by
  constructor
  · intro h
    exact (Canvas.index_inj hx hx' h.symm).symm
  · rintro ⟨rfl, rfl⟩
    rfl

/-- **The error of one dot is handed on** to its neighbours, and no row runs into the next. -/
theorem getElem?_spreadError {a b x y : Nat} (ha : a < width) (hx : x < width) (hy : y < height)
    (e : α) (pixels : Array α) :
    (spreadError width height a b e pixels)[y * width + x]? =
      pixels[y * width + x]?.map (handed a b e x y) := by
  have hbelow : (b + 1) * width = b * width + width := Nat.succ_mul b width
  have c7 : decide (a + 1 < width) = true ∧ b * width + a + 1 = y * width + x ↔
      x = a + 1 ∧ y = b := by
    rw [decide_eq_true_iff, Nat.add_assoc]
    constructor
    · rintro ⟨hr, h⟩
      exact (index_eq_iff hx hr y b).1 h
    · rintro ⟨rfl, rfl⟩
      exact ⟨hx, rfl⟩
  have c3 : (decide (b + 1 < height) && decide (0 < a)) = true ∧
      b * width + a + width - 1 = y * width + x ↔ x + 1 = a ∧ y = b + 1 := by
    rw [Bool.and_eq_true, decide_eq_true_iff, decide_eq_true_iff]
    constructor
    · rintro ⟨⟨-, hl⟩, h⟩
      have h' : (b + 1) * width + (a - 1) = y * width + x := by omega
      have := (index_eq_iff hx (by omega) y (b + 1)).1 h'
      omega
    · rintro ⟨rfl, rfl⟩
      omega
  have c5 : decide (b + 1 < height) = true ∧ b * width + a + width = y * width + x ↔
      x = a ∧ y = b + 1 := by
    rw [decide_eq_true_iff]
    constructor
    · rintro ⟨-, h⟩
      exact (index_eq_iff hx ha y (b + 1)).1 (by omega)
    · rintro ⟨rfl, rfl⟩
      omega
  have c1 : (decide (b + 1 < height) && decide (a + 1 < width)) = true ∧
      b * width + a + width + 1 = y * width + x ↔ x = a + 1 ∧ y = b + 1 := by
    rw [Bool.and_eq_true, decide_eq_true_iff, decide_eq_true_iff]
    constructor
    · rintro ⟨⟨-, hr⟩, h⟩
      exact (index_eq_iff hx hr y (b + 1)).1 (by omega)
    · rintro ⟨rfl, rfl⟩
      omega
  simp only [spreadError, getElem?_spread, c7, c3, c5, c1]
  -- No dot is two of the neighbours at once.
  cases pixels[y * width + x]? with
  | none => simp
  | some v =>
    simp only [Option.map_some, handed]
    split_ifs <;> first | rfl | omega

/-- **One step of the scan.** -/
theorem getElem?_ditherStep {a b x y : Nat} {pixels : Array α} {v : α} (ha : a < width)
    (hx : x < width) (hy : y < height) (hv : pixels[b * width + a]? = some v) :
    (ditherStep width height pixels a b)[y * width + x]? =
      if x = a ∧ y = b then some (quantise v)
      else pixels[y * width + x]?.map (handed a b (residue v) x y) := by
  have hbound : b * width + a < pixels.size := (Array.getElem?_eq_some_iff.1 hv).1
  simp only [ditherStep, hv]
  rw [getElem?_spreadError ha hx hy, Array.getElem?_setIfInBounds]
  by_cases h : x = a ∧ y = b
  · obtain ⟨rfl, rfl⟩ := h
    have hkeep : handed x y (sub v (quantise v)) x y (quantise v) = quantise v := by
      simp [handed]
    rw [if_pos rfl, if_pos hbound, if_pos ⟨rfl, rfl⟩, Option.map_some, hkeep]
  · rw [if_neg (fun hi => h ((index_eq_iff hx ha y b).1 hi)), if_neg h]
    rfl

/-- Dots that had their turn get nothing more. -/
theorem handed_of_lt {a b x y : Nat} (ha : a < width) (h : y * width + x < b * width + a)
    (e v : α) : handed a b e x y v = v := by
  have hbelow : (b + 1) * width = b * width + width := Nat.succ_mul b width
  have h7 : ¬(x = a + 1 ∧ y = b) := by rintro ⟨rfl, rfl⟩; omega
  have hy : y ≠ b + 1 := by rintro rfl; omega
  rw [handed, if_neg h7, if_neg fun h => hy h.2, if_neg fun h => hy h.2, if_neg fun h => hy h.2]

theorem index_div {a : Nat} (ha : a < width) (b : Nat) : (b * width + a) / width = b := by
  rw [Nat.mul_comm, Nat.mul_add_div (Nat.zero_lt_of_lt ha), Nat.div_eq_of_lt ha, Nat.add_zero]

theorem index_mod {a : Nat} (ha : a < width) (b : Nat) : (b * width + a) % width = a := by
  rw [Nat.mul_comm, Nat.mul_add_mod, Nat.mod_eq_of_lt ha]

theorem ditherUpTo_succ {a : Nat} (ha : a < width) (b height : Nat) (pixels : Array α) :
    ditherUpTo width height (b * width + a + 1) pixels =
      ditherStep width height (ditherUpTo width height (b * width + a) pixels) a b := by
  unfold ditherUpTo
  rw [Nat.fold_succ, index_div ha, index_mod ha]

/-- **The picture during the scan**: dots that had their turn are quantised, and to the others the
errors of those before have arrived. -/
theorem getElem?_ditherUpTo {pixels : Array α} {n x y : Nat}
    (hgray : ∀ x < width, ∀ y < height, pixels[y * width + x]? = some (gray x y))
    (hn : n ≤ width * height) (hx : x < width) (hy : y < height) :
    (ditherUpTo width height n pixels)[y * width + x]? =
      some (if y * width + x < n then quantise (pulled width gray x y)
        else arrived width gray n x y) := by
  induction n generalizing x y with
  | zero =>
    rw [if_neg (Nat.not_lt_zero _), arrived_zero]
    exact hgray x hx y hy
  | succ n ih =>
    obtain ⟨a, b, ha, hb, rfl⟩ : ∃ a b, a < width ∧ b < height ∧ n = b * width + a :=
      ⟨n % width, n / width, Nat.mod_lt n (Nat.zero_lt_of_lt hx), Nat.div_lt_of_lt_mul hn,
        (Nat.div_add_mod' n width).symm⟩
    have hturn := ih (Nat.le_of_lt hn) ha hb
    rw [if_neg (Nat.lt_irrefl _), arrived_self ha] at hturn
    rw [ditherUpTo_succ ha, getElem?_ditherStep ha hx hy hturn, ih (Nat.le_of_lt hn) hx hy,
      Option.map_some]
    rcases Nat.lt_trichotomy (y * width + x) (b * width + a) with hlt | heq | hgt
    · have hne : ¬(x = a ∧ y = b) := by rintro ⟨rfl, rfl⟩; omega
      rw [if_neg hne, if_pos hlt, if_pos (by omega), handed_of_lt ha hlt]
    · obtain ⟨rfl, rfl⟩ := (index_eq_iff hx ha y b).1 heq.symm
      rw [if_pos ⟨rfl, rfl⟩, if_pos (by omega)]
    · have hne : ¬(x = a ∧ y = b) := by rintro ⟨rfl, rfl⟩; omega
      rw [if_neg hne, if_neg (by omega), if_neg (by omega), arrived_succ ha hx]

theorem index_lt {x y : Nat} (hx : x < width) (hy : y < height) :
    y * width + x < width * height := by
  have := Nat.mul_le_mul_right width (Nat.succ_le_of_lt hy)
  rw [Nat.succ_mul, Nat.mul_comm height] at this
  omega

/-- **After the scan** each dot is its quantised pulled value. -/
theorem getElem?_dither {pixels : Array α} {x y : Nat}
    (hgray : ∀ x < width, ∀ y < height, pixels[y * width + x]? = some (gray x y))
    (hx : x < width) (hy : y < height) :
    (dither width height pixels)[y * width + x]? = some (quantise (pulled width gray x y)) := by
  rw [dither, getElem?_ditherUpTo hgray (Nat.le_refl _) hx hy, if_pos (index_lt hx hy)]

theorem isLight_quantise [LawfulGrayArithmetic α] (v : α) : isLight (quantise v) = !isDark v := by
  unfold quantise
  cases hv : isDark v with
  | false => simpa using LawfulGrayArithmetic.isLight_white
  | true => simpa using LawfulGrayArithmetic.isLight_black

/-- A diffused picture is white where the pulled value is not dark. -/
theorem packGray_diffused [LawfulGrayArithmetic α] {pixels : Array α}
    (hgray : ∀ x < width, ∀ y < height, pixels[y * width + x]? = some (gray x y)) :
    packGray pixels width height true =
      packRows width height fun x y => !isDark (pulled width gray x y) := by
  refine packRows_congr fun x hx y hy => ?_
  simp only [if_true]
  rw [getElem?_dither hgray hx hy, Option.map_some, Option.getD_some, isLight_quantise]

/-- Is the dot white in the packed bitmap, with or without diffusion? -/
def whiteAt (width : Nat) (gray : Nat → Nat → α) (diffuse : Bool) (x y : Nat) : Bool :=
  if diffuse then !isDark (pulled width gray x y) else isLight (gray x y)

/-- **A picture as a packed bitmap**, dot by dot. -/
theorem toMono_eq_packRows [LawfulGrayArithmetic α] {pixels : Array α} (hwidth : 0 < width)
    (hheight : 0 < height) (hsize : pixels.size = width * height)
    (hgray : ∀ x < width, ∀ y < height, pixels[y * width + x]? = some (gray x y))
    (diffuse : Bool) :
    toMono pixels width height diffuse =
      .ok (packRows width height (whiteAt width gray diffuse)) := by
  have hempty : ¬((width : Int) ≤ 0 ∨ (height : Int) ≤ 0) := by omega
  have hcount : ¬((pixels.size : Int) ≠ width * height) := by
    rw [hsize]
    push_cast
    exact not_not_intro rfl
  rw [toMono, if_neg hempty, if_neg hcount, Int.toNat_natCast, Int.toNat_natCast]
  cases diffuse with
  | true =>
    rw [packGray_diffused hgray]
    rfl
  | false =>
    have hrows : packGray pixels width height false =
        packRows width height (whiteAt width gray false) := by
      refine packRows_congr fun x hx y hy => ?_
      simp only [Bool.false_eq_true, if_false]
      rw [hgray x hx y hy]
      rfl
    rw [hrows]

theorem pull_congr {gray gray' : Nat → Nat → α} {n k x y : Nat} {inside : Prop} [Decidable inside]
    (h : inside → pulled width gray x y = pulled width gray' x y) {v v' : α} (hv : v = v') :
    pull width gray n inside k x y v = pull width gray' n inside k x y v' := by
  unfold pull
  subst hv
  by_cases hi : inside
  · rw [h hi]
  · rw [if_neg fun h => hi h.1, if_neg fun h => hi h.1]

/-- Errors are handed downwards only: what a dot pulls depends on no row below it. -/
theorem pulled_congr {gray gray' : Nat → Nat → α} {x y : Nat} (hx : x < width)
    (h : ∀ i < width, ∀ j ≤ y, gray i j = gray' i j) :
    pulled width gray x y = pulled width gray' x y := by
  have h1 (hp : 0 < x ∧ 0 < y) :
      pulled width gray (x - 1) (y - 1) = pulled width gray' (x - 1) (y - 1) :=
    pulled_congr (by omega) fun i hi j hj => h i hi j (by omega)
  have h5 (hp : 0 < y) : pulled width gray x (y - 1) = pulled width gray' x (y - 1) :=
    pulled_congr hx fun i hi j hj => h i hi j (by omega)
  have h3 (hp : x + 1 < width ∧ 0 < y) :
      pulled width gray (x + 1) (y - 1) = pulled width gray' (x + 1) (y - 1) :=
    pulled_congr hp.1 fun i hi j hj => h i hi j (by omega)
  have h7 (hp : 0 < x) : pulled width gray (x - 1) y = pulled width gray' (x - 1) y :=
    pulled_congr (by omega) h
  have harrived : arrived width gray (y * width + x) x y =
      arrived width gray' (y * width + x) x y :=
    pull_congr h7 (pull_congr h3 (pull_congr h5 (pull_congr h1 (h x hx y (Nat.le_refl y)))))
  rw [arrived_self hx, arrived_self hx] at harrived
  exact harrived
termination_by (y, x)

end

/-! ### Measures -/

/-- Diffusion can reckon with a measure: it is a double or has a nearest one. -/
def Measure.Reckonable (m : Measure) : Prop := ∃ v, m.toFloat? = .ok v

theorem Measure.reckonable_whole {n : Int} (hn : Binary64.isFinite n = true) :
    (whole n).Reckonable :=
  ⟨Binary64.toFloat n, by rw [toFloat?, ofInt?, if_pos hn]⟩

theorem Measure.toFloat?_of_not_reckonable {m : Measure} (h : ¬m.Reckonable) :
    m.toFloat? = .error .integerTooLarge := by
  cases m with
  | real v => exact absurd ⟨v, rfl⟩ h
  | whole n =>
    have hn : ¬Binary64.isFinite n = true := fun hn => h (reckonable_whole hn)
    rw [toFloat?, ofInt?, if_neg hn]

/-- The check of one measure after the other. -/
def checkReckonable (measures : List Measure) : Except MonoError Unit :=
  forIn measures () fun m _ => do
    let _ ← m.toFloat?.mapError MonoError.reckoning
    pure (ForInStep.yield ())

theorem checkReckonable_cons (m : Measure) (measures : List Measure) :
    checkReckonable (m :: measures) =
      (m.toFloat?.mapError MonoError.reckoning).bind fun _ => checkReckonable measures := by
  unfold checkReckonable
  rw [List.forIn_cons]
  cases m.toFloat? <;> rfl

theorem checkReckonable_of_forall {measures : List Measure} (h : ∀ m ∈ measures, m.Reckonable) :
    checkReckonable measures = .ok () := by
  induction measures with
  | nil => rfl
  | cons m measures ih =>
    obtain ⟨v, hv⟩ := h m List.mem_cons_self
    rw [checkReckonable_cons, hv]
    exact ih fun n hn => h n (List.mem_cons_of_mem m hn)

theorem checkReckonable_of_exists {measures : List Measure}
    (h : ¬∀ m ∈ measures, m.Reckonable) :
    checkReckonable measures = .error (.reckoning .integerTooLarge) := by
  induction measures with
  | nil => exact absurd (by simp) h
  | cons m measures ih =>
    rw [checkReckonable_cons]
    by_cases hm : m.Reckonable
    · obtain ⟨v, hv⟩ := hm
      rw [hv]
      refine ih fun hall => h ?_
      rintro n (_ | ⟨_, hn⟩)
      · exact ⟨v, hv⟩
      · exact hall n hn
    · rw [Measure.toFloat?_of_not_reckonable hm]
      rfl

theorem toMonoOfMeasures_true (measures : Array Measure) (width height : Int) :
    toMonoOfMeasures measures width height true =
      (toMono (measures.map Measure.toFloat) width height true).bind fun bitmap =>
        (checkReckonable measures.toList).bind fun _ => .ok bitmap := by
  unfold toMonoOfMeasures
  simp only [if_true]
  rw [← Array.forIn_toList]
  rfl

/-- The double at a place of a picture of measures. -/
def doubleAt (measures : Array Measure) (width x y : Nat) : Float :=
  (measures[y * width + x]?.map Measure.toFloat).getD 0

theorem getElem?_doubles {measures : Array Measure} {width height : Nat}
    (hsize : measures.size = width * height) :
    ∀ x < width, ∀ y < height,
      (measures.map Measure.toFloat)[y * width + x]? = some (doubleAt measures width x y) := by
  intro x hx y hy
  have hlt := index_lt hx hy
  rw [← hsize] at hlt
  simp [doubleAt, hlt]

/-- A picture of measures, diffused. -/
theorem toMono_doubles {measures : Array Measure} {width height : Nat} (hwidth : 0 < width)
    (hheight : 0 < height) (hsize : measures.size = width * height) :
    toMono (measures.map Measure.toFloat) width height true =
      .ok (packRows width height fun x y =>
        !isDark (pulled width (doubleAt measures width) x y)) := by
  have hcount : (measures.map Measure.toFloat).size = width * height := by
    rw [Array.size_map, hsize]
  exact toMono_eq_packRows hwidth hheight hcount (getElem?_doubles hsize) true

/-- **Pushing errors and pulling them give the same bitmap.** The picture is refused only if one of
its whole numbers exceeds every double. Otherwise there are as many bytes as the rows need, and a
bit is set exactly if its dot is inside the picture and the pulled value is not below the middle. -/
theorem toMonoOfMeasures_eq_pulled (measures : Array Measure) {width height : Nat}
    (hwidth : 0 < width) (hheight : 0 < height) (hsize : measures.size = width * height) :
    (¬(∀ m ∈ measures, m.Reckonable) → toMonoOfMeasures measures width height true =
      .error (.reckoning .integerTooLarge)) ∧
    ((∀ m ∈ measures, m.Reckonable) →
      ∃ bitmap, toMonoOfMeasures measures width height true = .ok bitmap ∧
        bitmap.length = (width + 7) / 8 * height ∧
        ∀ y < height, ∀ x < 8 * ((width + 7) / 8),
          ∃ byte, bitmap[y * ((width + 7) / 8) + x / 8]? = some byte ∧
            (byte.toNat.testBit (7 - x % 8) = true ↔
              x < width ∧ ¬pulled width (doubleAt measures width) x y < 128)) := by
  have hmono := toMono_doubles hwidth hheight hsize
  rw [toMonoOfMeasures_true, hmono]
  constructor
  · intro h
    rw [checkReckonable_of_exists (by simpa using h)]
    rfl
  · intro h
    rw [checkReckonable_of_forall (by simpa using h)]
    refine ⟨_, rfl, ?_, fun y hy x hx => ?_⟩
    · rw [length_packRows, Nat.mul_comm]
    · obtain ⟨byte, hbyte, hbit⟩ := testBit_packRows hy hx
        fun x y => !isDark (pulled width (doubleAt measures width) x y)
      refine ⟨byte, hbyte, ?_⟩
      rw [hbit]
      simp [isDark]

/-- Two columns, where errors go to the right and to the lower left. -/
theorem toMonoOfMeasures_eq_pulled_two_columns :
    (∀ m ∈ #[.real 100, .whole 150, .real 200, .whole 40], Measure.Reckonable m) ∧
      ∃ bitmap, toMonoOfMeasures #[.real 100, .whole 150, .real 200, .whole 40] 2 2 true =
          .ok bitmap ∧
        bitmap.length = (2 + 7) / 8 * 2 ∧
        ∀ y < 2, ∀ x < 8 * ((2 + 7) / 8), ∃ byte, bitmap[y * ((2 + 7) / 8) + x / 8]? = some byte ∧
          (byte.toNat.testBit (7 - x % 8) = true ↔ x < 2 ∧
            ¬pulled 2 (doubleAt #[.real 100, .whole 150, .real 200, .whole 40] 2) x y < 128) := by
  have hall : ∀ m ∈ #[.real 100, .whole 150, .real 200, .whole 40], Measure.Reckonable m := by
    have h150 : Binary64.isFinite ((150 : Int) : Rat) = true := by decide +kernel
    have h40 : Binary64.isFinite ((40 : Int) : Rat) = true := by decide +kernel
    intro m hm
    simp only [List.mem_toArray, List.mem_cons, List.not_mem_nil, or_false] at hm
    rcases hm with rfl | rfl | rfl | rfl
    · exact ⟨100, rfl⟩
    · exact Measure.reckonable_whole h150
    · exact ⟨200, rfl⟩
    · exact Measure.reckonable_whole h40
  refine ⟨hall, ?_⟩
  exact (@toMonoOfMeasures_eq_pulled #[.real 100, .whole 150, .real 200, .whole 40] 2 2
    (by decide) (by decide) rfl).2 hall

end LabelPress
