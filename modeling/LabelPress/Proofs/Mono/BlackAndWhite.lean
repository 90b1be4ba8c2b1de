import LabelPress.Proofs.Mono.Diffusion

/-! # Pure black and white

A dot of pure black or pure white is quantised to itself and has no error to hand on: what it hands
on is a zero, and doubles do not change when a zero is added. So diffusion leaves a picture of pure
black and white alone, and its bitmap is the one that the threshold gives.

* `pulled_eq_gray`: where no error changes a dot, no dot changes.
* `whiteAt_of_pure`: in pure black and white a dot is white in the bitmap if it is white.
* `purePixels`, `toMono_purePixels`: a matrix of black and white, packed. -/

namespace LabelPress

open GrayArithmetic

/-! ### Nothing to diffuse -/

/-- **Where no error changes a dot, no dot changes.** -/
theorem pulled_eq_gray {α : Type} [GrayArithmetic α] {gray : Nat → Nat → α}
    (h : ∀ k ∈ [1, 3, 5, 7], ∀ x y x' y',
      add (gray x y) (sixteenths k (residue (gray x' y'))) = gray x y) (width x y : Nat) :
    pulled width gray x y = gray x y := by
  have hshare (inside : Prop) [Decidable inside] (k : Nat) (hk : k ∈ [1, 3, 5, 7]) (x' y' : Nat)
      (hbefore : inside → pulled width gray x' y' = gray x' y') :
      (if _ : inside then add (gray x y) (sixteenths k (residue (pulled width gray x' y')))
        else gray x y) = gray x y := by
    split_ifs with hin
    · rw [hbefore hin, h k hk]
    · rfl
  -- The dots before hand on the errors of their own gray values.
  have habove : 0 < x ∧ 0 < y → pulled width gray (x - 1) (y - 1) = gray (x - 1) (y - 1) :=
    fun _ => pulled_eq_gray h width (x - 1) (y - 1)
  have hover : 0 < y → pulled width gray x (y - 1) = gray x (y - 1) :=
    fun _ => pulled_eq_gray h width x (y - 1)
  have hright : x + 1 < width ∧ 0 < y → pulled width gray (x + 1) (y - 1) = gray (x + 1) (y - 1) :=
    fun _ => pulled_eq_gray h width (x + 1) (y - 1)
  have hleft : 0 < x → pulled width gray (x - 1) y = gray (x - 1) y :=
    fun _ => pulled_eq_gray h width (x - 1) y
  rw [pulled]
  rw [hshare _ 1 (by decide) _ _ habove, hshare _ 5 (by decide) _ _ hover,
    hshare _ 3 (by decide) _ _ hright, hshare _ 7 (by decide) _ _ hleft]
termination_by (y, x)

theorem residue_of_pure {v : Float} (h : v = 0 ∨ v = 255) : residue v = 0 := by
  rcases h with rfl | rfl
  · decide +kernel
  · decide +kernel

theorem add_zero_of_pure {v : Float} (h : v = 0 ∨ v = 255) {k : Nat} (hk : k ∈ [1, 3, 5, 7]) :
    add v (sixteenths k 0) = v := by
  have hall : ∀ k ∈ [1, 3, 5, 7], add (0 : Float) (sixteenths k 0) = 0 ∧
      add (255 : Float) (sixteenths k 0) = 255 := by decide +kernel
  rcases h with rfl | rfl
  · exact (hall k hk).1
  · exact (hall k hk).2

theorem whiteAt_of_pure {gray : Nat → Nat → Float} (h : ∀ x y, gray x y = 0 ∨ gray x y = 255)
    (width : Nat) (diffuse : Bool) (x y : Nat) :
    whiteAt width gray diffuse x y = isLight (gray x y) := by
  have hpulled : pulled width gray x y = gray x y := by
    refine pulled_eq_gray (fun k hk x y x' y' => ?_) width x y
    rw [residue_of_pure (h x' y'), add_zero_of_pure (h x y) hk]
  have hdark : (!isDark (0 : Float)) = isLight (0 : Float) ∧
      (!isDark (255 : Float)) = isLight (255 : Float) := by decide +kernel
  unfold whiteAt
  split_ifs
  · rw [hpulled]
    rcases h x y with hv | hv
    · rw [hv]
      exact hdark.1
    · rw [hv]
      exact hdark.2
  · rfl

/-! ### Matrices -/

/-- The gray values of a matrix, row by row: white where it is true, black elsewhere. -/
def purePixels (width height : Nat) (white : Nat → Nat → Bool) : Array Float :=
  (Array.range (width * height)).map fun i => if white (i % width) (i / width) then 255 else 0

theorem getElem?_purePixels {width height x y : Nat} (white : Nat → Nat → Bool) (hx : x < width)
    (hy : y < height) :
    (purePixels width height white)[y * width + x]? = some (if white x y then 255 else 0) := by
  have hlt := index_lt hx hy
  simp [purePixels, hlt, index_div hx, index_mod hx]

/-- **A matrix of black and white is packed as it is**, with and without diffusion. -/
theorem toMono_purePixels {width height : Nat} (hwidth : 0 < width) (hheight : 0 < height)
    (white : Nat → Nat → Bool) (diffuse : Bool) :
    toMono (purePixels width height white) width height diffuse =
      .ok (packRows width height white) := by
  have hsize : (purePixels width height white).size = width * height := by
    simp [purePixels]
  have hpure (x y : Nat) : (if white x y then (255 : Float) else 0) = 0 ∨
      (if white x y then (255 : Float) else 0) = 255 := by
    split_ifs
    · exact Or.inr rfl
    · exact Or.inl rfl
  have hlight : isLight (255 : Float) = true ∧ isLight (0 : Float) = false := by decide +kernel
  rw [toMono_eq_packRows hwidth hheight hsize
    (fun x hx y hy => getElem?_purePixels white hx hy) diffuse]
  refine congrArg Except.ok (packRows_congr fun x _ y _ => ?_)
  rw [whiteAt_of_pure hpure]
  cases white x y with
  | true => exact hlight.1
  | false => exact hlight.2

end LabelPress
