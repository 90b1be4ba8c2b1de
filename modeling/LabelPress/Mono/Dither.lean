/-!
# Error diffusion

A gray picture is reduced to black and white in reading order. Each dot becomes the nearer of black
and white, and its error goes to the neighbours not yet reached: seven sixteenths to the right, and
three, five and one sixteenth to the dots below left, below and below right.

* `ditherStep`: one dot.
* `dither`: all dots, in reading order.
* `size_dither`: the number of dots stays the same.

The arithmetic is a parameter, so that what is said about diffusion holds for doubles and for any
other numbers alike.
-/

namespace LabelPress

/-- The arithmetic that error diffusion needs. -/
class GrayArithmetic (α : Type) where
  /-- The value of black. -/
  black : α
  /-- The value of white. -/
  white : α
  /-- The sum. -/
  add : α → α → α
  /-- The difference. -/
  sub : α → α → α
  /-- So many sixteenths. -/
  sixteenths : Nat → α → α
  /-- Below the middle between black and white. -/
  isDark : α → Bool
  /-- At or above the middle between black and white. -/
  isLight : α → Bool

/-- Doubles: multiplied first and divided then; what is no number is neither dark nor light. -/
instance : GrayArithmetic Float where
  black := 0
  white := 255
  add := (· + ·)
  sub := (· - ·)
  sixteenths k e := e * Float.ofNat k / 16
  isDark v := decide (v < 128)
  isLight v := decide (128 ≤ v)

section
variable {α : Type} [GrayArithmetic α]
open GrayArithmetic

/-- Black for a dark value, white for any other. -/
def quantise (v : α) : α := if isDark v then black else white

/-- Add a share of an error to a dot, if there is such a dot. -/
def spread (inside : Bool) (i : Nat) (share : α) (gray : Array α) : Array α :=
  if inside then gray.modify i (add · share) else gray

/-- Hand the error of dot `(x, y)` to its neighbours to the right and below, as far as there are
any. -/
@[specialize]
def spreadError (width height x y : Nat) (error : α) (gray : Array α) : Array α :=
  let i := y * width + x
  let right := decide (x + 1 < width)
  let below := decide (y + 1 < height)
  let gray := spread right (i + 1) (sixteenths 7 error) gray
  let gray := spread (below && decide (0 < x)) (i + width - 1) (sixteenths 3 error) gray
  let gray := spread below (i + width) (sixteenths 5 error) gray
  spread (below && right) (i + width + 1) (sixteenths 1 error) gray

/-- **One dot**: quantise it and hand its error on. -/
@[specialize]
def ditherStep (width height : Nat) (gray : Array α) (x y : Nat) : Array α :=
  let i := y * width + x
  match gray[i]? with
  | none => gray
  | some old =>
    let new := quantise old
    spreadError width height x y (sub old new) (gray.setIfInBounds i new)

/-- The dots `0` to `n - 1` in reading order. -/
@[specialize]
def ditherUpTo (width height n : Nat) (gray : Array α) : Array α :=
  n.fold (fun i _ gray => ditherStep width height gray (i % width) (i / width)) gray

/-- **Error diffusion** over a whole picture. -/
@[specialize]
def dither (width height : Nat) (gray : Array α) : Array α :=
  ditherUpTo width height (width * height) gray

@[simp] theorem size_spread (inside : Bool) (i : Nat) (share : α) (gray : Array α) :
    (spread inside i share gray).size = gray.size := by
  unfold spread
  split <;> simp

@[simp] theorem size_ditherStep (width height : Nat) (gray : Array α) (x y : Nat) :
    (ditherStep width height gray x y).size = gray.size := by
  simp only [ditherStep]
  split <;> simp [spreadError]

@[simp] theorem size_dither (width height : Nat) (gray : Array α) :
    (dither width height gray).size = gray.size := by
  unfold dither ditherUpTo
  induction width * height with
  | zero => simp
  | succ n ih => rw [Nat.fold_succ, size_ditherStep, ih]

end

end LabelPress
