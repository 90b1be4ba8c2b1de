import LabelPress.Number.Binary64

/-!
# The shortest decimal of a double

A double is written with the fewest digits that read back as the same double; of two such numerals
the one nearer to it.

* `shortest`: the digits and the power of ten, for a positive rational on the grid.
* `readsBack`: what it means that a numeral stands for a grid point.
* `realText`: the text, positional from `10 ^ -4` to `10 ^ 16` and scientific elsewhere.
-/

namespace LabelPress.Binary64

/-- The power of ten above `q`: `10 ^ (k - 1) ≤ q < 10 ^ k`, for positive `q`. -/
def decimalPoint (q : Rat) : Int :=
  let k : Int := (Nat.toDigits 10 q.num.natAbs).length - (Nat.toDigits 10 q.den).length
  if q < (10 : Rat) ^ k then k else k + 1

/-- Does `m * 10 ^ e` read back as the grid point `q`? -/
def readsBack (q : Rat) (m : Nat) (e : Int) : Bool := nearest (m * (10 : Rat) ^ e) == q

/-- The numeral of `digits` digits that reads back as `q`, the nearer one of two. -/
def withDigits? (q : Rat) (digits : Nat) : Option (Nat × Int) :=
  let e := decimalPoint q - digits
  let below := (q / (10 : Rat) ^ e).floor.toNat
  let rest := q / (10 : Rat) ^ e - below
  let (near, far) := if rest ≤ 1 / 2 then (below, below + 1) else (below + 1, below)
  if readsBack q near e then some (near, e)
  else if readsBack q far e then some (far, e)
  else none

/-- **The shortest numeral of a positive grid point.** Seventeen digits always suffice. -/
def shortest (q : Rat) : Nat × Int :=
  ((List.range' 1 17).findSome? (withDigits? q)).getD (0, 0)

/-- Move zeros from the end of the digits into the power of ten. -/
def dropZeros (m : Nat) (e : Int) : Nat × Int :=
  if h : m ≠ 0 ∧ m % 10 = 0 then dropZeros (m / 10) (e + 1) else (m, e)
termination_by m
decreasing_by omega

/-- Digits with a point after the first `point` of them; a fraction has at least one digit. -/
def positional (digits : List Char) (point : Int) : List Char :=
  let zeros (n : Int) := List.replicate n.toNat '0'
  if point ≤ 0 then '0' :: '.' :: zeros (-point) ++ digits
  else
    let whole := digits.take point.toNat ++ zeros (point - digits.length)
    let fraction := digits.drop point.toNat
    whole ++ '.' :: (if fraction.isEmpty then ['0'] else fraction)

/-- Digits with a point after the first one, and an exponent of at least two digits. -/
def scientific (digits : List Char) (point : Int) : List Char :=
  let exponent := (Nat.toDigits 10 (point - 1).natAbs)
  let sign := if point - 1 < 0 then '-' else '+'
  let mantissa := match digits with
    | d :: rest@(_ :: _) => d :: '.' :: rest
    | ds => ds
  mantissa ++ 'e' :: sign :: (if exponent.length < 2 then '0' :: exponent else exponent)

/-- The text of a nonnegative rational on the grid. -/
def magnitudeText (q : Rat) : List Char :=
  if q = 0 then "0.0".toList
  else
    let (m, e) := shortest q
    let (m, e) := dropZeros m e
    let digits := Nat.toDigits 10 m
    let point := digits.length + e
    if -4 < point ∧ point ≤ 16 then positional digits point else scientific digits point

/-- **The text of a double.** -/
def realText (x : Float) : List Char :=
  if x.isNaN then "nan".toList
  else
    let sign := if x.toBits >>> 63 = 1 then ['-'] else []
    sign ++ match ofFloat? x with
      | none => "inf".toList
      | some q => magnitudeText (if q < 0 then -q else q)

theorem dropZeros_value (m : Nat) (e : Int) :
    ((dropZeros m e).1 : Rat) * (10 : Rat) ^ (dropZeros m e).2 = m * (10 : Rat) ^ e := by
  fun_induction dropZeros m e with
  | case1 m e h ih =>
    rw [ih]
    have hm : (m : Rat) = ((m / 10 : Nat) : Rat) * 10 := by
      have : m = m / 10 * 10 := by omega
      exact_mod_cast congrArg (Nat.cast (R := Rat)) this
    rw [hm, Rat.zpow_add_one (by decide), Rat.mul_assoc, Rat.mul_comm 10]
  | case2 => rfl

end LabelPress.Binary64
