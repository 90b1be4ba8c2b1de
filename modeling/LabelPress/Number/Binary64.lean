/-!
# The binary64 grid

A double is a rational number on a grid: 53 significant bits, no finer than `2 ^ -1074`. Where a
rule asks for "the double nearest to a quotient" the quotient is taken exactly, as a `Rat`, and
rounded to the grid once, ties to the even neighbour.

* `nearest`: the grid point nearest to a rational.
* `nearest_zero`, `roundHalfEven_intCast`: zero and the integers are left alone.
* `toFloat`, `ofFloat?`: the two directions between the grid and `Float`.
-/

namespace LabelPress.Binary64

/-- The integer nearest to `q`; of two equally near ones, the even one. -/
def roundHalfEven (q : Rat) : Int :=
  let below := q.floor
  let rest := q - below
  if rest < 1 / 2 then below
  else if 1 / 2 < rest then below + 1
  else if below % 2 = 0 then below else below + 1

/-- The integer part of `q`, dropping the fraction: rounding toward zero. -/
def truncate (q : Rat) : Int := if q < 0 then q.ceil else q.floor

/-- The largest `k` with `2 ^ k ≤ |q|`, for `q` other than zero. -/
def floorLog2 (q : Rat) : Int :=
  let k : Int := (Nat.log2 q.num.natAbs : Int) - (Nat.log2 q.den : Int)
  if (q.num.natAbs : Rat) / (q.den : Rat) < (2 : Rat) ^ k then k - 1 else k

/-- The exponent of the grid around `q`: neighbouring doubles differ by `2 ^ gridExponent q`. -/
def gridExponent (q : Rat) : Int := max (floorLog2 q - 52) (-1074)

/-- **The grid point nearest to `q`**, ties to even, without an upper limit. -/
def nearest (q : Rat) : Rat :=
  if q = 0 then 0 else
    let e := gridExponent q
    roundHalfEven (q / (2 : Rat) ^ e) * (2 : Rat) ^ e

/-- Does the nearest grid point lie within the finite doubles? -/
def isFinite (q : Rat) : Bool :=
  let bound : Rat := (2 : Rat) ^ (1024 : Int)
  let r := nearest q
  decide (-bound < r) && decide (r < bound)

/-- The bit that every significand has but those next to zero. -/
def leadingBit : Nat := 1 <<< 52

/-- The double nearest to `q`; beyond the largest one it is an infinity. -/
def toFloat (q : Rat) : Float :=
  if q = 0 then 0
  else
    let e := gridExponent q
    let m := (roundHalfEven (q / (2 : Rat) ^ e)).natAbs
    let sign : UInt64 := if q < 0 then 0x8000000000000000 else 0
    let magnitude : Nat :=
      if m < leadingBit then m else ((e + 1075).toNat <<< 52) + (m - leadingBit)
    Float.ofBits (sign ||| (UInt64.ofNat (min magnitude (0x7ff <<< 52))))

/-- The rational that a finite double stands for. -/
def ofFloat? (x : Float) : Option Rat :=
  let bits := x.toBits.toNat
  let exponent := (bits >>> 52) % 2048
  let fraction := bits % leadingBit
  let signed (m : Nat) : Int := if bits >>> 63 = 1 then -(m : Int) else m
  if exponent = 2047 then none
  else if exponent = 0 then some (signed fraction * (2 : Rat) ^ (-1074 : Int))
  else some (signed (fraction + leadingBit) * (2 : Rat) ^ ((exponent : Int) - 1075))

/-- The double nearest to `m * 10 ^ e`. Exponents far out of range are decided by size alone. -/
def ofDecimal (m : Nat) (e : Int) : Float :=
  if m = 0 then 0
  else
    let digits : Int := (Nat.toDigits 10 m).length
    if digits + e > 400 then Float.ofBits 0x7ff0000000000000
    else if digits + e < -400 then 0
    else toFloat (m * (10 : Rat) ^ e)

@[simp] theorem nearest_zero : nearest 0 = 0 := by simp [nearest]

theorem roundHalfEven_intCast (n : Int) : roundHalfEven (n : Rat) = n := by
  have h : (n : Rat).floor = n := Rat.floor_intCast n
  have h0 : ((n : Rat) - (n : Rat)) = 0 := by rw [Rat.sub_eq_add_neg, Rat.add_neg_cancel]
  simp only [roundHalfEven, h, h0]
  rw [if_pos (by grind)]

end LabelPress.Binary64
