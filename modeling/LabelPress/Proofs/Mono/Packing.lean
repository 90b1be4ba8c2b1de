import LabelPress.Mono.Bitmap
import Mathlib.Data.List.Basic
import Mathlib.Tactic

/-! # Packed bitmaps, bit by bit

A packed bitmap is read back dot by dot: the bit of column `x` in row `y` is the predicate that was
packed (`getElem?_packRows`), and no bit beyond the last column is set. Rows are packed one by one,
so a bitmap begins with the bitmap of its upper rows (`take_packRows`), and only the dots inside it
matter (`packRows_congr`). A bitmap `Shows` dots if they can be read back from it in this way. -/

namespace LabelPress

/-! ### Bits of a byte -/

/-- Of bits that are read one after the other the first one is the highest. -/
theorem testBit_foldl_bits (bit : Nat → Bool) {n k : Nat} (hk : k < n) :
    ((List.range n).foldl (fun m j => 2 * m + (bit j).toNat) 0).testBit (n - 1 - k) = bit k := by
  induction n with
  | zero => cases hk
  | succ n ih =>
    rw [List.range_succ, List.foldl_append, List.foldl_cons, List.foldl_nil, Nat.add_sub_cancel]
    rcases Nat.lt_succ_iff_lt_or_eq.1 hk with hlt | rfl
    · have hnext : n - k = n - 1 - k + 1 := by omega
      have hhalf : ∀ m : Nat, (2 * m + (bit n).toNat) / 2 = m := by
        intro m
        have := (bit n).toNat_lt
        omega
      rw [hnext, Nat.testBit_succ, hhalf, ih hlt]
    · rw [Nat.sub_self, Nat.testBit_zero]
      cases bit k with
      | false => simp
      | true => simp

theorem foldl_bits_lt (bit : Nat → Bool) (n : Nat) :
    (List.range n).foldl (fun m j => 2 * m + (bit j).toNat) 0 < 2 ^ n := by
  induction n with
  | zero => exact Nat.one_pos
  | succ n ih =>
    have := (bit n).toNat_lt
    rw [List.range_succ, List.foldl_append, List.foldl_cons, List.foldl_nil, Nat.pow_succ]
    omega

theorem testBit_packByte (bit : Nat → Bool) {k : Nat} (hk : k < 8) :
    (packByte bit).toNat.testBit (7 - k) = bit k := by
  rw [packByte, UInt8.toNat_ofNat', Nat.mod_eq_of_lt (foldl_bits_lt bit 8)]
  exact testBit_foldl_bits bit hk

theorem packByte_congr {bit bit' : Nat → Bool} (h : ∀ k < 8, bit k = bit' k) :
    packByte bit = packByte bit' := by
  unfold packByte
  congr 1
  refine List.foldl_ext _ _ _ fun n k hk => ?_
  rw [h k (List.mem_range.mp hk)]

/-! ### Rows -/

theorem getElem?_packRow {width b : Nat} (hb : b < (width + 7) / 8) (white : Nat → Bool) :
    (packRow width white)[b]? =
      some (packByte fun k => decide (8 * b + k < width) && white (8 * b + k)) := by
  simp [packRow, hb]

theorem packRow_congr {width : Nat} {white white' : Nat → Bool}
    (h : ∀ x < width, white x = white' x) : packRow width white = packRow width white' := by
  unfold packRow
  refine List.map_congr_left fun b _ => packByte_congr fun k _ => ?_
  by_cases hx : 8 * b + k < width
  · rw [h _ hx]
  · simp [hx]

theorem packRows_congr {width height : Nat} {white white' : Nat → Nat → Bool}
    (h : ∀ x < width, ∀ y < height, white x y = white' x y) :
    packRows width height white = packRows width height white' := by
  unfold packRows
  refine List.flatMap_congr fun y hy => packRow_congr fun x hx => ?_
  exact h x hx y (List.mem_range.mp hy)

/-- Rows are packed one after the other. -/
theorem packRows_add (width m n : Nat) (white : Nat → Nat → Bool) :
    packRows width (m + n) white =
      packRows width m white ++ packRows width n fun x y => white x (m + y) := by
  simp [packRows, List.range_add, List.flatMap_map]

/-- **A bitmap begins with the bitmap of its upper rows.** -/
theorem take_packRows {width height height' : Nat} (h : height ≤ height')
    (white : Nat → Nat → Bool) :
    (packRows width height' white).take (height * ((width + 7) / 8)) =
      packRows width height white := by
  obtain ⟨rest, rfl⟩ := Nat.exists_eq_add_of_le h
  rw [packRows_add, ← length_packRows width height white, List.take_left]

theorem getElem?_packRows {width height y b : Nat} (hy : y < height) (hb : b < (width + 7) / 8)
    (white : Nat → Nat → Bool) :
    (packRows width height white)[y * ((width + 7) / 8) + b]? =
      some (packByte fun k => decide (8 * b + k < width) && white (8 * b + k) y) := by
  obtain ⟨rest, rfl⟩ := Nat.exists_eq_add_of_lt hy
  have hrow : packRows width (y + rest + 1) white = packRows width y white ++
      (packRow width (white · y) ++ packRows width rest fun x j => white x (y + (1 + j))) := by
    rw [Nat.add_assoc, Nat.add_comm rest, packRows_add, packRows_add]
    simp [packRows]
  have hlen := length_packRows width y white
  have hlen' := length_packRow width (white · y)
  rw [hrow, List.getElem?_append_right (by omega), hlen, Nat.add_sub_cancel_left,
    List.getElem?_append_left (by omega), getElem?_packRow hb]

/-- **The bit of a dot** is set exactly if the dot is inside the picture and white. -/
theorem testBit_packRows {width height x y : Nat} (hy : y < height)
    (hx : x < 8 * ((width + 7) / 8)) (white : Nat → Nat → Bool) :
    ∃ byte, (packRows width height white)[y * ((width + 7) / 8) + x / 8]? = some byte ∧
      byte.toNat.testBit (7 - x % 8) = (decide (x < width) && white x y) := by
  refine ⟨_, getElem?_packRows hy (by omega) white, ?_⟩
  rw [testBit_packByte _ (Nat.mod_lt x (by decide)), Nat.div_add_mod]

/-- **What a packed bitmap shows**: it has the bytes that its rows need, a bit is set for each white
dot and for no other, and none beyond the last column. -/
structure Shows (bitmap : List UInt8) (width height : Nat) (white : Nat → Nat → Bool) : Prop where
  length_eq : bitmap.length = (width + 7) / 8 * height
  testBit_eq : ∀ y < height, ∀ x < 8 * ((width + 7) / 8), ∃ byte,
    bitmap[y * ((width + 7) / 8) + x / 8]? = some byte ∧
      byte.toNat.testBit (7 - x % 8) = (decide (x < width) && white x y)

theorem shows_packRows (width height : Nat) (white : Nat → Nat → Bool) :
    Shows (packRows width height white) width height white := by
  refine ⟨?_, fun y hy x hx => testBit_packRows hy hx white⟩
  rw [length_packRows, Nat.mul_comm]

end LabelPress
