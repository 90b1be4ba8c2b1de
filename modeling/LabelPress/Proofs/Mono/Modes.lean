import LabelPress.Mono.Picture
import LabelPress.Proofs.Mono.Packing
import Mathlib.Algebra.Field.Rat
import Mathlib.Tactic.IntervalCases
import Mathlib.Tactic.Ring

/-! # One gray picture in several modes

A gray dot is a byte in one mode, three equal bytes or a bit in others, with or without an opacity.
The weights of red, green and blue make a thousand, so three equal bytes have exactly the luminance
of the one byte, and a set bit has that of the largest. Diffusion is told these luminances only.

* `luminanceOfBytes_gray`: the luminance of three equal bytes.
* `dotBytes`, `luminanceAt_ofDots`: the modes with bytes.
* `HoldsBits`, `luminanceAt_of_holdsBits`: the mode with bits.
* `toMono_alike`: one bitmap for all modes. -/

namespace LabelPress

/-- **Three equal bytes are as light as one.** -/
theorem luminanceOfBytes_gray (v : UInt8) : luminanceOfBytes v v v = v.toFloat := by
  have hweights : ((299 * v.toNat + 587 * v.toNat + 114 * v.toNat : ℕ) : ℚ) / 1000 = v.toNat := by
    push_cast
    ring
  have hwhole : ∀ n : ℕ, n < 256 → Binary64.toFloat (n : ℚ) = (UInt8.ofNat n).toFloat := by
    decide +kernel
  have hbyte := hwhole v.toNat v.toNat_lt
  rw [UInt8.ofNat_toNat] at hbyte
  rw [luminanceOfBytes, hweights, hbyte]

namespace Picture

theorem toMono_congr {mode mode' : PictureMode} {width height : ℕ} {data data' : Array UInt8}
    (h : ∀ i < width * height, (Picture.mk mode width height data).luminanceAt i =
      (Picture.mk mode' width height data').luminanceAt i) (diffuse : Bool) :
    (Picture.mk mode width height data).toMono diffuse =
      (Picture.mk mode' width height data').toMono diffuse := by
  have hluminances : (Picture.mk mode width height data).luminances =
      (Picture.mk mode' width height data').luminances :=
    Array.map_congr_left fun i hi => h i (Array.mem_range.1 hi)
  rw [toMono, toMono, hluminances]

/-- A picture has a bitmap if it has any dots. -/
theorem exists_toMono_iff (p : Picture) (diffuse : Bool) :
    (∃ bitmap, p.toMono diffuse = .ok bitmap) ↔ 0 < p.width ∧ 0 < p.height := by
  have hsize : ¬((p.luminances.size : ℤ) ≠ p.width * p.height) := by
    simp [luminances]
  unfold toMono LabelPress.toMono
  by_cases hempty : (p.width : ℤ) ≤ 0 ∨ (p.height : ℤ) ≤ 0
  · rw [if_pos hempty]
    refine iff_of_false ?_ (by omega)
    rintro ⟨bitmap, h⟩
    cases h
  · rw [if_neg hempty, if_neg hsize]
    exact iff_of_true ⟨_, rfl⟩ (by omega)

/-! ### Bytes -/

/-- **The bytes of a gray dot**, which may have an opacity; bits are not told dot by dot. -/
def dotBytes : PictureMode → UInt8 × UInt8 → List UInt8
  | .gray, (v, _) => [v]
  | .grayAlpha, (v, a) => [v, a]
  | .rgb, (v, _) => [v, v, v]
  | .rgba, (v, a) => [v, v, v, a]
  | .bilevel, _ => []

/-- A picture of gray dots, row by row. -/
def ofDots (mode : PictureMode) (width height : ℕ) (dots : List (UInt8 × UInt8)) : Picture :=
  ⟨mode, width, height, (dots.flatMap (dotBytes mode)).toArray⟩

theorem getElem?_flatMap_of_length {α β : Type} {f : α → List β} {k : ℕ}
    (hf : ∀ a, (f a).length = k) (l : List α) (i : ℕ) {j : ℕ} (hj : j < k) :
    (l.flatMap f)[k * i + j]? = l[i]?.bind fun a => (f a)[j]? := by
  induction l generalizing i with
  | nil => simp
  | cons a l ih =>
    rw [List.flatMap_cons]
    cases i with
    | zero =>
      rw [List.getElem?_append_left (by rw [hf a]; omega), Nat.mul_zero, Nat.zero_add]
      rfl
    | succ i =>
      have hnext : k * (i + 1) + j - (f a).length = k * i + j := by
        rw [hf a, Nat.mul_succ]
        omega
      rw [List.getElem?_append_right (by rw [hf a, Nat.mul_succ]; omega), hnext, ih i]
      rfl

/-- A byte that tells the value of its dot; of a dot that is not there all bytes are zero. -/
theorem byte_ofDots {mode : PictureMode} {k j : ℕ} (hk : ∀ dot, (dotBytes mode dot).length = k)
    (hvalue : ∀ dot, (dotBytes mode dot)[j]? = some dot.1) (width height : ℕ)
    (dots : List (UInt8 × UInt8)) (i : ℕ) :
    (ofDots mode width height dots).byte (k * i + j) = (dots[i]?.map Prod.fst).getD 0 := by
  have hj : j < k := by
    rw [← hk (0, 0)]
    exact (List.getElem?_eq_some_iff.1 (hvalue (0, 0))).1
  rw [byte, ofDots, List.getElem?_toArray, getElem?_flatMap_of_length hk dots i hj]
  cases dots[i]? with
  | none => rfl
  | some dot =>
    rw [Option.bind_some, hvalue dot]
    rfl

/-- A dot that begins with its value three times. -/
theorem luminanceOfBytes_ofDots {mode : PictureMode} {k : ℕ}
    (hk : ∀ dot, (dotBytes mode dot).length = k)
    (hvalue : ∀ j < 3, ∀ dot, (dotBytes mode dot)[j]? = some dot.1) (width height : ℕ)
    (dots : List (UInt8 × UInt8)) (i : ℕ) :
    let p := ofDots mode width height dots
    luminanceOfBytes (p.byte (k * i)) (p.byte (k * i + 1)) (p.byte (k * i + 2)) =
      ((dots[i]?.map Prod.fst).getD 0).toFloat := by
  have hbyte (j : ℕ) (hj : j < 3) := byte_ofDots hk (hvalue j hj) width height dots i
  have hfirst := hbyte 0 (by decide)
  rw [Nat.add_zero] at hfirst
  dsimp only
  rw [hfirst, hbyte 1 (by decide), hbyte 2 (by decide), luminanceOfBytes_gray]

/-- **The luminance of a gray dot** is its value, in every mode with bytes. -/
theorem luminanceAt_ofDots {mode : PictureMode} (hmode : mode ≠ .bilevel) (width height : ℕ)
    (dots : List (UInt8 × UInt8)) (i : ℕ) :
    (ofDots mode width height dots).luminanceAt i =
      ((dots[i]?.map Prod.fst).getD 0).toFloat := by
  cases mode with
  | bilevel => exact absurd rfl hmode
  | gray =>
    have hbyte : (ofDots .gray width height dots).byte (1 * i + 0) = _ :=
      byte_ofDots (fun _ => rfl) (fun _ => rfl) width height dots i
    rw [Nat.one_mul] at hbyte
    exact congrArg UInt8.toFloat hbyte
  | grayAlpha =>
    have hbyte : (ofDots .grayAlpha width height dots).byte (2 * i + 0) = _ :=
      byte_ofDots (fun _ => rfl) (fun _ => rfl) width height dots i
    rw [← hbyte]
    exact luminanceOfBytes_gray _
  | rgb =>
    have hvalue : ∀ j < 3, ∀ dot, (dotBytes .rgb dot)[j]? = some dot.1 := by
      intro j hj dot
      interval_cases j <;> rfl
    exact luminanceOfBytes_ofDots (fun _ => rfl) hvalue width height dots i
  | rgba =>
    have hvalue : ∀ j < 3, ∀ dot, (dotBytes .rgba dot)[j]? = some dot.1 := by
      intro j hj dot
      interval_cases j <;> rfl
    exact luminanceOfBytes_ofDots (fun _ => rfl) hvalue width height dots i

/-! ### Bits -/

/-- Data with a bit for each dot, the rows filled up with any bits. -/
def HoldsBits (data : Array UInt8) (width height : ℕ) (bit : ℕ → ℕ → Bool) : Prop :=
  ∀ x < width, ∀ y < height, ∃ byte, data[y * ((width + 7) / 8) + x / 8]? = some byte ∧
    byte.toNat.testBit (7 - x % 8) = bit x y

/-- A matrix of bits in bytes, row by row: the largest byte for 1 and the smallest for 0. -/
def bitBytes (width height : ℕ) (bit : ℕ → ℕ → Bool) : List UInt8 :=
  (List.range (width * height)).map fun i => if bit (i % width) (i / width) then 255 else 0

theorem holdsBits_packRows (width height : ℕ) (bit : ℕ → ℕ → Bool) :
    HoldsBits (packRows width height bit).toArray width height bit := by
  intro x hx y hy
  have hrow : x < 8 * ((width + 7) / 8) := by omega
  obtain ⟨byte, hbyte, hbit⟩ := testBit_packRows hy hrow bit
  rw [decide_eq_true hx, Bool.true_and] at hbit
  rw [← List.getElem?_toArray] at hbyte
  exact ⟨byte, hbyte, hbit⟩

/-- **The luminance of a bit** is that of the byte for it. -/
theorem luminanceAt_of_holdsBits {data : Array UInt8} {width height : ℕ} {bit : ℕ → ℕ → Bool}
    (h : HoldsBits data width height bit) {i : ℕ} (hi : i < width * height) :
    (Picture.mk .bilevel width height data).luminanceAt i =
      (Picture.mk .gray width height (bitBytes width height bit).toArray).luminanceAt i := by
  have hends : (255 : UInt8).toFloat = 255 ∧ (0 : UInt8).toFloat = 0 := by decide +kernel
  have hwidth : 0 < width := Nat.pos_of_mul_pos_right (Nat.zero_lt_of_lt hi)
  obtain ⟨byte, hbyte, hbit⟩ := h (i % width) (Nat.mod_lt i hwidth) (i / width)
    (Nat.div_lt_of_lt_mul hi)
  have hread : (Picture.mk .bilevel width height data).byte
      (i / width * ((width + 7) / 8) + i % width / 8) = byte := by
    rw [Picture.byte, hbyte]
    rfl
  have hpacked : (Picture.mk .bilevel width height data).luminanceAt i =
      if bit (i % width) (i / width) then 255 else 0 := by
    rw [← hbit, ← hread]
    rfl
  have hgray : (Picture.mk .gray width height (bitBytes width height bit).toArray).luminanceAt i =
      (if bit (i % width) (i / width) then (255 : UInt8) else 0).toFloat := by
    show (Picture.byte _ i).toFloat = _
    simp [Picture.byte, bitBytes, hi]
  rw [hpacked, hgray]
  split_ifs
  · exact hends.1.symm
  · exact hends.2.symm

/-! ### Bitmaps -/

theorem toMono_ofDots {mode : PictureMode} (hmode : mode ≠ .bilevel) (width height : ℕ)
    (dots : List (UInt8 × UInt8)) (diffuse : Bool) :
    (ofDots mode width height dots).toMono diffuse =
      (Picture.mk .gray width height (dots.map Prod.fst).toArray).toMono diffuse := by
  have hgray : ofDots .gray width height dots =
      Picture.mk .gray width height (dots.map Prod.fst).toArray := by
    rw [ofDots, List.map_eq_flatMap]
    rfl
  have hbytes : PictureMode.gray ≠ .bilevel := nofun
  have hluminance (i : ℕ) : (ofDots mode width height dots).luminanceAt i =
      (ofDots .gray width height dots).luminanceAt i := by
    rw [luminanceAt_ofDots hmode, luminanceAt_ofDots hbytes]
  rw [← hgray]
  exact toMono_congr (fun i _ => hluminance i) diffuse

theorem toMono_of_holdsBits {data : Array UInt8} {width height : ℕ} {bit : ℕ → ℕ → Bool}
    (h : HoldsBits data width height bit) (diffuse : Bool) :
    (Picture.mk .bilevel width height data).toMono diffuse =
      (Picture.mk .gray width height (bitBytes width height bit).toArray).toMono diffuse :=
  toMono_congr (fun _ hi => luminanceAt_of_holdsBits h hi) diffuse

/-- **All modes of one gray picture have one bitmap**, diffused or not: that of its values, one byte
each. In the modes with several bytes a dot has its value once or three times, with any opacity or
none; in the mode with bits the values are the largest and the smallest byte, and every matrix of
bits has such data. There is a bitmap exactly if there are dots. -/
theorem toMono_alike (width height : ℕ) :
    (∀ mode ≠ .bilevel, ∀ dots diffuse,
      (ofDots mode width height dots).toMono diffuse =
        (Picture.mk .gray width height (dots.map Prod.fst).toArray).toMono diffuse) ∧
    (∀ bit data, HoldsBits data width height bit → ∀ diffuse,
      (Picture.mk .bilevel width height data).toMono diffuse =
        (Picture.mk .gray width height (bitBytes width height bit).toArray).toMono diffuse) ∧
    (∀ bit, HoldsBits (packRows width height bit).toArray width height bit) ∧
    ∀ mode data diffuse, (∃ bitmap, (Picture.mk mode width height data).toMono diffuse =
      .ok bitmap) ↔ 0 < width ∧ 0 < height := by
  refine ⟨?_, ?_, ?_, ?_⟩
  · intro mode hmode dots diffuse
    exact toMono_ofDots hmode width height dots diffuse
  · intro bit data h diffuse
    exact toMono_of_holdsBits h diffuse
  · intro bit
    exact holdsBits_packRows width height bit
  · intro mode data diffuse
    exact exists_toMono_iff _ diffuse

/-- A row of three dots, in colour with an opacity and in bits whose row is filled up with ones. -/
theorem toMono_alike_row :
    (PictureMode.rgba ≠ .bilevel ∧
      (Picture.mk .rgba 3 1 #[0, 0, 0, 7, 90, 90, 90, 255, 200, 200, 200, 0]).toMono true =
        (Picture.mk .gray 3 1 #[0, 90, 200]).toMono true) ∧
    HoldsBits #[0xbf] 3 1 (fun x _ => x != 1) ∧
      (Picture.mk .bilevel 3 1 #[0xbf]).toMono true =
        (Picture.mk .gray 3 1 #[255, 0, 255]).toMono true := by
  obtain ⟨hdots, hbits, -⟩ := toMono_alike 3 1
  have hrow : HoldsBits #[0xbf] 3 1 (fun x _ => x != 1) := by
    intro x hx y hy
    obtain rfl : y = 0 := by omega
    interval_cases x
    · exact ⟨0xbf, rfl, by decide⟩
    · exact ⟨0xbf, rfl, by decide⟩
    · exact ⟨0xbf, rfl, by decide⟩
  exact ⟨⟨nofun, hdots .rgba nofun [(0, 7), (90, 255), (200, 0)] true⟩, hrow,
    hbits (fun x _ => x != 1) #[0xbf] hrow true⟩

end Picture

end LabelPress
