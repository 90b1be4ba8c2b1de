import LabelPress.Wire.Raster
import Mathlib.Algebra.Order.Floor.Ring
import Mathlib.Data.Rat.Floor
import Mathlib.Tactic

/-!
# The raster stream, written and read

Both sides of the wire are described by one layout: the fixed beginning, the two words of the
header, the inverted bitmap, and whatever follows.

* `layout`: the bytes up to the end of the bitmap.
* `extractBitmap_eq_ok_iff`: reading accepts exactly the streams that begin with a layout.
* `encodeLabel_eq_ok_iff`: writing succeeds exactly on printable bitmaps whose feed can be reckoned,
  and what it writes is their layout and a feed.
* `encodeLabel_extractBitmap`: hence each side undoes the other.
-/

namespace LabelPress.Wire

/-! ### Words -/

/-- The two bytes of a number below `65536`, the lower first. -/
def wordBytes (n : Nat) : Bytes := [UInt8.ofNat (n % 256), UInt8.ofNat (n / 256)]

@[simp] theorem length_wordBytes (n : Nat) : (wordBytes n).length = 2 := rfl

theorem word?_eq_ok {n : Int} (h0 : 0 ≤ n) (h1 : n ≤ 65535) :
    word? n = .ok (wordBytes n.toNat) := by
  have hl : fitsLong n = true := by
    simp only [fitsLong, decide_eq_true_eq]
    omega
  simp only [word?, hl, Bool.not_true, Bool.false_eq_true, if_false]
  rw [if_neg (by omega)]
  rfl

/-- A word is its two bytes, each below `256`. -/
theorem eq_wordBytes_iff {a b : UInt8} {n : Nat} :
    [a, b] = wordBytes n ∧ n < 65536 ↔ n = a.toNat + 256 * b.toNat := by
  have ha := a.toNat_lt
  have hb := b.toNat_lt
  constructor
  · rintro ⟨h, hn⟩
    simp only [wordBytes, List.cons.injEq, and_true] at h
    rw [h.1, h.2, UInt8.toNat_ofNat', UInt8.toNat_ofNat']
    omega
  · rintro rfl
    have hlow : (a.toNat + 256 * b.toNat) % 256 = a.toNat := by omega
    have hhigh : (a.toNat + 256 * b.toNat) / 256 = b.toNat := by omega
    refine ⟨?_, by omega⟩
    simp [wordBytes, hlow, hhigh]

/-! ### Reading -/

/-- **The layout of a label** up to the end of its bitmap. -/
def layout (e : Extract) : Bytes :=
  initCommand ++ rasterMode ++ wordBytes e.rowBytes ++ wordBytes e.height ++ invert e.bitmap

theorem length_layout (e : Extract) : (layout e).length = 13 + e.bitmap.length := by
  simp [layout, initCommand, initialise, lineSpacingZero, rasterMode]
  omega

/-- A bitmap with the dimensions that a header can tell. -/
structure Extract.WellFormed (e : Extract) : Prop where
  rowBytes_lt : e.rowBytes < 65536
  height_lt : e.height < 65536
  length_eq : e.bitmap.length = e.rowBytes * e.height

theorem extractBitmap_layout {e : Extract} (he : e.WellFormed) (rest : Bytes) :
    extractBitmap (layout e ++ rest) = .ok e := by
  obtain ⟨a, b, hab⟩ : ∃ a b, wordBytes e.rowBytes = [a, b] := ⟨_, _, rfl⟩
  obtain ⟨c, d, hcd⟩ : ∃ c d, wordBytes e.height = [c, d] := ⟨_, _, rfl⟩
  have hr := eq_wordBytes_iff.1 ⟨hab.symm, he.rowBytes_lt⟩
  have hh := eq_wordBytes_iff.1 ⟨hcd.symm, he.height_lt⟩
  have hstream : layout e ++ rest =
      (initCommand ++ rasterMode) ++ (a :: b :: c :: d :: (invert e.bitmap ++ rest)) := by
    simp [layout, hab, hcd]
  have hpre : (initCommand ++ rasterMode).isPrefixOf (layout e ++ rest) = true := by
    rw [hstream, List.isPrefixOf_iff_prefix]
    exact List.prefix_append ..
  have hlen : (invert e.bitmap).length = e.rowBytes * e.height := by simp [he.length_eq]
  simp only [extractBitmap, hpre, Bool.not_true, Bool.false_eq_true, if_false]
  rw [hstream, List.drop_left]
  simp only [← hr, ← hh]
  rw [if_neg (by simp [hlen]), ← hlen, List.take_left, invert_invert]

theorem layout_of_extractBitmap {stream : Bytes} {e : Extract} (h : extractBitmap stream = .ok e) :
    e.WellFormed ∧ layout e <+: stream := by
  simp only [extractBitmap] at h
  split at h
  · simp at h
  next hpre =>
  rw [Bool.not_eq_true, Bool.not_eq_false', List.isPrefixOf_iff_prefix] at hpre
  obtain ⟨tail, rfl⟩ := hpre
  rw [List.drop_left] at h
  split at h
  · next a b c d rest =>
    split at h
    · simp at h
    next hlen =>
    obtain rfl := Except.ok.inj h
    obtain ⟨hr, hr'⟩ := eq_wordBytes_iff.2 (rfl : a.toNat + 256 * b.toNat = _)
    obtain ⟨hh, hh'⟩ := eq_wordBytes_iff.2 (rfl : c.toNat + 256 * d.toNat = _)
    refine ⟨⟨hr', hh', by simp; omega⟩, ?_⟩
    simp only [layout, ← hr, ← hh, invert_invert, List.append_assoc]
    simp only [List.prefix_append_right_inj, List.cons_append, List.nil_append,
      List.cons_prefix_cons, true_and]
    exact List.take_prefix ..
  · simp at h

/-- **Reading accepts exactly the streams that begin with a layout.** -/
theorem extractBitmap_eq_ok_iff {stream : Bytes} {e : Extract} :
    extractBitmap stream = .ok e ↔ e.WellFormed ∧ layout e <+: stream := by
  refine ⟨layout_of_extractBitmap, ?_⟩
  rintro ⟨he, rest, rfl⟩
  exact extractBitmap_layout he rest

/-! ### Writing -/

/-- A bitmap that the printer can print: no wider than its head, no higher than the header can
tell, and of as many bytes as its rows need. -/
structure Printable (bitmap : Bytes) (width height : Int) : Prop where
  width_pos : 1 ≤ width
  width_le : width ≤ 384
  height_pos : 1 ≤ height
  height_le : height ≤ 65535
  length_eq : (bitmap.length : Int) = ⌈(width : ℚ) / 8⌉ * height

theorem rowBytesOf_eq_ceil (width : Int) : rowBytesOf width = ⌈(width : ℚ) / 8⌉ := by
  symm
  rw [Int.ceil_eq_iff, rowBytesOf_eq_ediv]
  constructor
  · rw [lt_div_iff₀ (by norm_num)]
    have : ((width + 7) / 8 - 1) * 8 < width := by omega
    exact_mod_cast this
  · rw [div_le_iff₀ (by norm_num)]
    have : width ≤ (width + 7) / 8 * 8 := by omega
    exact_mod_cast this

/-- The bitmap and the dimensions that a label's header tells. -/
def extractOf (bitmap : Bytes) (width height : Int) : Extract :=
  ⟨⌈(width : ℚ) / 8⌉.toNat, height.toNat, bitmap⟩

section Printable
variable {bitmap : Bytes} {width height : Int}

theorem Printable.rowBytes_bounds (hp : Printable bitmap width height) :
    1 ≤ rowBytesOf width ∧ rowBytesOf width ≤ 48 := by
  have h0 := hp.width_pos
  have h1 := hp.width_le
  rw [rowBytesOf_eq_ediv]
  omega

theorem Printable.wellFormed (hp : Printable bitmap width height) :
    (extractOf bitmap width height).WellFormed := by
  obtain ⟨h0, h1⟩ := hp.rowBytes_bounds
  have h2 := hp.height_pos
  have h3 := hp.height_le
  have hlen := hp.length_eq
  rw [rowBytesOf_eq_ceil] at h0 h1
  refine ⟨by simp only [extractOf]; omega, by simp only [extractOf]; omega, ?_⟩
  simp only [extractOf]
  zify
  rw [Int.toNat_of_nonneg (by omega), Int.toNat_of_nonneg (by omega), hlen]

/-- The header of a printable bitmap can be written. -/
theorem Printable.rasterHeader_eq (hp : Printable bitmap width height) :
    rasterHeader width height =
      .ok (rasterMode ++ wordBytes (rowBytesOf width).toNat ++ wordBytes height.toNat) := by
  obtain ⟨h0, h1⟩ := hp.rowBytes_bounds
  have h2 := hp.height_pos
  rw [rasterHeader, word?_eq_ok (by omega) (by omega), word?_eq_ok (by omega) hp.height_le]
  rfl

/-- **The stream of a printable bitmap** is its layout and a feed, if the feed can be reckoned. -/
theorem Printable.encodeLabel_eq (hp : Printable bitmap width height) (feedMm : Measure) :
    encodeLabel bitmap width height feedMm = ((dotsOf feedMm).mapError WireError.feed).map
      fun dots => layout (extractOf bitmap width height) ++ feedCommand dots := by
  have h0 := hp.width_pos
  have h1 := hp.width_le
  have h2 := hp.height_pos
  have h3 := hp.height_le
  have hlen : (bitmap.length : Int) = rowBytesOf width * height := by
    rw [hp.length_eq, rowBytesOf_eq_ceil]
  have hw : ¬ ((maxWidth : Int) < width) := by simp only [maxWidth]; omega
  have he : ¬ (width ≤ 0 ∨ height ≤ 0) := by omega
  have hh : ¬ (65535 < height) := by omega
  simp only [encodeLabel, hw, he, hh, hlen, ne_eq, not_true_eq_false, if_false,
    hp.rasterHeader_eq]
  cases dotsOf feedMm with
  | error e => rfl
  | ok dots =>
    simp only [layout, extractOf, ← rowBytesOf_eq_ceil, List.append_assoc]
    rfl

end Printable

/-- **Only printable bitmaps have a stream**; all others are refused for their size or length,
before their header is written. -/
theorem encodeLabel_of_not_printable {bitmap : Bytes} {width height : Int}
    (hp : ¬ Printable bitmap width height) (feedMm : Measure) :
    ∃ e, encodeLabel bitmap width height feedMm = .error e ∧
      (e.isSize ∨ ∃ n m, e = .wrongLength n m width height) := by
  by_cases hw : (maxWidth : Int) < width
  · exact ⟨.tooWide width, by simp only [encodeLabel, hw, if_true]; rfl, .inl rfl⟩
  by_cases he : width ≤ 0 ∨ height ≤ 0
  · exact ⟨.emptySize width height, by simp only [encodeLabel, hw, he, if_true, if_false]; rfl,
      .inl rfl⟩
  by_cases hh : 65535 < height
  · exact ⟨.tooHigh height, by simp only [encodeLabel, hw, he, hh, if_true, if_false]; rfl,
      .inl rfl⟩
  have hlen : (bitmap.length : Int) ≠ rowBytesOf width * height := by
    intro hlen
    simp only [maxWidth] at hw
    exact hp ⟨by omega, by omega, by omega, by omega, by rw [hlen, rowBytesOf_eq_ceil]⟩
  refine ⟨.wrongLength bitmap.length (rowBytesOf width * height) width height, ?_,
    .inr ⟨_, _, rfl⟩⟩
  simp only [encodeLabel, hw, he, hh, hlen, ne_eq, not_false_eq_true, if_true, if_false]
  rfl

/-- **Writing succeeds exactly on printable bitmaps** whose feed can be reckoned. -/
theorem encodeLabel_eq_ok_iff {bitmap stream : Bytes} {width height : Int} {feedMm : Measure} :
    encodeLabel bitmap width height feedMm = .ok stream ↔
      Printable bitmap width height ∧ ∃ dots, dotsOf feedMm = .ok dots ∧
        stream = layout (extractOf bitmap width height) ++ feedCommand dots := by
  by_cases hp : Printable bitmap width height
  · rw [hp.encodeLabel_eq]
    cases dotsOf feedMm with
    | error e => simp [Except.mapError, Except.map]
    | ok dots => simp [Except.mapError, Except.map, hp, eq_comm]
  · obtain ⟨e, he, -⟩ := encodeLabel_of_not_printable hp feedMm
    simp [he, hp]

theorem ne_nil_of_encodeLabel {bitmap stream : Bytes} {width height : Int} {feedMm : Measure}
    (h : encodeLabel bitmap width height feedMm = .ok stream) : stream ≠ [] := by
  obtain ⟨-, dots, -, rfl⟩ := encodeLabel_eq_ok_iff.1 h
  simp [layout, initCommand, initialise]

/-! ### Both directions -/

theorem extractBitmap_of_encodeLabel {bitmap stream : Bytes} {width height : Int}
    {feedMm : Measure} (h : encodeLabel bitmap width height feedMm = .ok stream)
    (trailing : Bytes) :
    extractBitmap (stream ++ trailing) = .ok (extractOf bitmap width height) := by
  obtain ⟨hp, dots, -, rfl⟩ := encodeLabel_eq_ok_iff.1 h
  rw [List.append_assoc]
  exact extractBitmap_layout hp.wellFormed _

/-- What a printer can print and a stream tells is a printable bitmap of whole bytes. -/
theorem Extract.WellFormed.printable {e : Extract} (he : e.WellFormed) (h0 : 1 ≤ e.rowBytes)
    (h1 : e.rowBytes ≤ 48) (h2 : 1 ≤ e.height) :
    Printable e.bitmap (8 * e.rowBytes) e.height ∧
      extractOf e.bitmap (8 * e.rowBytes) e.height = e := by
  have hceil : ⌈((8 * e.rowBytes : ℤ) : ℚ) / 8⌉ = e.rowBytes := by
    rw [← rowBytesOf_eq_ceil, rowBytesOf_eq_ediv]
    omega
  have hh := he.height_lt
  refine ⟨⟨by omega, by omega, by omega, by omega, ?_⟩, ?_⟩
  · rw [hceil, he.length_eq]
    push_cast
    rfl
  · simp only [extractOf, hceil, Int.toNat_natCast]

theorem encodeLabel_of_extractBitmap {stream : Bytes} {e : Extract}
    (h : extractBitmap stream = .ok e) (h0 : 1 ≤ e.rowBytes) (h1 : e.rowBytes ≤ 48)
    (h2 : 1 ≤ e.height) {feedMm : Measure} {dots : Int} (hfeed : dotsOf feedMm = .ok dots) :
    encodeLabel e.bitmap (8 * e.rowBytes) e.height feedMm = .ok (layout e ++ feedCommand dots) ∧
      layout e = stream.take (13 + e.rowBytes * e.height) := by
  obtain ⟨he, hpre⟩ := layout_of_extractBitmap h
  obtain ⟨hp, heq⟩ := he.printable h0 h1 h2
  refine ⟨encodeLabel_eq_ok_iff.2 ⟨hp, dots, hfeed, by rw [heq]⟩, ?_⟩
  rw [← he.length_eq, ← length_layout]
  exact List.prefix_iff_eq_take.1 hpre

/-- **Each side of the wire undoes the other.** Where the feed can be reckoned, writing succeeds
exactly on printable bitmaps, and a failure never comes from the header; what was written is read
back whatever follows it; and a bitmap that was read and is not too wide is written as the bytes
that it was read from. -/
theorem encodeLabel_extractBitmap (bitmap : Bytes) (width height : Int) (feedMm : Measure)
    {dots : Int} (hfeed : dotsOf feedMm = .ok dots) :
    ((∃ stream, encodeLabel bitmap width height feedMm = .ok stream) ↔
      1 ≤ width ∧ width ≤ 384 ∧ 1 ≤ height ∧ height ≤ 65535 ∧
        (bitmap.length : Int) = ⌈(width : ℚ) / 8⌉ * height) ∧
    (∀ e, encodeLabel bitmap width height feedMm = .error e →
      e ≠ .wordRange ∧ e ≠ .beyondLong) ∧
    (∀ stream, encodeLabel bitmap width height feedMm = .ok stream → ∀ trailing,
      extractBitmap (stream ++ trailing) =
        .ok ⟨⌈(width : ℚ) / 8⌉.toNat, height.toNat, bitmap⟩) ∧
    ∀ stream e, extractBitmap stream = .ok e → 1 ≤ e.rowBytes → e.rowBytes ≤ 48 →
      1 ≤ e.height → ∃ written,
        encodeLabel e.bitmap (8 * e.rowBytes) e.height feedMm = .ok written ∧
          13 + e.rowBytes * e.height ≤ stream.length ∧
          written.take (13 + e.rowBytes * e.height) =
            stream.take (13 + e.rowBytes * e.height) := by
  refine ⟨⟨?_, ?_⟩, ?_, fun stream h trailing => extractBitmap_of_encodeLabel h trailing, ?_⟩
  · rintro ⟨stream, h⟩
    obtain ⟨⟨h0, h1, h2, h3, h4⟩, -⟩ := encodeLabel_eq_ok_iff.1 h
    exact ⟨h0, h1, h2, h3, h4⟩
  · rintro ⟨h0, h1, h2, h3, h4⟩
    exact ⟨_, encodeLabel_eq_ok_iff.2 ⟨⟨h0, h1, h2, h3, h4⟩, dots, hfeed, rfl⟩⟩
  · intro e h
    by_cases hp : Printable bitmap width height
    · rw [encodeLabel_eq_ok_iff.2 ⟨hp, dots, hfeed, rfl⟩] at h
      simp at h
    · obtain ⟨e', he', hcause⟩ := encodeLabel_of_not_printable hp feedMm
      obtain rfl : e' = e := by simpa [he'] using h
      rcases hcause with hsize | ⟨n, m, rfl⟩
      · constructor <;> rintro rfl <;> simp [WireError.isSize] at hsize
      · simp
  · intro stream e h h0 h1 h2
    obtain ⟨hw, ht⟩ := encodeLabel_of_extractBitmap h h0 h1 h2 hfeed
    obtain ⟨he, hpre⟩ := layout_of_extractBitmap h
    have hlen := length_layout e
    rw [he.length_eq] at hlen
    refine ⟨_, hw, by rw [← hlen]; exact hpre.length_le, ?_⟩
    rw [← ht, ← hlen, List.take_left]

/-- Four millimetres are thirty-two dots. -/
theorem dotsOf_four : dotsOf (.real 4) = .ok 32 := by
  have hnan : ((4 : Float) * Float.ofNat dotsPerMm + 0.5).isNaN = false := by decide +kernel
  have hval : Binary64.ofFloat? ((4 : Float) * Float.ofNat dotsPerMm + 0.5) = some (65 / 2) := by
    decide +kernel
  have hfloor : (65 / 2 : Rat).floor = 32 := by decide +kernel
  simp only [dotsOf, floorFloat?, hnan, hval, hfloor, Bool.false_eq_true, if_false]

/-- A bitmap whose rows are themselves commands, twelve dots wide. -/
theorem encodeLabel_extractBitmap_commands :
    dotsOf (.real 4) = .ok 32 ∧
      (∃ stream, encodeLabel [0x1b, 0x40, 0x1b, 0x33] 12 2 (.real 4) = .ok stream ∧
        ∀ trailing, extractBitmap (stream ++ trailing) =
          .ok ⟨2, 2, [0x1b, 0x40, 0x1b, 0x33]⟩) := by
  have hceil : ⌈((12 : Int) : ℚ) / 8⌉ = 2 := by
    rw [← rowBytesOf_eq_ceil]
    decide
  obtain ⟨hok, -, hread, -⟩ :=
    encodeLabel_extractBitmap [0x1b, 0x40, 0x1b, 0x33] 12 2 (.real 4) dotsOf_four
  obtain ⟨stream, hs⟩ := hok.2 ⟨by decide, by decide, by decide, by decide, by rw [hceil]; decide⟩
  refine ⟨dotsOf_four, stream, hs, fun trailing => ?_⟩
  have := hread stream hs trailing
  rw [hceil] at this
  exact this

end LabelPress.Wire
