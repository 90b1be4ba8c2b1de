import LabelPress.Proofs.Markup.Compression
import LabelPress.Proofs.Markup.Positions

/-! # Graphic fields as written

A graphic field is written as a letter for its encoding, two sizes and the bytes of a row in decimal
digits, and the data, with commas between them. Reading takes it apart again: the sizes come back as
the numbers that they spell, unless they have too many digits, two digits come back as the byte that
they stand for, and a character as the byte that it is.

In a label file a field goes on to the next designator, and the blanks before that are not part of
it. Digits are neither, so they come through whole. Bytes may be either.

* `decimal`, `digitsValue_decimal`: numbers in decimal digits.
* `ofParams_of_parts`: the bitmap that the parts of a field describe.
* `fieldParams`, `ofParams_fieldParams`: the parameters of a field, and the bitmap that they
  describe.
* `HexText`: the hexadecimal texts of bytes, with `HexText.decodeHex_eq` and
  `HexText.decodeCompressed_eq`; by `HexText.exists_of_bytes` all bytes have one.
* `fieldCommand`, `parse_fieldParams`: a field in a label file.
* `keptBytes`, `parse_binary`: what is kept of binary data there.
* `ofParams_binary`: binary data beside their digits. -/

namespace LabelPress.Markup

open Text

/-! ### Decimal digits -/

/-- **A number in decimal digits.** -/
def decimal (n : ℕ) : List Char := Nat.toDigits 10 n

theorem isDigit_of_mem_decimal {n : ℕ} {c : Char} (h : c ∈ decimal n) : c.isDigit = true :=
  Nat.isDigit_of_mem_toDigits (by omega) le_rfl h

theorem digit?_of_isDigit {c : Char} (h : c.isDigit = true) : digit? c = some (c.toNat - 48) := by
  simp only [Char.isDigit, Bool.and_eq_true, decide_eq_true_eq, UInt32.le_iff_toNat_le] at h
  have hlow : 48 ≤ c.toNat := h.1
  have hhigh : c.toNat ≤ 57 := h.2
  obtain ⟨n, hn⟩ := Nat.exists_eq_add_of_le hlow
  have hascii := digit?_ascii n (by omega)
  rwa [← hn, Char.ofNat_toNat, ← Nat.sub_eq_of_eq_add' hn] at hascii

theorem isDigit_decimal {n : ℕ} {c : Char} (h : c ∈ decimal n) : Text.isDigit c = true := by
  rw [Text.isDigit, digit?_of_isDigit (isDigit_of_mem_decimal h)]
  rfl

theorem digitsValue_decimal (n : ℕ) : digitsValue (decimal n) = n := by
  have hvalue : digitsValue (decimal n) = Nat.ofDigitChars 10 (decimal n) 0 := by
    rw [digitsValue, Nat.ofDigitChars_eq_foldl]
    refine List.foldl_ext _ _ _ fun m c hc => ?_
    rw [digit?_of_isDigit (isDigit_of_mem_decimal hc), Option.getD_some]
    rfl
  rw [hvalue, decimal, Nat.ofDigitChars_ten_toDigits]

/-- A number is read back from its digits, unless it has too many. -/
theorem digits?_decimal (n : ℕ) :
    digits? (decimal n) =
      if digitLimit < (decimal n).length then .error ⟨(decimal n).length⟩ else .ok n := by
  rw [digits?, digitsValue_decimal]

/-- A number that memory can count has few digits. -/
theorem length_decimal_le {n : ℕ} (h : n < 2 ^ 40) : (decimal n).length ≤ digitLimit := by
  have hfew := (Nat.length_toDigits_le_iff (k := 13) (show 1 < 10 by omega) (by omega)).2
    (h.trans (by norm_num))
  exact hfew.trans (by decide)

/-! ### Parameters -/

/-- What stands before the data of a field: its encoding, its declared size twice, and the bytes of
a row. -/
def fieldHead (encoding : Char) (total row : ℕ) : List Char :=
  encoding :: ',' :: (decimal total ++ ',' :: (decimal total ++ ',' :: decimal row))

/-- **The parameters of a graphic field.** -/
def fieldParams (encoding : Char) (total row : ℕ) (data : List Char) : List Char :=
  fieldHead encoding total row ++ ',' :: data

theorem takeDigitsComma_decimal (n : ℕ) (s : List Char) :
    takeDigitsComma (decimal n ++ ',' :: s) = some (decimal n, s) := by
  have hdigits : ∀ c ∈ decimal n, Text.isDigit c = true := fun c hc => isDigit_decimal hc
  have hcomma : Text.isDigit ',' = false := by decide
  have hsome : decimal n ≠ [] := Nat.toDigits_ne_nil
  rw [takeDigitsComma, List.takeWhile_append_of_pos hdigits, List.dropWhile_append_of_pos hdigits,
    List.takeWhile_cons_of_neg (by rw [hcomma]; exact Bool.false_ne_true),
    List.dropWhile_cons_of_neg (by rw [hcomma]; exact Bool.false_ne_true), List.append_nil]
  cases hdecimal : decimal n with
  | nil => exact absurd hdecimal hsome
  | cons c ds => rfl

/-- A field is taken apart into what it was written from; without data it is none. -/
theorem graphicParts?_fieldParams {encoding : Char} (he : encoding ∈ ['A', 'B', 'H'])
    (total row : ℕ) (data : List Char) :
    graphicParts? (fieldParams encoding total row data) =
      if data = [] then none else some (encoding, decimal total, decimal row, data) := by
  have hupper : encoding.toUpper = encoding := by
    simp only [List.mem_cons, List.not_mem_nil, or_false] at he
    rcases he with rfl | rfl | rfl <;> decide
  simp only [graphicParts?, fieldParams, fieldHead, List.cons_append, List.append_assoc, hupper,
    takeDigitsComma_decimal, guard, he, if_true, Option.bind_eq_bind, Option.bind_some,
    Option.pure_def]
  by_cases hdata : data = []
  · rw [if_pos hdata, if_neg (not_not_intro hdata)]
    rfl
  · rw [if_neg hdata, if_pos hdata]
    rfl

/-- The bytes that the data of an encoding stand for. -/
def fieldBytes (encoding : Char) (data : List Char) (total : ℕ) :
    Except GraphicFieldError (List UInt8) :=
  if encoding = 'A' then .ok (decodeHex data)
  else if encoding = 'B' then .ok (decodeBinary data)
  else (decodeInto data total).mapError .noRoom

/-- **The bitmap that the parts of a field describe**, once its two numbers are read. -/
theorem ofParams_of_parts {params data totalText rowText : List Char} {encoding : Char}
    {total row : ℕ} (hparts : graphicParts? params = some (encoding, totalText, rowText, data))
    (htotal : digits? totalText = .ok total) (hrow : digits? rowText = .ok row) :
    GraphicField.ofParams params =
      if row = 0 then .error .emptyRow
      else
        match fieldBytes encoding data total, rowCount? total row with
        | .error e, _ => .error e
        | .ok _, none => .error .tooManyRows
        | .ok bytes, some rows => .ok ⟨bytes, row, rows⟩ := by
  unfold GraphicField.ofParams
  rw [hparts]
  dsimp only
  rw [htotal, hrow]
  by_cases hempty : row = 0
  · subst hempty
    rfl
  -- The three encodings are read in one place, so that each goes on as the others do.
  simp only [Except.mapError, bind, Except.bind, hempty, if_false]
  by_cases hA : encoding = 'A'
  · simp only [hA, fieldBytes, if_true, pure, Except.pure]
    cases rowCount? total row <;> rfl
  by_cases hB : encoding = 'B'
  · simp only [hB, fieldBytes, if_true, pure, Except.pure]
    cases rowCount? total row <;> rfl
  simp only [hA, hB, fieldBytes, if_false]
  cases decodeInto data total with
  | error e => rfl
  | ok bytes => cases rowCount? total row <;> rfl

/-- **The bitmap that a written field describes**, or the first of its flaws. -/
theorem ofParams_fieldParams {encoding : Char} (he : encoding ∈ ['A', 'B', 'H']) (total row : ℕ)
    (data : List Char) :
    GraphicField.ofParams (fieldParams encoding total row data) =
      if data = [] then .error .malformed
      else if digitLimit < (decimal total).length then
        .error (.tooManyDigits ⟨(decimal total).length⟩)
      else if digitLimit < (decimal row).length then .error (.tooManyDigits ⟨(decimal row).length⟩)
      else if row = 0 then .error .emptyRow
      else
        match fieldBytes encoding data total, rowCount? total row with
        | .error e, _ => .error e
        | .ok _, none => .error .tooManyRows
        | .ok bytes, some rows => .ok ⟨bytes, row, rows⟩ := by
  have hparts := graphicParts?_fieldParams he total row data
  have htotal := digits?_decimal total
  have hrow := digits?_decimal row
  by_cases hdata : data = []
  · rw [if_pos hdata] at hparts ⊢
    rw [GraphicField.ofParams, hparts]
    rfl
  rw [if_neg hdata] at hparts ⊢
  by_cases hlong : digitLimit < (decimal total).length
  · rw [if_pos hlong] at htotal ⊢
    rw [GraphicField.ofParams, hparts]
    dsimp only
    rw [htotal]
    rfl
  rw [if_neg hlong] at htotal ⊢
  by_cases hwide : digitLimit < (decimal row).length
  · rw [if_pos hwide] at hrow ⊢
    rw [GraphicField.ofParams, hparts]
    dsimp only
    rw [htotal, hrow]
    rfl
  rw [if_neg hwide] at hrow ⊢
  exact ofParams_of_parts hparts htotal hrow

/-! ### Bytes as characters -/

/-- **The character of a byte**, with the byte as its code point. -/
def byteChar (byte : UInt8) : Char := Char.ofNat byte.toNat

theorem toNat_byteChar (byte : UInt8) : (byteChar byte).toNat = byte.toNat := by
  have hvalid : byte.toNat.isValidChar := Or.inl (byte.toNat_lt.trans (by norm_num))
  rw [byteChar, Char.ofNat, dif_pos hvalid]
  rfl

theorem decodeBinary_map_byteChar (bytes : List UInt8) :
    decodeBinary (bytes.map byteChar) = bytes := by
  rw [decodeBinary, List.map_map]
  refine (List.map_congr_left fun byte _ => ?_).trans (List.map_id bytes)
  rw [Function.comp_apply, toNat_byteChar, UInt8.ofNat_toNat, id]

/-! ### Bytes in hexadecimal -/

/-- **A text of digit pairs** and the bytes that they stand for. -/
inductive HexText : List Char → List UInt8 → Prop
  /-- No bytes. -/
  | nil : HexText [] []
  /-- The two digits of a byte, before those of other bytes. -/
  | cons {high low : Char} {a b : ℕ} {s : List Char} {bytes : List UInt8}
    (hhigh : (high, a) ∈ hexDigits) (hlow : (low, b) ∈ hexDigits) (h : HexText s bytes) :
    HexText (high :: low :: s) (UInt8.ofNat (16 * a + b) :: bytes)

namespace HexText

/-- Every text of bytes can be written. -/
theorem exists_of_bytes (bytes : List UInt8) : ∃ s, HexText s bytes := by
  have hdigit : ∀ a < 16, ∃ p ∈ hexDigits, p.2 = a := by decide
  induction bytes with
  | nil => exact ⟨[], nil⟩
  | cons byte bytes ih =>
    obtain ⟨s, hs⟩ := ih
    have hbyte := byte.toNat_lt
    obtain ⟨⟨high, a⟩, hhigh, ha⟩ := hdigit (byte.toNat / 16) (by omega)
    obtain ⟨⟨low, b⟩, hlow, hb⟩ := hdigit (byte.toNat % 16) (by omega)
    have hpair : UInt8.ofNat (16 * a + b) = byte := by
      rw [show a = byte.toNat / 16 from ha, show b = byte.toNat % 16 from hb, Nat.div_add_mod,
        UInt8.ofNat_toNat]
    exact ⟨high :: low :: s, hpair ▸ cons hhigh hlow hs⟩

variable {s : List Char} {bytes : List UInt8}

theorem eq_nil_iff (h : HexText s bytes) : s = [] ↔ bytes = [] := by
  cases h <;> simp

theorem mem_hexDigits (h : HexText s bytes) {c : Char} (hc : c ∈ s) : ∃ a, (c, a) ∈ hexDigits := by
  induction h with
  | nil => cases hc
  | cons hhigh hlow _ ih =>
    rcases List.mem_cons.1 hc with rfl | hc
    · exact ⟨_, hhigh⟩
    rcases List.mem_cons.1 hc with rfl | hc
    · exact ⟨_, hlow⟩
    · exact ih hc

/-- A text of digits has nothing that reading could leave out. -/
theorem squeeze_eq (h : HexText s bytes) : squeeze s = s := by
  have hall : ∀ p ∈ hexDigits, isBlank p.1 = false := by decide
  refine List.filter_eq_self.2 fun c hc => ?_
  obtain ⟨a, ha⟩ := h.mem_hexDigits hc
  rw [hall (c, a) ha]
  rfl

/-- **Plain hexadecimal** gives the bytes back. -/
theorem decodeHex_eq (h : HexText s bytes) : decodeHex s = bytes := by
  rw [decodeHex, h.squeeze_eq]
  induction h with
  | nil => rfl
  | cons hhigh hlow _ ih =>
    rw [hexPairs, ih, hexByte, hexDigit?_eq_some_iff.2 hhigh, Option.bind_some,
      hexDigit?_eq_some_iff.2 hlow]

/-- **Compressed hexadecimal** gives as many bytes back as there is room for. -/
theorem decodeCompressed_eq (h : HexText s bytes) (room : ℕ) :
    decodeCompressed s room = bytes.take room := by
  induction h generalizing room with
  | nil => cases room <;> rfl
  | @cons high low a b s bytes hhigh hlow _ ih =>
    have hpair := decodeCompressed_text_append (.pair high low a b hhigh hlow) s room
    rwa [Token.text, Token.bytes, List.cons_append, List.singleton_append, ih, ← List.take_append,
      List.singleton_append] at hpair

theorem fieldBytes_plain (h : HexText s bytes) (total : ℕ) :
    fieldBytes 'A' s total = .ok bytes := by
  rw [fieldBytes, if_pos rfl, h.decodeHex_eq]

end HexText

/-! ### Fields in a label file -/

/-- **A graphic field as a command** of a label file. -/
def fieldCommand (encoding : Char) (total row : ℕ) (data : List Char) : List Char :=
  "^GF".toList ++ fieldParams encoding total row data

/-- A graphic field in a label file: its parameters go on to the next designator. -/
theorem parse_graphicField (s : List Char) :
    parse ("^GF".toList ++ s) =
      ⟨"GF".toList, trim (s.takeWhile (!isDesignator ·))⟩ ::
        parse (s.dropWhile (!isDesignator ·)) := by
  have hread : Record.read? ('^' :: 'G' :: 'F' :: s) =
      some (⟨"GF".toList, trim (s.takeWhile (!isDesignator ·))⟩,
        s.dropWhile (!isDesignator ·)) := rfl
  have htext : "^GF".toList ++ s = '^' :: 'G' :: 'F' :: s := rfl
  rw [htext, parse]
  split
  · next r rest h =>
    obtain ⟨rfl, rfl⟩ := Prod.mk.inj (Option.some.inj (hread.symm.trans h))
    rfl
  · next h =>
    rw [hread] at h
    cases h

/-- Blanks at the end of a text reach back to the last character that is none. -/
theorem trimRight_append_cons {c : Char} (h : isBlank c = false) (s t : List Char) :
    trimRight (s ++ c :: t) = s ++ c :: trimRight t := by
  have hc : ¬isBlank c = true := by rw [h]; exact Bool.false_ne_true
  have hreverse : (s ++ c :: t).reverse = t.reverse ++ c :: s.reverse := by
    rw [List.reverse_append, List.reverse_cons, List.append_assoc, List.singleton_append]
  unfold trimRight trimLeft
  rw [hreverse, List.dropWhile_append]
  split_ifs with hempty
  · rw [List.dropWhile_cons_of_neg hc, List.isEmpty_iff.1 hempty]
    simp
  · simp

section
variable {encoding : Char} (he : encoding ∈ ['A', 'B', 'H']) (total row : ℕ) (data : List Char)
include he

/-- What stands before the data is no designator. -/
theorem isDesignator_of_mem_fieldHead {c : Char} (hc : c ∈ fieldHead encoding total row) :
    isDesignator c = false := by
  have hdecimal {n : ℕ} (hc : c ∈ decimal n) : isDesignator c = false := by
    by_contra hmark
    have hdigit := isDigit_of_mem_decimal hc
    rcases isDesignator_iff.1 (Bool.not_eq_false _ ▸ hmark) with rfl | rfl
    · exact absurd hdigit (by decide)
    · exact absurd hdigit (by decide)
  have hall : ∀ d ∈ [',', 'A', 'B', 'H'], isDesignator d = false := by simp [isDesignator]
  have hsome : c ∈ [',', 'A', 'B', 'H'] ∨ c ∈ decimal total ∨ c ∈ decimal row := by
    simp only [fieldHead, List.mem_cons, List.mem_append, List.not_mem_nil, or_false] at hc he ⊢
    rcases hc with rfl | rfl | hc | rfl | hc | rfl | hc
    · exact .inl (.inr he)
    · exact .inl (.inl rfl)
    · exact .inr (.inl hc)
    · exact .inl (.inl rfl)
    · exact .inr (.inl hc)
    · exact .inl (.inl rfl)
    · exact .inr (.inr hc)
  rcases hsome with hc | hc | hc
  · exact hall c hc
  · exact hdecimal hc
  · exact hdecimal hc

/-- **A written field in a label file**: its data go on to the next designator, without the blanks
before it. -/
theorem parse_fieldParams :
    parse (fieldCommand encoding total row data) =
      ⟨"GF".toList,
        fieldParams encoding total row (trimRight (data.takeWhile (!isDesignator ·)))⟩ ::
        parse (data.dropWhile (!isDesignator ·)) := by
  have hplain : ∀ c ∈ fieldHead encoding total row, (!isDesignator c) = true := by
    intro c hc
    rw [isDesignator_of_mem_fieldHead he total row hc]
    rfl
  have hcomma : (!isDesignator ',') = true := by decide
  have hblank : isBlank ',' = false := by decide
  have hfirst : isBlank encoding = false := by
    simp only [List.mem_cons, List.not_mem_nil, or_false] at he
    rcases he with rfl | rfl | rfl <;> decide
  have htake : (',' :: data).takeWhile (!isDesignator ·) =
      ',' :: data.takeWhile (!isDesignator ·) := List.takeWhile_cons_of_pos hcomma
  have hdrop : (',' :: data).dropWhile (!isDesignator ·) = data.dropWhile (!isDesignator ·) :=
    List.dropWhile_cons_of_pos hcomma
  have hleft (s : List Char) : trimLeft (fieldHead encoding total row ++ s) =
      fieldHead encoding total row ++ s := trimLeft_cons_of_not_blank hfirst
  rw [fieldCommand, fieldParams, parse_graphicField, List.takeWhile_append_of_pos hplain, htake,
    List.dropWhile_append_of_pos hplain, hdrop, trim, hleft, trimRight_append_cons hblank,
    fieldParams]

end

/-- **The bytes of a binary field that reading keeps**: those before the first designator, without
the blanks at their end. -/
def keptBytes (bytes : List UInt8) : List UInt8 :=
  (bytes.takeWhile fun byte => !isDesignator (byteChar byte)).rdropWhile
    fun byte => isBlank (byteChar byte)

/-- What follows the data of a binary field: everything from the first designator on. -/
def restBytes (bytes : List UInt8) : List UInt8 :=
  bytes.dropWhile fun byte => !isDesignator (byteChar byte)

theorem parse_binary (total row : ℕ) (bytes : List UInt8) :
    parse (fieldCommand 'B' total row (bytes.map byteChar)) =
      ⟨"GF".toList, fieldParams 'B' total row ((keptBytes bytes).map byteChar)⟩ ::
        parse ((restBytes bytes).map byteChar) := by
  have hkept : trimRight ((bytes.map byteChar).takeWhile (!isDesignator ·)) =
      (keptBytes bytes).map byteChar := by
    rw [List.takeWhile_map, trimRight, trimLeft, ← List.map_reverse, List.dropWhile_map,
      ← List.map_reverse]
    rfl
  rw [parse_fieldParams (by decide), hkept, List.dropWhile_map]
  rfl

/-- **The bytes that are blank characters**: the control characters among the blanks, the
information separators, the space, and two blanks beyond ASCII. -/
def blankBytes : List UInt8 :=
  [0x09, 0x0a, 0x0b, 0x0c, 0x0d, 0x1c, 0x1d, 0x1e, 0x1f, 0x20, 0x85, 0xa0]

theorem isBlank_byteChar (byte : UInt8) : isBlank (byteChar byte) = decide (byte ∈ blankBytes) := by
  have hall : ∀ n < 256, isBlank (Char.ofNat n) = decide (UInt8.ofNat n ∈ blankBytes) := by
    decide +kernel
  have hbyte := hall byte.toNat byte.toNat_lt
  rwa [UInt8.ofNat_toNat] at hbyte

theorem isDesignator_byteChar {byte : UInt8} (h : byte ≠ 0x5e ∧ byte ≠ 0x7e) :
    isDesignator (byteChar byte) = false := by
  by_contra hmark
  rcases isDesignator_iff.1 (Bool.not_eq_false _ ▸ hmark) with hchar | hchar
  · exact h.1 (UInt8.toNat_inj.1 ((toNat_byteChar byte).symm.trans (congrArg Char.toNat hchar)))
  · exact h.2 (UInt8.toNat_inj.1 ((toNat_byteChar byte).symm.trans (congrArg Char.toNat hchar)))

section
variable {bytes : List UInt8} (h : ∀ byte ∈ bytes, byte ≠ 0x5e ∧ byte ≠ 0x7e)
include h

theorem restBytes_eq_nil : restBytes bytes = [] := by
  refine List.dropWhile_eq_nil_iff.2 fun byte hbyte => ?_
  rw [isDesignator_byteChar (h byte hbyte)]
  rfl

/-- Bytes without a designator and without a blank at the end are all kept. -/
theorem keptBytes_eq_self (hlast : ∀ byte ∈ bytes.getLast?, byte ∉ blankBytes) :
    keptBytes bytes = bytes := by
  have hall : bytes.takeWhile (fun byte => !isDesignator (byteChar byte)) = bytes := by
    refine List.takeWhile_eq_self_iff.2 fun byte hbyte => ?_
    rw [isDesignator_byteChar (h byte hbyte)]
    rfl
  rw [keptBytes, hall, List.rdropWhile_eq_self_iff]
  intro hsome
  have hmem := hlast _ (List.getLast_mem_getLast? hsome)
  rw [isBlank_byteChar, decide_eq_true_eq]
  exact hmem

end

section
variable {hex : List Char} {bytes : List UInt8} (h : HexText hex bytes) (total row : ℕ)
include h

/-- Digits are all kept. -/
theorem parse_plain :
    parse (fieldCommand 'A' total row hex) =
      [⟨"GF".toList, fieldParams 'A' total row hex⟩] := by
  have hplain : ∀ c ∈ hex, (!isDesignator c) = true := by
    have hall : ∀ p ∈ hexDigits, (!isDesignator p.1) = true := by decide
    intro c hc
    obtain ⟨a, ha⟩ := h.mem_hexDigits hc
    exact hall (c, a) ha
  have htrim : trimRight hex = hex := by
    have hall : ∀ p ∈ hexDigits, ¬isBlank p.1 = true := by decide
    have hlast : ∀ hsome : hex ≠ [], ¬isBlank (hex.getLast hsome) = true := by
      intro hsome
      obtain ⟨a, ha⟩ := h.mem_hexDigits (List.getLast_mem hsome)
      exact hall (hex.getLast hsome, a) ha
    exact (List.rdropWhile_eq_self_iff (p := isBlank)).2 hlast
  rw [parse_fieldParams (by decide), List.takeWhile_eq_self_iff.2 hplain, htrim,
    List.dropWhile_eq_nil_iff.2 hplain, parse]

/-- **Binary data describe the bitmap that their digits describe.** -/
theorem ofParams_binary :
    GraphicField.ofParams (fieldParams 'B' total row (bytes.map byteChar)) =
      GraphicField.ofParams (fieldParams 'A' total row hex) := by
  have hempty : bytes.map byteChar = [] ↔ hex = [] := by
    rw [List.map_eq_nil_iff, h.eq_nil_iff]
  have hbinary : fieldBytes 'B' (bytes.map byteChar) total = .ok bytes := by
    rw [fieldBytes, if_neg (by decide), if_pos rfl, decodeBinary_map_byteChar]
  rw [ofParams_fieldParams (by decide), ofParams_fieldParams (by decide), h.fieldBytes_plain,
    hbinary]
  simp only [hempty]

end

end LabelPress.Markup
