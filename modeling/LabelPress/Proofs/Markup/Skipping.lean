import LabelPress.Proofs.Markup.Compression

/-! # Characters that compressed data skip

A character that is neither a digit nor a run letter stands for nothing in compressed data, but only
between two pieces. Behind the first half of a piece the next character is taken with it, whatever
it is: there a character is not skipped but read like a zero, a digit before it becomes a byte of
its own, and a run letter before it repeats zeros.

* `isMark`: the digits and the run letters.
* `isHalfRead`: is the reading inside a piece at the end of a text?
* `decodeCompressed_append`: between two pieces the reading starts anew.
* `decodeCompressed_filter`: characters between two pieces may be left out.
* `othersBetween_iff`: and no others.
* `decodeInto_filter_isMark`: which characters may be left out, and how the others are read. -/

namespace LabelPress.Markup

/-- Is the character a digit or a run letter? -/
def isMark (c : Char) : Bool := (runLetters ++ hexDigits).any (·.1 == c)

theorem isMark_eq_true_iff {c : Char} :
    isMark c = true ↔ (∃ n, runLength? c = some n) ∨ ∃ a, hexDigit? c = some a := by
  simp only [isMark, List.any_append, Bool.or_eq_true, List.any_eq_true, beq_iff_eq,
    runLength?_eq_some_iff, hexDigit?_eq_some_iff]
  constructor
  · rintro (⟨⟨c, n⟩, hmem, rfl⟩ | ⟨⟨c, a⟩, hmem, rfl⟩)
    · exact Or.inl ⟨n, hmem⟩
    · exact Or.inr ⟨a, hmem⟩
  · rintro (⟨n, hmem⟩ | ⟨a, hmem⟩)
    · exact Or.inl ⟨(c, n), hmem, rfl⟩
    · exact Or.inr ⟨(c, a), hmem, rfl⟩

theorem isMark_of_runLength? {c : Char} {n : ℕ} (h : runLength? c = some n) : isMark c = true :=
  isMark_eq_true_iff.2 (Or.inl ⟨n, h⟩)

theorem isMark_of_hexDigit? {c : Char} {a : ℕ} (h : hexDigit? c = some a) : isMark c = true :=
  isMark_eq_true_iff.2 (Or.inr ⟨a, h⟩)

theorem isMark_eq_false_iff {c : Char} :
    isMark c = false ↔ runLength? c = none ∧ hexDigit? c = none := by
  rw [← Bool.not_eq_true, isMark_eq_true_iff, not_or, ← Option.ne_none_iff_exists',
    ← Option.ne_none_iff_exists', not_not, not_not]

/-! ### Pieces -/

/-- **Is the reading inside a piece** at the end of the text? A digit or a run letter begins a
piece, and the next character ends it, whatever it is. -/
def isHalfRead (s : List Char) : Bool := s.foldl (fun half c => !half && isMark c) false

theorem isHalfRead_singleton (c : Char) : isHalfRead [c] = isMark c := rfl

theorem isHalfRead_mark {c d : Char} {s : List Char} (h : isMark c = true) :
    isHalfRead (c :: d :: s) = isHalfRead s := by
  simp [isHalfRead, h]

theorem isHalfRead_other {c : Char} {s : List Char} (h : isMark c = false) :
    isHalfRead (c :: s) = isHalfRead s := by
  simp [isHalfRead, h]

theorem isHalfRead_concat (s : List Char) (c : Char) :
    isHalfRead (s ++ [c]) = (!isHalfRead s && isMark c) := by
  simp [isHalfRead]

theorem decodeCompressed_run {c d : Char} {n : ℕ} (h : runLength? c = some n) (s : List Char)
    (room : ℕ) : decodeCompressed (c :: d :: s) room =
      List.replicate (min n room) (runByte (some d)) ++ decodeCompressed s (room - n) := by
  cases room with
  | zero => simp
  | succ room => simp only [decodeCompressed, h]

theorem decodeCompressed_digit {c d : Char} {a : ℕ} (h : hexDigit? c = some a) (s : List Char)
    (room : ℕ) : decodeCompressed (c :: d :: s) (room + 1) =
      hexByte c (some d) :: decodeCompressed s room := by
  simp only [decodeCompressed, runLength?_of_hexDigit? h, h, Nat.add_sub_cancel]

theorem decodeCompressed_other {c : Char} (h : isMark c = false) (s : List Char) (room : ℕ) :
    decodeCompressed (c :: s) room = decodeCompressed s room := by
  obtain ⟨hrun, hdigit⟩ := isMark_eq_false_iff.1 h
  cases room with
  | zero => simp
  | succ room => cases s <;> simp only [decodeCompressed, hrun, hdigit]

/-- **Between two pieces the reading starts anew**, with the room that is left. -/
theorem decodeCompressed_append {s : List Char} (h : isHalfRead s = false) (t : List Char)
    (room : ℕ) : decodeCompressed (s ++ t) room =
      decodeCompressed s room ++ decodeCompressed t (room - (decodeCompressed s room).length) := by
  fun_induction decodeCompressed s room with
  | case1 s => simp
  | case2 room => simp
  | case3 c room _ n hrun =>
    rw [isHalfRead_singleton, isMark_of_runLength? hrun] at h
    cases h
  | case4 c room _ a hdigit hrun =>
    rw [isHalfRead_singleton, isMark_of_hexDigit? hdigit] at h
    cases h
  | case5 c room _ hdigit hrun =>
    rw [List.singleton_append, decodeCompressed_other (isMark_eq_false_iff.2 ⟨hrun, hdigit⟩)]
    simp
  | case6 c d s room _ n hrun ih =>
    rw [isHalfRead_mark (isMark_of_runLength? hrun)] at h
    have hleft : room - (min n room + (decodeCompressed s (room - n)).length) =
        room - n - (decodeCompressed s (room - n)).length := by omega
    rw [List.cons_append, List.cons_append, decodeCompressed_run hrun, ih h, List.append_assoc,
      List.length_append, List.length_replicate, hleft]
  | case7 c d s room hroom a hdigit hrun ih =>
    rw [isHalfRead_mark (isMark_of_hexDigit? hdigit)] at h
    obtain ⟨room, rfl⟩ := Nat.exists_eq_succ_of_ne_zero hroom
    rw [Nat.succ_sub_one] at ih ⊢
    rw [List.cons_append, List.cons_append, decodeCompressed_digit hdigit, ih h, List.cons_append,
      List.length_cons, Nat.succ_sub_succ]
  | case8 c d s room _ hdigit hrun ih =>
    have hother := isMark_eq_false_iff.2 ⟨hrun, hdigit⟩
    rw [isHalfRead_other hother] at h
    rw [List.cons_append, decodeCompressed_other hother, ih h]

/-! ### Characters between two pieces -/

/-- **All skipped characters stand between two pieces.** -/
def OthersBetween (data : List Char) : Prop :=
  ∀ i c, data[i]? = some c → isMark c = false → isHalfRead (data.take i) = false

theorem OthersBetween.mark {c d : Char} {s : List Char} (h : OthersBetween (c :: d :: s))
    (hc : isMark c = true) : isMark d = true ∧ OthersBetween s := by
  constructor
  · by_contra hd
    have hhalf := h 1 d rfl (Bool.not_eq_true _ ▸ hd)
    rw [List.take_succ_cons, List.take_zero, isHalfRead_singleton, hc] at hhalf
    cases hhalf
  · intro i e he hother
    have hhalf := h (i + 2) e he hother
    rwa [List.take_succ_cons, List.take_succ_cons, isHalfRead_mark hc] at hhalf

theorem OthersBetween.other {c : Char} {s : List Char} (h : OthersBetween (c :: s))
    (hc : isMark c = false) : OthersBetween s := by
  intro i e he hother
  have hhalf := h (i + 1) e he hother
  rwa [List.take_succ_cons, isHalfRead_other hc] at hhalf

theorem OthersBetween.take {data : List Char} (h : OthersBetween data) (n : ℕ) :
    OthersBetween (data.take n) := by
  intro i c hi hother
  have hlt : i < n := by
    by_contra hge
    rw [List.getElem?_take_eq_none (not_lt.1 hge)] at hi
    cases hi
  rw [List.getElem?_take_of_lt hlt] at hi
  rw [List.take_take, Nat.min_eq_left hlt.le]
  exact h i c hi hother

/-- **Characters between two pieces may be left out**, whatever follows. -/
theorem decodeCompressed_filter {data : List Char} (h : OthersBetween data) (t : List Char)
    (room : ℕ) :
    decodeCompressed (data.filter isMark ++ t) room = decodeCompressed (data ++ t) room := by
  fun_induction decodeCompressed data room with
  | case1 data => rw [decodeCompressed_zero, decodeCompressed_zero]
  | case2 room => rfl
  | case3 c room _ n hrun =>
    rw [List.filter_singleton, isMark_of_runLength? hrun]
    rfl
  | case4 c room _ a hdigit hrun =>
    rw [List.filter_singleton, isMark_of_hexDigit? hdigit]
    rfl
  | case5 c room _ hdigit hrun =>
    have hother := isMark_eq_false_iff.2 ⟨hrun, hdigit⟩
    rw [List.filter_singleton, hother, List.singleton_append, decodeCompressed_other hother]
    rfl
  | case6 c d s room _ n hrun ih =>
    -- The character behind a run letter is no skipped one, so both stay.
    have hc := isMark_of_runLength? hrun
    obtain ⟨hd, hrest⟩ := h.mark hc
    rw [List.filter_cons_of_pos hc, List.filter_cons_of_pos hd, List.cons_append,
      List.cons_append, decodeCompressed_run hrun, ih hrest, List.cons_append, List.cons_append,
      decodeCompressed_run hrun]
  | case7 c d s room hroom a hdigit hrun ih =>
    have hc := isMark_of_hexDigit? hdigit
    obtain ⟨hd, hrest⟩ := h.mark hc
    obtain ⟨room, rfl⟩ := Nat.exists_eq_succ_of_ne_zero hroom
    rw [Nat.succ_sub_one] at ih
    rw [List.filter_cons_of_pos hc, List.filter_cons_of_pos hd, List.cons_append,
      List.cons_append, decodeCompressed_digit hdigit, ih hrest, List.cons_append,
      List.cons_append, decodeCompressed_digit hdigit]
  | case8 c d s room _ hdigit hrun ih =>
    have hother := isMark_eq_false_iff.2 ⟨hrun, hdigit⟩
    have hrest : c :: d :: s ++ t = c :: (d :: s ++ t) := rfl
    rw [List.filter_cons_of_neg (by rw [hother]; exact Bool.false_ne_true), ih (h.other hother),
      hrest, decodeCompressed_other hother]

theorem runLength?_le {c : Char} {n : ℕ} (h : runLength? c = some n) : n ≤ 400 := by
  have hall : ∀ p ∈ runLetters, p.2 ≤ 400 := by decide
  exact hall (c, n) (runLength?_eq_some_iff.1 h)

/-- No character stands for more than 400 bytes. -/
theorem length_decodeCompressed_le (s : List Char) (room : ℕ) :
    (decodeCompressed s room).length ≤ 400 * s.length := by
  fun_induction decodeCompressed s room with
  | case1 s => exact Nat.zero_le _
  | case2 room => exact Nat.zero_le _
  | case3 c room _ n hrun =>
    have hle := runLength?_le hrun
    simp only [List.length_replicate, List.length_singleton]
    omega
  | case4 c room _ a hdigit hrun => simp
  | case5 c room _ hdigit hrun => exact Nat.zero_le _
  | case6 c d s room _ n hrun ih =>
    have hle := runLength?_le hrun
    simp only [List.length_append, List.length_replicate, List.length_cons]
    omega
  | case7 c d s room _ a hdigit hrun ih =>
    simp only [List.length_cons]
    omega
  | case8 c d s room _ hdigit hrun ih =>
    simp only [List.length_cons] at ih ⊢
    omega

/-- A character inside a piece makes a digit after it a byte more. -/
theorem length_decodeCompressed_insert {h : Char} (hh : isMark h = true) (c : Char) {room : ℕ}
    (hroom : 401 ≤ room) :
    (decodeCompressed [h, c, '1'] room).length = (decodeCompressed [h, '1'] room).length + 1 := by
  have hdigit : hexDigit? '1' = some 1 := by decide
  have hone {room : ℕ} (hroom : room ≠ 0) : (decodeCompressed ['1'] room).length = 1 := by
    obtain ⟨room, rfl⟩ := Nat.exists_eq_succ_of_ne_zero hroom
    simp only [decodeCompressed, runLength?_of_hexDigit? hdigit, hdigit, List.length_singleton]
  have hnone (room : ℕ) : (decodeCompressed [] room).length = 0 := by cases room <;> rfl
  rcases isMark_eq_true_iff.1 hh with ⟨n, hrun⟩ | ⟨a, hhex⟩
  · have hle := runLength?_le hrun
    rw [decodeCompressed_run hrun, decodeCompressed_run hrun, List.length_append,
      List.length_append, hone (by omega), hnone, List.length_replicate, List.length_replicate]
  · obtain ⟨room, rfl⟩ := Nat.exists_eq_succ_of_ne_zero (show room ≠ 0 by omega)
    rw [decodeCompressed_digit hhex, decodeCompressed_digit hhex, List.length_cons,
      List.length_cons, hone (by omega), hnone]

/-- **Where a skipped character makes no difference, whatever follows**: between two pieces, and
nowhere else. -/
theorem decodeCompressed_insert_iff {s : List Char} {c : Char} (hc : isMark c = false) :
    (∀ t room, decodeCompressed (s ++ c :: t) room = decodeCompressed (s ++ t) room) ↔
      isHalfRead s = false := by
  constructor
  · intro hsame
    by_contra hhalf
    rcases List.eq_nil_or_concat' s with rfl | ⟨s, h, rfl⟩
    · exact hhalf rfl
    rw [isHalfRead_concat, Bool.not_eq_false, Bool.and_eq_true, Bool.not_eq_true'] at hhalf
    obtain ⟨hs, hh⟩ := hhalf
    have hlength := congrArg List.length (hsame ['1'] (400 * s.length + 401))
    have hle := length_decodeCompressed_le s (400 * s.length + 401)
    rw [List.append_assoc, List.append_assoc, List.singleton_append, List.singleton_append,
      decodeCompressed_append hs, decodeCompressed_append hs, List.length_append,
      List.length_append, length_decodeCompressed_insert hh c (by omega)] at hlength
    omega
  · intro hs t room
    rw [decodeCompressed_append hs, decodeCompressed_append hs, decodeCompressed_other hc]

/-- **Where leaving out makes no difference**, wherever the data break off and whatever follows:
where all skipped characters stand between two pieces, and nowhere else. -/
theorem othersBetween_iff {data : List Char} :
    OthersBetween data ↔ ∀ i t room,
      decodeCompressed ((data.take i).filter isMark ++ t) room =
        decodeCompressed (data.take i ++ t) room := by
  constructor
  · exact fun h i t room => decodeCompressed_filter (h.take i) t room
  · intro hsame i c hi hc
    refine (decodeCompressed_insert_iff hc).1 fun t room => ?_
    have hnext : data.take (i + 1) = data.take i ++ [c] := by
      rw [List.take_add_one, hi]
      rfl
    have hfilter : (data.take (i + 1)).filter isMark = (data.take i).filter isMark := by
      rw [hnext, List.filter_append, List.filter_singleton, hc]
      exact List.append_nil _
    have hlonger := hsame (i + 1) t room
    rw [hfilter, hnext, List.append_assoc, List.singleton_append] at hlonger
    exact hlonger.symm.trans (hsame i t room)

/-! ### Characters inside a piece -/

section
variable {s : List Char} {c h : Char}

/-- Behind a digit a skipped character makes the digit a byte of its own. -/
theorem decodeCompressed_skipped_after_digit (hs : isHalfRead s = false) (hc : isMark c = false)
    {a : ℕ} (hh : hexDigit? h = some a) (t : List Char) (room : ℕ) :
    decodeCompressed (s ++ h :: c :: t) room = decodeCompressed (s ++ '0' :: h :: t) room := by
  have hzero : hexDigit? '0' = some 0 := by decide
  have hbyte : hexByte h (some c) = hexByte '0' (some h) := by
    simp only [hexByte, hh, hzero, Option.bind_some, (isMark_eq_false_iff.1 hc).2, Nat.mul_zero,
      Nat.zero_add]
  rw [decodeCompressed_append hs, decodeCompressed_append hs]
  congr 1
  cases room - (decodeCompressed s room).length with
  | zero => rw [decodeCompressed_zero, decodeCompressed_zero]
  | succ room => rw [decodeCompressed_digit hh, decodeCompressed_digit hzero, hbyte]

/-- Behind a run letter a skipped character makes the letter repeat zeros. -/
theorem decodeCompressed_skipped_after_run (hs : isHalfRead s = false) (hc : isMark c = false)
    {n : ℕ} (hh : runLength? h = some n) (t : List Char) (room : ℕ) :
    decodeCompressed (s ++ h :: c :: t) room = decodeCompressed (s ++ h :: '0' :: t) room := by
  have hzero : hexDigit? '0' = some 0 := by decide
  have hbyte : runByte (some c) = runByte (some '0') := by
    simp only [runByte, Option.bind_some, (isMark_eq_false_iff.1 hc).2, hzero, Option.getD_none,
      Option.getD_some]
  rw [decodeCompressed_append hs, decodeCompressed_append hs, decodeCompressed_run hh,
    decodeCompressed_run hh, hbyte]

end

theorem decodeInto_congr {s t : List Char}
    (h : ∀ room, decodeCompressed s room = decodeCompressed t room) (total : ℤ) :
    decodeInto s total = decodeInto t total := by
  rw [decodeInto, decodeInto, funext h]

/-- **Skipped characters.** Leaving them out makes no difference, wherever the data break off and
whatever follows, exactly if they all stand between two pieces; and then the data decode to the same
bytes without them. Behind a digit that begins a piece a skipped character makes this digit a byte
of its own, and behind a run letter it makes the letter repeat zeros. -/
theorem decodeInto_filter_isMark (data : List Char) :
    (OthersBetween data ↔ ∀ i t room,
      decodeCompressed ((data.take i).filter isMark ++ t) room =
        decodeCompressed (data.take i ++ t) room) ∧
    (OthersBetween data →
      ∀ total, decodeInto (data.filter isMark) total = decodeInto data total) ∧
    ∀ c t total, isHalfRead data = false → isMark c = false →
      (∀ p ∈ hexDigits, decodeInto (data ++ p.1 :: c :: t) total =
        decodeInto (data ++ '0' :: p.1 :: t) total) ∧
      ∀ p ∈ runLetters, decodeInto (data ++ p.1 :: c :: t) total =
        decodeInto (data ++ p.1 :: '0' :: t) total := by
  refine ⟨othersBetween_iff, fun h => decodeInto_congr fun room => ?_, ?_⟩
  · have hsame := decodeCompressed_filter h [] room
    rwa [List.append_nil, List.append_nil] at hsame
  intro c t total hs hc
  constructor
  · intro p hp
    have hdigit := hexDigit?_eq_some_iff.2 (show (p.1, p.2) ∈ hexDigits from hp)
    exact decodeInto_congr (decodeCompressed_skipped_after_digit hs hc hdigit t) total
  · intro p hp
    have hrun := runLength?_eq_some_iff.2 (show (p.1, p.2) ∈ runLetters from hp)
    exact decodeInto_congr (decodeCompressed_skipped_after_run hs hc hrun t) total

/-- A line end between pieces, and a space behind a digit and behind a run letter. -/
theorem decodeInto_filter_isMark_lines :
    OthersBetween ['A', '5', '\n', 'H', 'F'] ∧
    decodeInto ['A', '5', 'H', 'F'] 4 = decodeInto ['A', '5', '\n', 'H', 'F'] 4 ∧
    isMark ' ' = false ∧ isHalfRead ['A', '5'] = false ∧
    decodeInto ['A', '5', 'B', ' ', '7'] 4 = decodeInto ['A', '5', '0', 'B', '7'] 4 ∧
    decodeInto ['A', '5', 'H', ' ', '7'] 4 = decodeInto ['A', '5', 'H', '0', '7'] 4 := by
  have hspace : isMark ' ' = false := by decide
  have hhalf : isHalfRead ['A', '5'] = false := by decide
  have hbetween : OthersBetween ['A', '5', '\n', 'H', 'F'] := by
    intro i c hi hother
    match i with
    | 2 => exact hhalf
    | 0 | 1 | 3 | 4 =>
      obtain rfl := Option.some.inj hi
      exact absurd hother (by decide)
    | i + 5 => cases hi
  obtain ⟨hdigit, hrun⟩ := (decodeInto_filter_isMark ['A', '5']).2.2 ' ' ['7'] 4 hhalf hspace
  exact ⟨hbetween, (decodeInto_filter_isMark _).2.1 hbetween 4, hspace, hhalf,
    hdigit ('B', 11) (by decide), hrun ('H', 2) (by decide)⟩

/-- A space in the middle of two digits. -/
theorem not_decodeInto_filter_isMark :
    ¬∀ (data : List Char) (total : ℤ), 0 ≤ total →
      decodeInto (data.filter isMark) total = decodeInto data total := by
  intro hall
  have hspace := hall "A B".toList 1 (by decide)
  exact absurd hspace (by decide)

end LabelPress.Markup
