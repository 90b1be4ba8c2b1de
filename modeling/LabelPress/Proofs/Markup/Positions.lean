import LabelPress.Markup.Record
import Mathlib

/-! # Commands by position

A text is read from left to right, and after a command the reading goes on where its parameters end.
The same records come out when every position of the text is looked at by itself: there is one for
each designator that stands directly before a letter, and it depends on nothing before it.

* `beginsAt`, `recordAt`: the positions at which commands begin, and their records.
* `recordsOf`: the records of all positions, in order.
* `parse_eq_recordsOf`: reading gives these records.
* `parse_eq_map_recordAt`: the same with the letters told, and texts read piece by piece. -/

namespace LabelPress.Markup

open Text

/-- Does a command begin at the position? -/
def beginsAt (text : List Char) (i : Nat) : Bool :=
  (text[i]?).any isDesignator && (text[i + 1]?).any isNameLetter

/-- How many letters the name at a position has. -/
def nameLengthAt (text : List Char) (i : Nat) : Nat :=
  if (text[i + 2]?).any isNameLetter then 2 else 1

/-- **The record of the command at a position**: its name in upper case, and what follows up to the
next designator, without the blanks around it. -/
def recordAt (text : List Char) (i : Nat) : Record where
  name := upper ((text.drop (i + 1)).take (nameLengthAt text i))
  params := trim ((text.drop (i + 1 + nameLengthAt text i)).takeWhile (!isDesignator ·))

/-- The records of all commands, position by position. -/
def recordsOf (text : List Char) : List Record :=
  ((List.range text.length).filter (beginsAt text)).map (recordAt text)

theorem isDesignator_iff {c : Char} : isDesignator c = true ↔ c = '^' ∨ c = '~' := by
  simp [isDesignator]

theorem isNameLetter_iff {c : Char} :
    isNameLetter c = true ↔ ('A' ≤ c ∧ c ≤ 'Z' ∨ 'a' ≤ c ∧ c ≤ 'z') ∨
      c ∈ ['\u0130', '\u0131', '\u017f', '\u212a'] := by
  simp [isNameLetter, Char.isAlpha, Char.isUpper, Char.isLower, Char.le_def, or_assoc]

theorem not_isNameLetter_of_isDesignator {c : Char} (h : isDesignator c = true) :
    isNameLetter c = false := by
  rcases isDesignator_iff.1 h with rfl | rfl <;> decide

/-! ### Names -/

theorem nameLengthAt_cases (text : List Char) (i : Nat) :
    nameLengthAt text i = 1 ∨ nameLengthAt text i = 2 := by
  unfold nameLengthAt
  split_ifs
  · exact Or.inr rfl
  · exact Or.inl rfl

/-- The name at a position is made of letters, as many as it should have. -/
theorem name_letters {text : List Char} {i : Nat} (h : beginsAt text i = true) :
    ((text.drop (i + 1)).take (nameLengthAt text i)).length = nameLengthAt text i ∧
      ∀ c ∈ (text.drop (i + 1)).take (nameLengthAt text i), isNameLetter c = true := by
  have hfirst : (text.drop (i + 1))[0]? = text[i + 1]? := by simp
  have hsecond : (text.drop (i + 1))[1]? = text[i + 2]? := by simp
  simp only [beginsAt, Bool.and_eq_true] at h
  unfold nameLengthAt
  rw [← hsecond]
  generalize text.drop (i + 1) = s at hfirst ⊢
  rw [← hfirst] at h
  cases s with
  | nil => simp at h
  | cons a s =>
    have ha : isNameLetter a = true := by simpa using h.2
    split_ifs with htwo
    · cases s with
      | nil => simp at htwo
      | cons b s =>
        have hb : isNameLetter b = true := by simpa using htwo
        simp [ha, hb]
    · simp [ha]

/-! ### The first position -/

theorem recordsOf_cons (c : Char) (s : List Char) :
    recordsOf (c :: s) =
      (if beginsAt (c :: s) 0 then [recordAt (c :: s) 0] else []) ++ recordsOf s := by
  have hshift : (List.range (s.length + 1)).filter (beginsAt (c :: s)) =
      (if beginsAt (c :: s) 0 then [0] else []) ++
        ((List.range s.length).filter (beginsAt s)).map Nat.succ := by
    rw [List.range_succ_eq_map, List.filter_cons, List.filter_map]
    have hnext : beginsAt (c :: s) ∘ Nat.succ = beginsAt s := rfl
    rw [hnext]
    split_ifs <;> rfl
  have hrecord : recordAt (c :: s) ∘ Nat.succ = recordAt s := by
    funext i
    have hdrop (n : Nat) : (c :: s).drop (i.succ + 1 + n) = s.drop (i + 1 + n) := by
      rw [show i.succ + 1 + n = i + 1 + n + 1 by omega, List.drop_succ_cons]
    simp only [Function.comp_apply, recordAt, hdrop, List.drop_succ_cons]
    rfl
  rw [recordsOf, List.length_cons, hshift, List.map_append, List.map_map, hrecord, recordsOf]
  split_ifs <;> rfl

/-- What holds no designator holds no command. -/
theorem recordsOf_append_of_plain {t : List Char} (h : ∀ c ∈ t, isDesignator c = false)
    (s : List Char) : recordsOf (t ++ s) = recordsOf s := by
  induction t with
  | nil => rfl
  | cons c t ih =>
    have hc : beginsAt (c :: (t ++ s)) 0 = false := by
      simp [beginsAt, h c List.mem_cons_self]
    rw [List.cons_append, recordsOf_cons, hc, ih fun d hd => h d (List.mem_cons_of_mem c hd)]
    rfl

/-! ### Reading -/

/-- What a command is read from: its name is cut off as the next letters tell. -/
theorem read?_eq (c a : Char) (s : List Char) :
    Record.read? (c :: a :: s) =
      if beginsAt (c :: a :: s) 0 then
        some (recordAt (c :: a :: s) 0,
          ((c :: a :: s).drop (1 + nameLengthAt (c :: a :: s) 0)).dropWhile (!isDesignator ·))
      else none := by
  have hsplit : splitName a s = ((a :: s).take (nameLengthAt (c :: a :: s) 0),
      (c :: a :: s).drop (1 + nameLengthAt (c :: a :: s) 0)) := by
    cases s with
    | nil => rfl
    | cons b s =>
      have hname : nameLengthAt (c :: a :: b :: s) 0 = if isNameLetter b then 2 else 1 := by
        simp [nameLengthAt]
      rw [splitName, hname]
      split_ifs <;> rfl
  have hbegin : beginsAt (c :: a :: s) 0 = (isDesignator c && isNameLetter a) := by
    simp [beginsAt]
  rw [Record.read?, hbegin, hsplit]
  simp [recordAt]

/-- What a command takes in after its designator holds no other designator. -/
theorem plain_of_begins {c a : Char} {s : List Char} (h : beginsAt (c :: a :: s) 0 = true) :
    ∃ t, (∀ d ∈ t, isDesignator d = false) ∧
      a :: s = t ++
        ((c :: a :: s).drop (1 + nameLengthAt (c :: a :: s) 0)).dropWhile (!isDesignator ·) := by
  have hletter (d : Char) (hd : isNameLetter d = true) : isDesignator d = false := by
    by_contra hmark
    rw [not_isNameLetter_of_isDesignator (by simpa using hmark)] at hd
    cases hd
  obtain ⟨-, hname⟩ := name_letters h
  set n := nameLengthAt (c :: a :: s) 0
  have hdrop : (c :: a :: s).drop (1 + n) = (a :: s).drop n := by
    rw [Nat.add_comm, List.drop_succ_cons]
  refine ⟨(a :: s).take n ++ ((a :: s).drop n).takeWhile (!isDesignator ·), ?_, ?_⟩
  · intro d hd
    rcases List.mem_append.1 hd with hd | hd
    · exact hletter d (hname d hd)
    · simpa using List.mem_takeWhile_imp hd
  · rw [hdrop, List.append_assoc, List.takeWhile_append_dropWhile, List.take_append_drop]

/-- **Reading gives the records of all positions.** -/
theorem parse_eq_recordsOf (text : List Char) : parse text = recordsOf text := by
  -- After a command the reading leaves out text that holds no designator.
  fun_induction parse text with
  | case1 => rfl
  | case2 c s r rest hread hlt ih =>
    cases s with
    | nil => simp [Record.read?] at hread
    | cons a s =>
      rw [read?_eq] at hread
      split_ifs at hread with hbegin
      obtain ⟨rfl, rfl⟩ := Prod.mk.inj (Option.some.inj hread)
      obtain ⟨t, hplain, htext⟩ := plain_of_begins hbegin
      rw [recordsOf_cons, if_pos hbegin, ih]
      have hskip := recordsOf_append_of_plain hplain
        (((c :: a :: s).drop (1 + nameLengthAt (c :: a :: s) 0)).dropWhile (!isDesignator ·))
      rw [← htext] at hskip
      rw [hskip]
      rfl
  | case3 c s hread ih =>
    have hbegin : beginsAt (c :: s) 0 = false := by
      cases s with
      | nil => simp [beginsAt]
      | cons a s =>
        rw [read?_eq] at hread
        split_ifs at hread with hbegin
        simpa using hbegin
    rw [recordsOf_cons, hbegin, ih]
    rfl

example : recordsOf "^^FO 1,2 ~x^1".toList =
    [⟨"FO".toList, "1,2".toList⟩, ⟨"X".toList, []⟩] := by decide +kernel

/-! ### Pieces of a text -/

section Append

variable {m : Char} (hm : isDesignator m = true) (s : List Char)

include hm

/-- A designator is no letter, so no name goes on beyond it. -/
theorem any_isNameLetter_append {t : List Char} {i : Nat} (hi : i ≤ t.length) :
    ((t ++ m :: s)[i]?).any isNameLetter = (t[i]?).any isNameLetter := by
  rcases Nat.lt_or_ge i t.length with hlt | hge
  · rw [List.getElem?_append_left hlt]
  · obtain rfl : i = t.length := Nat.le_antisymm hi hge
    simp [not_isNameLetter_of_isDesignator hm]

/-- Parameters do not go on beyond a designator. -/
theorem takeWhile_append_designator (t : List Char) :
    (t ++ m :: s).takeWhile (!isDesignator ·) = t.takeWhile (!isDesignator ·) := by
  rw [List.takeWhile_append]
  split_ifs with hall
  · rw [List.takeWhile_cons, hm, (List.takeWhile_prefix _).eq_of_length hall]
    exact List.append_nil t
  · rfl

theorem beginsAt_zero_append (c : Char) (t : List Char) :
    beginsAt (c :: (t ++ m :: s)) 0 = beginsAt (c :: t) 0 := by
  have hletter := any_isNameLetter_append hm s (Nat.zero_le t.length)
  simp only [beginsAt, Nat.zero_add, List.getElem?_cons_succ, hletter, List.getElem?_cons_zero]

theorem recordAt_zero_append {c : Char} {t : List Char} (h : beginsAt (c :: t) 0 = true) :
    recordAt (c :: (t ++ m :: s)) 0 = recordAt (c :: t) 0 := by
  have hpos : 1 ≤ t.length := by
    cases t with
    | nil => simp [beginsAt] at h
    | cons a t => simp
  have hname : nameLengthAt (c :: (t ++ m :: s)) 0 = nameLengthAt (c :: t) 0 := by
    have hletter := any_isNameLetter_append hm s hpos
    simp only [nameLengthAt, Nat.zero_add, List.getElem?_cons_succ, hletter]
  have hlength : nameLengthAt (c :: t) 0 ≤ t.length := by
    unfold nameLengthAt
    split_ifs with htwo
    · by_contra hshort
      have hone : t.length = 1 := by omega
      simp [hone] at htwo
    · exact hpos
  simp only [recordAt, hname, Nat.zero_add, List.drop_succ_cons, List.drop_zero]
  have hdrop (u : List Char) : (c :: u).drop (1 + nameLengthAt (c :: t) 0) =
      u.drop (nameLengthAt (c :: t) 0) := by
    rw [Nat.add_comm, List.drop_succ_cons]
  rw [hdrop, hdrop, List.drop_append_of_le_length hlength, takeWhile_append_designator hm,
    List.take_append_of_le_length hlength]

/-- **A text is read piece by piece**, if the second piece begins with a designator. -/
theorem recordsOf_append (t : List Char) :
    recordsOf (t ++ m :: s) = recordsOf t ++ recordsOf (m :: s) := by
  induction t with
  | nil => rfl
  | cons c t ih =>
    rw [List.cons_append, recordsOf_cons, recordsOf_cons, beginsAt_zero_append hm, ih,
      List.append_assoc]
    split_ifs with hbegin
    · rw [recordAt_zero_append hm s hbegin]
    · rfl

end Append

/-- **Reading, position by position**: the records of a text are those of the positions at which a
designator stands directly before a letter, in order, each told by the text from there on. So a
text is read piece by piece wherever a designator begins the second piece. -/
theorem parse_eq_map_recordAt :
    (∀ text, parse text =
      ((List.range text.length).filter (beginsAt text)).map (recordAt text)) ∧
    (∀ c, isDesignator c = true ↔ c = '^' ∨ c = '~') ∧
    (∀ c, isNameLetter c = true ↔ ('A' ≤ c ∧ c ≤ 'Z' ∨ 'a' ≤ c ∧ c ≤ 'z') ∨
      c ∈ ['\u0130', '\u0131', '\u017f', '\u212a']) ∧
    ∀ a b, parse (a ++ '^' :: b) = parse a ++ parse ('^' :: b) ∧
      parse (a ++ '~' :: b) = parse a ++ parse ('~' :: b) := by
  refine ⟨parse_eq_recordsOf, fun c => isDesignator_iff, fun c => isNameLetter_iff, ?_⟩
  intro a b
  simp only [parse_eq_recordsOf]
  constructor
  · exact recordsOf_append (isDesignator_iff.2 (Or.inl rfl)) b a
  · exact recordsOf_append (isDesignator_iff.2 (Or.inr rfl)) b a

end LabelPress.Markup
