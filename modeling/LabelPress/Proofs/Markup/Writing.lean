import LabelPress.Proofs.Markup.Positions
import LabelPress.Proofs.Text.Capital

/-! # Records as written

A record is written as a caret, its name, a space and its parameters. The space ends the name, so
that a name of one letter does not take the first letter of the parameters along, and reading trims
it away again. What reading makes of a command is stable under both: its name is in capitals that
have no other capital, and its parameters hold no designator and no blank around them.

* `Record.WellFormed`: the records that reading gives, `wellFormed_of_mem_parse`.
* `written`: records as a text; `recordsOf_written`: the text is read back.
* `parse_written_iff`: the round trips, and for which records they work. -/

namespace LabelPress

namespace Text

/-! ### Blanks around a text -/

/-- Neither end of the text is blank. -/
def IsTrimmed (s : List Char) : Prop :=
  (∀ c ∈ s.head?, isBlank c = false) ∧ ∀ c ∈ s.getLast?, isBlank c = false

theorem trimRight_eq (s : List Char) : trimRight s = s.rdropWhile isBlank := rfl

theorem trimLeft_eq_self {s : List Char} (h : ∀ c ∈ s.head?, isBlank c = false) :
    trimLeft s = s := by
  cases s with
  | nil => rfl
  | cons c s => exact trimLeft_cons_of_not_blank (h c rfl)

theorem IsTrimmed.trim_eq {s : List Char} (h : IsTrimmed s) : trim s = s := by
  rw [trim, trimLeft_eq_self h.1, trimRight_eq, List.rdropWhile_eq_self_iff]
  intro hs
  have hlast := h.2 _ (List.getLast?_eq_some_getLast hs)
  simp [hlast]

theorem isTrimmed_trim (s : List Char) : IsTrimmed (trim s) := by
  constructor
  · intro c hc
    have hleft : c ∈ (trimLeft s).head? := by
      obtain ⟨t, ht⟩ := List.rdropWhile_prefix isBlank (trimLeft s)
      rw [← ht]
      exact List.mem_head?_append_of_mem_head? hc
    unfold trimLeft at hleft
    rw [← List.find?_not_eq_head?_dropWhile] at hleft
    simpa using List.find?_some hleft
  · intro c hc
    have hsome : (trimLeft s).rdropWhile isBlank ≠ [] := by
      intro hnil
      rw [trim, trimRight_eq, hnil] at hc
      cases hc
    have hlast := List.rdropWhile_last_not isBlank (trimLeft s) hsome
    rw [trim, trimRight_eq, List.getLast?_eq_some_getLast hsome] at hc
    obtain rfl : _ = c := Option.some.inj hc
    simpa using hlast

theorem mem_of_mem_trim {s : List Char} {c : Char} (h : c ∈ trim s) : c ∈ s := by
  have hleft : c ∈ trimLeft s := (List.rdropWhile_prefix isBlank _).subset h
  exact (List.dropWhile_sublist isBlank).subset hleft

theorem trim_cons_of_isBlank {c : Char} (h : isBlank c = true) (s : List Char) :
    trim (c :: s) = trim s := by
  rw [trim, trim, trimLeft, List.dropWhile_cons_of_pos h, trimLeft]

end Text

namespace Markup

open Text

/-! ### Capitals -/

/-- A capital that may stand in a name: a Latin one, the dotted `İ` or the kelvin sign. -/
def IsCapital (c : Char) : Prop := 'A' ≤ c ∧ c ≤ 'Z' ∨ c = '\u0130' ∨ c = '\u212a'

theorem isNameLetter_of_isCapital {c : Char} (h : IsCapital c) : isNameLetter c = true := by
  rw [isNameLetter_iff]
  rcases h with h | rfl | rfl
  · exact Or.inl (Or.inl h)
  · simp
  · simp

theorem upperChar_of_isCapital {c : Char} (h : IsCapital c) : upperChar c = [c] := by
  rcases h with ⟨hA, hZ⟩ | rfl | rfl
  · have hsmall : c.toNat < 128 := lt_of_le_of_lt (Char.le_def.1 hZ) (by decide)
    have hkeep : 'A' ≤ c → c ≤ 'Z' → c.toUpper = c :=
      of_ascii (P := fun c => 'A' ≤ c → c ≤ 'Z' → c.toUpper = c) (by decide) hsmall
    rw [upperChar_ascii hsmall, hkeep hA hZ]
  · decide
  · decide

/-- **A letter of a name has one capital**, which is a letter of a name again. -/
theorem exists_upperChar_of_isNameLetter {c : Char} (h : isNameLetter c = true) :
    ∃ d, upperChar c = [d] ∧ IsCapital d := by
  rw [isNameLetter_iff] at h
  rcases h with hlatin | hother
  · have hsmall : c.toNat < 128 := by
      rcases hlatin with ⟨-, hZ⟩ | ⟨-, hz⟩
      · exact lt_of_le_of_lt (Char.le_def.1 hZ) (by decide)
      · exact lt_of_le_of_lt (Char.le_def.1 hz) (by decide)
    have hcapital : 'A' ≤ c ∧ c ≤ 'Z' ∨ 'a' ≤ c ∧ c ≤ 'z' → 'A' ≤ c.toUpper ∧ c.toUpper ≤ 'Z' :=
      of_ascii (P := fun c => 'A' ≤ c ∧ c ≤ 'Z' ∨ 'a' ≤ c ∧ c ≤ 'z' →
        'A' ≤ c.toUpper ∧ c.toUpper ≤ 'Z') (by decide) hsmall
    exact ⟨c.toUpper, upperChar_ascii hsmall, Or.inl (hcapital hlatin)⟩
  · simp only [List.mem_cons, List.not_mem_nil, or_false] at hother
    rcases hother with rfl | rfl | rfl | rfl
    · exact ⟨'\u0130', by decide, Or.inr (Or.inl rfl)⟩
    · exact ⟨'I', by decide, Or.inl (by decide)⟩
    · exact ⟨'S', by decide, Or.inl (by decide)⟩
    · exact ⟨'\u212a', by decide, Or.inr (Or.inr rfl)⟩

theorem upper_of_isCapital {name : List Char} (h : ∀ c ∈ name, IsCapital c) :
    upper name = name := by
  induction name with
  | nil => rfl
  | cons c name ih =>
    have hname := ih fun d hd => h d (List.mem_cons_of_mem c hd)
    rw [upper_cons, upperChar_of_isCapital (h c List.mem_cons_self), hname]
    rfl

theorem capitals_upper {name : List Char} (h : ∀ c ∈ name, isNameLetter c = true) :
    (upper name).length = name.length ∧ ∀ c ∈ upper name, IsCapital c := by
  induction name with
  | nil => simp
  | cons c name ih =>
    obtain ⟨hlength, hcapitals⟩ := ih fun d hd => h d (List.mem_cons_of_mem c hd)
    obtain ⟨d, hd, hcapital⟩ := exists_upperChar_of_isNameLetter (h c List.mem_cons_self)
    rw [upper_cons, hd, List.singleton_append, List.length_cons, List.length_cons, hlength]
    exact ⟨rfl, List.forall_mem_cons.2 ⟨hcapital, hcapitals⟩⟩

/-! ### What reading gives -/

/-- **A record as reading gives it**: one or two capitals, and parameters without a designator and
without blanks around them. -/
structure Record.WellFormed (r : Record) : Prop where
  length_name : r.name.length = 1 ∨ r.name.length = 2
  name : ∀ c ∈ r.name, IsCapital c
  params : ∀ c ∈ r.params, c ≠ '^' ∧ c ≠ '~'
  trimmed : IsTrimmed r.params

theorem wellFormed_recordAt {text : List Char} {i : Nat} (h : beginsAt text i = true) :
    (recordAt text i).WellFormed := by
  obtain ⟨hletters, hname⟩ := name_letters h
  obtain ⟨hlength, hcapitals⟩ := capitals_upper hname
  refine ⟨?_, hcapitals, ?_, isTrimmed_trim _⟩
  · show (upper _).length = 1 ∨ (upper _).length = 2
    rw [hlength, hletters]
    exact nameLengthAt_cases text i
  · intro c hc
    have hplain := List.mem_takeWhile_imp (mem_of_mem_trim hc)
    constructor
    · rintro rfl
      exact absurd hplain (by decide)
    · rintro rfl
      exact absurd hplain (by decide)

theorem wellFormed_of_mem_parse {text : List Char} {r : Record} (h : r ∈ parse text) :
    r.WellFormed := by
  rw [parse_eq_recordsOf, recordsOf, List.mem_map] at h
  obtain ⟨i, hi, rfl⟩ := h
  exact wellFormed_recordAt (List.mem_filter.1 hi).2

/-! ### Writing and reading back -/

/-- **A record as written.** -/
def Record.written (r : Record) : List Char := '^' :: (r.name ++ ' ' :: r.params)

/-- Records as a text, one after the other. -/
def written (records : List Record) : List Char := records.flatMap Record.written

section
variable {r : Record} (h : r.WellFormed)
include h

theorem Record.WellFormed.name_cases :
    ∃ a, isNameLetter a = true ∧
      (r.name = [a] ∨ ∃ b, isNameLetter b = true ∧ r.name = [a, b]) := by
  obtain ⟨hlength, hname, -, -⟩ := h
  rcases hlength with hone | htwo
  · obtain ⟨a, ha⟩ := List.length_eq_one_iff.1 hone
    rw [ha] at hname ⊢
    exact ⟨a, isNameLetter_of_isCapital (hname a (by simp)), Or.inl rfl⟩
  · obtain ⟨a, b, hab⟩ := List.length_eq_two.1 htwo
    rw [hab] at hname ⊢
    exact ⟨a, isNameLetter_of_isCapital (hname a (by simp)),
      Or.inr ⟨b, isNameLetter_of_isCapital (hname b (by simp)), rfl⟩⟩

theorem beginsAt_written : beginsAt r.written 0 = true := by
  obtain ⟨a, ha, hname | ⟨b, -, hname⟩⟩ := h.name_cases
  · simp [Record.written, hname, beginsAt, ha, isDesignator]
  · simp [Record.written, hname, beginsAt, ha, isDesignator]

/-- The space ends the name. -/
theorem nameLengthAt_written : nameLengthAt r.written 0 = r.name.length := by
  have hspace : isNameLetter ' ' = false := by decide
  obtain ⟨a, ha, hname | ⟨b, hb, hname⟩⟩ := h.name_cases
  · simp [Record.written, hname, nameLengthAt, hspace]
  · simp [Record.written, hname, nameLengthAt, hb]

theorem plain_written {c : Char} (hc : c ∈ r.name ++ ' ' :: r.params) : isDesignator c = false := by
  by_contra hmark
  rw [Bool.not_eq_false] at hmark
  rcases List.mem_append.1 hc with hname | hrest
  · have hletter := isNameLetter_of_isCapital (h.name c hname)
    rw [not_isNameLetter_of_isDesignator hmark] at hletter
    cases hletter
  · rcases List.mem_cons.1 hrest with rfl | hparams
    · cases hmark
    · rcases isDesignator_iff.1 hmark with rfl | rfl
      · exact (h.params _ hparams).1 rfl
      · exact (h.params _ hparams).2 rfl

/-- **A record is read back** from what is written of it. -/
theorem recordAt_written : recordAt r.written 0 = r := by
  have hname : (r.written.drop 1).take r.name.length = r.name := by
    simp [Record.written]
  have hbody : r.written.drop (1 + r.name.length) = ' ' :: r.params := by
    rw [Nat.add_comm]
    simp [Record.written]
  have hplain : (' ' :: r.params).takeWhile (!isDesignator ·) = ' ' :: r.params := by
    refine List.takeWhile_eq_self_iff.2 fun c hc => ?_
    rw [plain_written h (List.mem_append_right _ hc)]
    rfl
  unfold recordAt
  rw [nameLengthAt_written h, Nat.zero_add, hname, hbody, hplain, upper_of_isCapital h.name,
    trim_cons_of_isBlank (by decide), h.trimmed.trim_eq]

theorem recordsOf_record_written : recordsOf r.written = [r] := by
  have hrest : recordsOf (r.name ++ ' ' :: r.params) = [] := by
    have hskip := recordsOf_append_of_plain (fun c hc => plain_written h hc) []
    rw [List.append_nil] at hskip
    exact hskip
  have hfirst : recordsOf r.written =
      (if beginsAt r.written 0 then [recordAt r.written 0] else []) ++
        recordsOf (r.name ++ ' ' :: r.params) := recordsOf_cons ..
  rw [hfirst, hrest, if_pos (beginsAt_written h), recordAt_written h, List.append_nil]

end

/-- **Records are read back** from what is written of them, each from its own piece. -/
theorem recordsOf_written {records : List Record} (h : ∀ r ∈ records, r.WellFormed) :
    recordsOf (written records) = records := by
  induction records with
  | nil => rfl
  | cons r records ih =>
    have hr := recordsOf_record_written (h r List.mem_cons_self)
    have hrest := ih fun r' hr' => h r' (List.mem_cons_of_mem r hr')
    have hcons : written (r :: records) = r.written ++ written records := List.flatMap_cons
    rw [hcons]
    cases records with
    | nil => rw [show written [] = [] from rfl, List.append_nil, hr]
    | cons r' records =>
      have hcaret : written (r' :: records) =
          '^' :: (r'.name ++ ' ' :: r'.params ++ written records) := List.flatMap_cons
      rw [hcaret] at hrest ⊢
      rw [recordsOf_append (by decide), hr, hrest]
      rfl

example : recordsOf (written [⟨['A'], "BC".toList⟩, ⟨"FS".toList, []⟩]) =
    [⟨['A'], "BC".toList⟩, ⟨"FS".toList, []⟩] := by decide +kernel

/-- **Writing and reading.** The records of a text, written and read again, are the same records;
and records come back from what is written of them exactly if each has a name of one or two
capitals, and parameters without a designator and without blanks around them. -/
theorem parse_written_iff :
    (∀ text, parse (written (parse text)) = parse text) ∧
    ∀ records, parse (written records) = records ↔ ∀ r ∈ records, r.WellFormed := by
  constructor
  · intro text
    rw [parse_eq_recordsOf (written (parse text))]
    exact recordsOf_written fun r hr => wellFormed_of_mem_parse hr
  · intro records
    constructor
    · intro hread r hr
      rw [← hread] at hr
      exact wellFormed_of_mem_parse hr
    · intro h
      rw [parse_eq_recordsOf]
      exact recordsOf_written h

end Markup

end LabelPress
