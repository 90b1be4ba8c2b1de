/-!
# Patterns for names

A pattern stands for names: an asterisk for any characters, a question mark for any one, and a set
in square brackets for one of its characters, or for any other one if the set begins with an
exclamation mark. Two characters of a set with a hyphen between them stand for all from the one to
the other.

* `NamePattern.ofText`: the pattern that a text spells.
* `NamePattern.matchesName`: does a name belong to a pattern?
* `matchesName_literal`: a pattern without wildcards stands for one name.
-/

namespace LabelPress

/-- A part of a pattern. -/
inductive Wildcard where
  /-- Any characters. -/
  | any
  /-- A character in one of the ranges; `negated`: in none of them. -/
  | oneOf (negated : Bool) (ranges : List (Char × Char))
deriving Repr, DecidableEq

/-- A pattern for names. -/
abbrev NamePattern := List Wildcard

namespace Wildcard

/-- Any one character. -/
def one : Wildcard := oneOf true []

/-- A character itself. -/
def literal (c : Char) : Wildcard := oneOf false [(c, c)]

/-- Is the character in one of the ranges? -/
def isIn (ranges : List (Char × Char)) (c : Char) : Bool :=
  ranges.any fun (a, b) => decide (a ≤ c) && decide (c ≤ b)

end Wildcard

namespace NamePattern

/-! ## Sets -/

/-- A set cut at the hyphens that may stand for a range. Each cut leaves at least `least` characters
in front of it, and two in every part after the first. -/
def chunks (least : Nat) (s : List Char) : List (List Char) :=
  match h : (s.drop least).dropWhile (· ≠ '-') with
  | [] => [s]
  | _ :: after =>
    have : after.length < s.length := by
      have h1 := (List.dropWhile_sublist (fun c : Char => c ≠ '-') (l := s.drop least)).length_le
      rw [h, List.length_cons, List.length_drop] at h1
      omega
    (s.take least ++ (s.drop least).takeWhile (· ≠ '-')) :: chunks 2 after
termination_by s.length

/-- A hyphen at the end of a set stands for itself. -/
def closeLast : List (List Char) → List (List Char)
  | [c, []] => [c ++ ['-']]
  | c :: cs => c :: closeLast cs
  | [] => []

/-- Ranges that end before they begin are empty and vanish with both of their ends. -/
def dropEmptyRanges : List (List Char) → List (List Char)
  | [] => []
  | c :: cs =>
    match dropEmptyRanges cs with
    | [] => [c]
    | d :: ds =>
      match c.getLast?, d with
      | some last, first :: rest =>
        if first < last then (c.dropLast ++ rest) :: ds else c :: d :: ds
      | _, _ => c :: d :: ds

/-- A character of a set, or the hyphen of a range. -/
inductive SetItem where
  /-- A character. -/
  | char (c : Char)
  /-- The hyphen of a range. -/
  | hyphen
deriving Repr, DecidableEq

/-- The ranges that the items of a set tell; a hyphen behind a range stands for itself. -/
def rangesOf : List SetItem → List (Char × Char)
  | .char a :: .hyphen :: .char b :: rest => (a, b) :: rangesOf rest
  | .char a :: rest => (a, a) :: rangesOf rest
  | .hyphen :: rest => ('-', '-') :: rangesOf rest
  | [] => []

/-- The set of the characters between square brackets. An exclamation mark counts as the first
character if only empty ranges are in front of it. -/
def setOf (s : List Char) : Wildcard :=
  let least := if s.head? == some '!' then 2 else 1
  let parts := dropEmptyRanges (closeLast (chunks least s))
  match [SetItem.hyphen].intercalate (parts.map (·.map .char)) with
  | .char '!' :: items => .oneOf true (rangesOf items)
  | items => .oneOf false (rangesOf items)

/-- A set behind its opening bracket, and what follows its closing one, which is not the first
character of the set. -/
def bracket? (s : List Char) : Option (Wildcard × { rest : List Char // rest.length < s.length }) :=
  let lead := (if s.head? == some '!' then 1 else 0)
  let lead := if (s.drop lead).head? == some ']' then lead + 1 else lead
  match h : (s.drop lead).dropWhile (· ≠ ']') with
  | [] => none
  | _ :: rest =>
    have : rest.length < s.length := by
      have h1 := (List.dropWhile_sublist (fun c : Char => c ≠ ']') (l := s.drop lead)).length_le
      rw [h, List.length_cons, List.length_drop] at h1
      omega
    some (setOf (s.take lead ++ (s.drop lead).takeWhile (· ≠ ']')), ⟨rest, this⟩)

/-- **The pattern that a text spells.** A bracket that is not closed stands for itself. -/
def ofText (s : List Char) : NamePattern :=
  match s with
  | [] => []
  | '*' :: s => .any :: ofText s
  | '?' :: s => .one :: ofText s
  | '[' :: s =>
    match bracket? s with
    | some (set, ⟨rest, _⟩) => set :: ofText rest
    | none => .literal '[' :: ofText s
  | c :: s => .literal c :: ofText s
termination_by s.length

/-! ## Names -/

/-- A text and all that is left of it when characters are taken from its front. -/
def tails : List Char → List (List Char)
  | [] => [[]]
  | c :: s => (c :: s) :: tails s

/-- What can be left of a name behind one more part of a pattern; what is longest comes first. -/
def advance (rests : List (List Char)) : Wildcard → List (List Char)
  | .any => (rests.head?.map tails).getD []
  | .oneOf negated ranges => rests.filterMap fun
    | c :: rest => if Wildcard.isIn ranges c != negated then some rest else none
    | [] => none

/-- **Does a name belong to a pattern?** -/
def matchesName (p : NamePattern) (name : List Char) : Bool :=
  (p.foldl advance [name]).any List.isEmpty

theorem matchesName_literal (s name : List Char) :
    matchesName (s.map .literal) name = decide (name = s) := by
  have key : ∀ (s : List Char) (rests : List (List Char)), rests.length ≤ 1 →
      ((s.map Wildcard.literal).foldl advance rests).any List.isEmpty =
        rests.any fun r => decide (r = s) := by
    intro s
    induction s with
    | nil =>
      intro rests _
      have : (fun r : List Char => decide (r = [])) = List.isEmpty := by
        funext r
        cases r <;> simp
      simp [this]
    | cons c s ih =>
      intro rests hr
      match rests, hr with
      | [], _ => simpa [advance, Wildcard.literal] using ih [] (by simp)
      | [[]], _ => simpa [advance, Wildcard.literal] using ih [] (by simp)
      | [d :: r], _ =>
        simp only [List.map_cons, List.foldl_cons, Wildcard.literal, advance, Wildcard.isIn,
          List.any_cons, List.any_nil, Bool.or_false, List.filterMap_cons, List.filterMap_nil]
        by_cases h : d = c
        · subst h
          simpa using ih [r] (by simp)
        · have h' : (decide (c ≤ d) && decide (d ≤ c)) = false := by
            rw [Bool.and_eq_false_iff, decide_eq_false_iff_not, decide_eq_false_iff_not]
            exact Classical.or_iff_not_imp_left.2 fun hn hd =>
              h (Char.le_antisymm hd (Classical.not_not.1 hn))
          simp only [h', List.cons.injEq, h, false_and, decide_false]
          simpa using ih [] (by simp)
  simpa [matchesName] using key s [name] (by simp)

end NamePattern

end LabelPress
