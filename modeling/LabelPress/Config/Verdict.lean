/-!
# Verdicts

The judgement of a part of a configuration: its value, or everything that is wrong with it. Two
parts are judged side by side, so the flaws of both are told, in the order of the parts.

* `Flaw`, `Issue`: what is wrong and where.
* `Verdict`: values with an applicative that gathers the issues.
* `Verdict.andThen`: a further condition on a value that was accepted.
-/

namespace LabelPress.Config

/-- What is wrong with a value. -/
inductive Flaw where
  /-- It is not there. -/
  | missing
  /-- It is no text. -/
  | notText
  /-- It is bytes that encode no text, or letters that spell none. -/
  | notUnicode
  /-- It is no whole number. -/
  | notInteger
  /-- It is a text that spells no whole number. -/
  | unreadableInteger
  /-- It is a text of too many digits, or a double of more than 63 bits. -/
  | integerTooLong
  /-- It is a number with a fraction. -/
  | fractional
  /-- It is infinite or no number. -/
  | notFinite
  /-- It is no number. -/
  | notNumber
  /-- It is a text that spells no number. -/
  | unreadableNumber
  /-- It is no truth value. -/
  | notTruth
  /-- It is a text or a number that stands for no truth value. -/
  | unreadableTruth
  /-- It is no list. -/
  | notList
  /-- It is no mapping of names. -/
  | notTable
  /-- It is no path. -/
  | notPath
  /-- It is no mapping of fields. -/
  | notRecord
  /-- It is not above the bound. -/
  | tooSmall
  /-- It is below the bound. -/
  | belowBound
  /-- It is no connection. -/
  | notConnection
  /-- The kind of the connection is not told. -/
  | untagged
  /-- There is no such kind of connection. -/
  | unknownTag
deriving Repr, DecidableEq

/-- The word for a flaw. -/
def Flaw.word : Flaw → String
  | missing => "missing"
  | notText => "string_type"
  | notUnicode => "string_unicode"
  | notInteger => "int_type"
  | unreadableInteger => "int_parsing"
  | integerTooLong => "int_parsing_size"
  | fractional => "int_from_float"
  | notFinite => "finite_number"
  | notNumber => "float_type"
  | unreadableNumber => "float_parsing"
  | notTruth => "bool_type"
  | unreadableTruth => "bool_parsing"
  | notList => "list_type"
  | notTable => "dict_type"
  | notPath => "path_type"
  | notRecord => "model_type"
  | tooSmall => "greater_than"
  | belowBound => "greater_than_equal"
  | notConnection => "model_attributes_type"
  | untagged => "union_tag_not_found"
  | unknownTag => "union_tag_invalid"

/-- A flaw and the fields that lead to it. -/
structure Issue where
  /-- The fields on the way. -/
  way : List (List Char)
  /-- What is wrong. -/
  flaw : Flaw
deriving Repr, DecidableEq

/-- The fields on the way, with dots between them. -/
def Issue.place (i : Issue) : List Char := ['.'].intercalate i.way

/-- An issue as seen from a field further out. -/
def Issue.below (name : List Char) (i : Issue) : Issue := ⟨name :: i.way, i.flaw⟩

/-- A value, or what is wrong with it. -/
inductive Verdict (α : Type) where
  /-- Nothing is wrong. -/
  | accepted (a : α)
  /-- Something is wrong. -/
  | rejected (issues : List Issue)
deriving Repr

namespace Verdict

/-- A value that is wrong in one way. -/
def flaw {α : Type} (f : Flaw) : Verdict α := rejected [⟨[], f⟩]

instance : Functor Verdict where
  map f
    | accepted a => accepted (f a)
    | rejected is => rejected is

instance : Applicative Verdict where
  pure := accepted
  seq f x :=
    match f, x () with
    | accepted f, accepted a => accepted (f a)
    | accepted _, rejected is => rejected is
    | rejected is, accepted _ => rejected is
    | rejected is, rejected js => rejected (is ++ js)

/-- A further condition on an accepted value. -/
def andThen {α β : Type} : Verdict α → (α → Verdict β) → Verdict β
  | accepted a, f => f a
  | rejected is, _ => rejected is

/-- The verdict as seen from a field further out. -/
def below {α : Type} (name : List Char) : Verdict α → Verdict α
  | accepted a => accepted a
  | rejected is => rejected (is.map (·.below name))

/-- Judge every element of a list. -/
def each {α β : Type} (f : α → Verdict β) : List α → Verdict (List β)
  | [] => accepted []
  | a :: as => List.cons <$> f a <*> each f as

/-- The value, or the issues as a failure. -/
def toExcept {α : Type} : Verdict α → Except (List Issue) α
  | accepted a => .ok a
  | rejected is => .error is

/-- What is wrong. -/
def issues {α : Type} : Verdict α → List Issue
  | accepted _ => []
  | rejected is => is

/-- Judging two parts tells the issues of the first and then those of the second. -/
theorem issues_seq {α β : Type} (f : Verdict (α → β)) (x : Verdict α) :
    (f <*> x).issues = f.issues ++ x.issues := by
  cases f <;> cases x <;> simp [issues, Seq.seq]

theorem map_eq_accepted_iff {α β : Type} {f : α → β} {x : Verdict α} {b : β} :
    f <$> x = accepted b ↔ ∃ a, x = accepted a ∧ f a = b := by
  cases x <;> simp [Functor.map]

theorem seq_eq_accepted_iff {α β : Type} {f : Verdict (α → β)} {x : Verdict α} {b : β} :
    f <*> x = accepted b ↔ ∃ g a, f = accepted g ∧ x = accepted a ∧ g a = b := by
  cases f <;> cases x <;> simp [Seq.seq]

theorem andThen_eq_accepted_iff {α β : Type} {x : Verdict α} {f : α → Verdict β} {b : β} :
    x.andThen f = accepted b ↔ ∃ a, x = accepted a ∧ f a = accepted b := by
  cases x <;> simp [andThen]

theorem below_eq_accepted_iff {α : Type} {name : List Char} {x : Verdict α} {a : α} :
    x.below name = accepted a ↔ x = accepted a := by
  cases x <;> simp [below]

@[simp] theorem andThen_accepted {α β : Type} (a : α) (f : α → Verdict β) :
    (accepted a).andThen f = f a := rfl

end Verdict

end LabelPress.Config
