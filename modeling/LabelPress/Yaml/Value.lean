import LabelPress.Number.Binary64
import LabelPress.Yaml.Letter
import LabelPress.Yaml.RawBytes
import LabelPress.Yaml.Timestamp

/-!
# Values of a document

What a document says once its tags are understood: truth values, numbers, texts, dates, bytes, and
collections. A collection is known by its place, because it may stand in several places of the
document, even inside itself. In a mapping each key stands once.

* `Value`, `Collection`, `Document`: the types.
* `Value.insert`: a pair put into a mapping; `lookup_insert` says what is found afterwards.
-/

namespace LabelPress.Yaml

/-- A value. -/
inductive Value where
  /-- Nothing. -/
  | null
  /-- A truth value. -/
  | bool (b : Bool)
  /-- A whole number. -/
  | int (n : Int)
  /-- A double. One that is no number is the same only as one of the same origin. -/
  | real (x : Float) (origin : Option Nat)
  /-- A text. -/
  | text (s : List Char)
  /-- Letters that spell no text. -/
  | garbled (s : Letters)
  /-- Raw bytes. -/
  | bytes (bs : List UInt8)
  /-- A date, perhaps with a time. -/
  | time (t : Timestamp)
  /-- Two values side by side. -/
  | pair (first second : Value)
  /-- The collection at a place. -/
  | collection (place : Nat)
deriving Repr

/-- A collection of values. -/
inductive Collection where
  /-- Values in order. -/
  | sequence (items : List Value)
  /-- Keys with their values, in the order in which the keys first occur. -/
  | mapping (pairs : List (Value × Value))
  /-- Values of which each stands once. -/
  | set (items : List Value)
deriving Repr

/-- A document: its value and the collections at their places. -/
structure Document where
  /-- What the document says. -/
  root : Value := .null
  /-- The collections. -/
  collections : Array Collection := #[]
deriving Repr

/-- The collection that a value is. -/
def Document.collection? (d : Document) : Value → Option Collection
  | .collection k => d.collections[k]?
  | _ => none

/-- The document with another collection at the place of a value. -/
def Document.replace (d : Document) (v : Value) (c : Collection) : Document :=
  match v with
  | .collection k => { d with collections := d.collections.setIfInBounds k c }
  | _ => d

namespace Value

/-- Can the value be a key? -/
def isKey : Value → Bool
  | collection _ => false
  | pair a b => a.isKey && b.isKey
  | _ => true

/-- A truth value or number as a rational or, beyond all of them, a double. -/
def number? : Value → Option (Rat ⊕ Float)
  | bool b => some (.inl b.toNat)
  | int n => some (.inl n)
  | real x _ => match Binary64.ofFloat? x with
    | some q => some (.inl q)
    | none => some (.inr x)
  | _ => none

/-- Where a double that is no number comes from. -/
def nanOrigin? : Value → Option (Option Nat)
  | real x origin => if x.isNaN then some origin else none
  | _ => none

/-- Are two keys the same? Numbers and truth values are compared by their size. -/
def sameKey (a b : Value) : Bool :=
  match a, b with
  | null, null => true
  | text s, text t => s == t
  | garbled s, garbled t => s == t
  | bytes s, bytes t => s == t
  | time s, time t => s.same t
  | a, b => match a.nanOrigin?, b.nanOrigin? with
    | some p, some q => p == q
    | none, none => match a.number?, b.number? with
      | some (.inl p), some (.inl q) => p == q
      | some (.inr x), some (.inr y) => x == y
      | _, _ => false
    | _, _ => false

/-- What a mapping has under a key. -/
def lookup (key : Value) : List (Value × Value) → Option Value
  | [] => none
  | (k, v) :: rest => if k.sameKey key then some v else lookup key rest

/-- **Put a pair into a mapping**, over the value that the key has already, if it has one. -/
def insert (key value : Value) : List (Value × Value) → List (Value × Value)
  | [] => [(key, value)]
  | (k, v) :: rest =>
    if k.sameKey key then (k, value) :: rest else (k, v) :: insert key value rest

/-- The mapping of pairs, of which later ones have precedence. -/
def ofPairs (pairs : List (Value × Value)) : List (Value × Value) :=
  pairs.foldl (fun m (k, v) => insert k v m) []

/-- Only a text is the same key as a text. -/
theorem eq_text_of_sameKey {k : Value} {t : List Char} (h : k.sameKey (text t) = true) :
    k = text t := by
  cases k <;> simp_all [sameKey, number?, nanOrigin?]
  split at h <;> simp_all

/-- What is found under a text after a pair was put in. -/
theorem lookup_insert (s t : List Char) (v : Value) (m : List (Value × Value)) :
    lookup (text s) (insert (text t) v m) =
      if t = s then some v else lookup (text s) m := by
  induction m with
  | nil => by_cases h : t = s <;> simp [insert, lookup, sameKey, h]
  | cons p m ih =>
    obtain ⟨k, w⟩ := p
    simp only [insert]
    split
    next h =>
      rw [eq_text_of_sameKey h]
      by_cases hts : t = s <;> simp [lookup, sameKey, hts]
    next h =>
      simp only [lookup, ih]
      split
      next hk =>
        obtain rfl := eq_text_of_sameKey hk
        by_cases hts : t = s
        · subst hts
          simp [sameKey] at h
        · simp [hts]
      next => rfl

end Value

end LabelPress.Yaml
