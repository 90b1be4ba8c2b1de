import LabelPress.Config.App
import Mathlib

/-!
# Documents that say the same

Two documents say the same if their collections correspond: a relation `R` between places pairs each
collection with one of the same kind whose parts correspond in turn. Collections may stand inside
themselves, so the relation is given from outside, and two values are alike as far as `R` says so.
The mapping at the root is compared less strictly, because it is the one that is edited: only the
values of fields that are not fields of the configuration itself have to be alike there.

* `Value.Alike`, `Collection.Alike`, `CorrespondsOffRoot`, `Corresponds`: what corresponds.
* `PrinterConfig.read_of_alike`, `LabelDimensions.read_of_alike`, `listOf_of_alike`,
  `tableOf_of_alike`: what is read from documents that correspond.
* `tableOf_ne_accepted_of_mem`: no table of sizes is one of its own sizes.
-/

namespace LabelPress

open Yaml (Value Document Collection)
open Config

/-! ### What corresponds -/

namespace Yaml
variable {R : Nat → Nat → Prop}

/-- **Values that say the same.** Where a double that is no number comes from is not said. -/
inductive Value.Alike (R : Nat → Nat → Prop) : Value → Value → Prop
  | null : Alike R .null .null
  | bool (b : Bool) : Alike R (.bool b) (.bool b)
  | int (n : Int) : Alike R (.int n) (.int n)
  | real (x : Float) (origin origin' : Option Nat) : Alike R (.real x origin) (.real x origin')
  | text (s : List Char) : Alike R (.text s) (.text s)
  | garbled (s : Letters) : Alike R (.garbled s) (.garbled s)
  | bytes (bs : List UInt8) : Alike R (.bytes bs) (.bytes bs)
  | time (t : Timestamp) : Alike R (.time t) (.time t)
  | pair {a b a' b' : Value} : Alike R a a' → Alike R b b' → Alike R (.pair a b) (.pair a' b')
  | collection {k k' : Nat} : R k k' → Alike R (.collection k) (.collection k')

/-- Pairs that say the same, one after the other. -/
abbrev Value.PairsAlike (R : Nat → Nat → Prop) :
    List (Value × Value) → List (Value × Value) → Prop :=
  List.Forall₂ fun p q => Value.Alike R p.1 q.1 ∧ Value.Alike R p.2 q.2

/-- **Collections that say the same.** -/
inductive Collection.Alike (R : Nat → Nat → Prop) : Collection → Collection → Prop
  | sequence {xs ys : List Value} : List.Forall₂ (Value.Alike R) xs ys →
    Alike R (.sequence xs) (.sequence ys)
  | set {xs ys : List Value} : List.Forall₂ (Value.Alike R) xs ys → Alike R (.set xs) (.set ys)
  | mapping {m m' : List (Value × Value)} : Value.PairsAlike R m m' →
    Alike R (.mapping m) (.mapping m')

/-- Alike keys are the same text, if any. -/
theorem Value.Alike.sameKey_text {k k' : Value} (h : k.Alike R k') (s : List Char) :
    k.sameKey (.text s) = k'.sameKey (.text s) := by
  refine Bool.eq_iff_iff.2 ⟨fun hk => ?_, fun hk => ?_⟩
  · obtain rfl := eq_text_of_sameKey hk
    cases h
    exact hk
  · obtain rfl := eq_text_of_sameKey hk
    cases h
    exact hk

/-- Alike mappings have alike values under a text. -/
theorem Value.lookup_of_alike {m m' : List (Value × Value)} (s : List Char)
    (h : PairsAlike R m m') :
    Option.Rel (Value.Alike R) (lookup (.text s) m) (lookup (.text s) m') := by
  induction h with
  | nil => exact .none
  | @cons p q m m' hpq _ ih =>
    obtain ⟨k, v⟩ := p
    obtain ⟨k', v'⟩ := q
    simp only [lookup, hpq.1.sameKey_text]
    split_ifs
    · exact .some hpq.2
    · exact ih

end Yaml

/-! ### Corresponding documents -/

/-- The fields of the configuration. -/
inductive AppConfig.Key where
  | printer
  | dither
  | presets
  | defaultLabel
  | fontPaths
deriving DecidableEq

/-- The name of a field of the configuration. -/
def AppConfig.Key.name : AppConfig.Key → String
  | printer => "printer"
  | dither => "dither"
  | presets => "label_presets"
  | defaultLabel => "default_label"
  | fontPaths => "font_paths"

/-- All fields of the configuration. -/
def AppConfig.Key.all : List AppConfig.Key := [printer, dither, presets, defaultLabel, fontPaths]

theorem AppConfig.Key.mem_all (key : AppConfig.Key) : key ∈ all := by cases key <;> decide

/-- A name that no field of the configuration has. -/
abbrev Foreign (name : String) : Prop := ∀ key ∈ AppConfig.Key.all, key.name ≠ name

/-- Mappings with alike values in all foreign fields. -/
def FieldsAlike (R : Nat → Nat → Prop) (m m' : Fields) : Prop :=
  ∀ name, Foreign name → Option.Rel (Value.Alike R) (valueOf? name m) (valueOf? name m')

/-- **Documents whose places correspond off the root.** The roots correspond to nothing else. -/
structure CorrespondsOffRoot (R : Nat → Nat → Prop) (r r' : Nat) (d d' : Document) : Prop where
  root_iff : ∀ k k', R k k' → (k = r ↔ k' = r')
  others : ∀ k k', R k k' → k ≠ r →
    ∃ c c', d.collections[k]? = some c ∧ d'.collections[k']? = some c' ∧ c.Alike R c'

/-- **Documents whose places correspond.** -/
structure Corresponds (R : Nat → Nat → Prop) (r r' : Nat) (d d' : Document) : Prop extends
    CorrespondsOffRoot R r r' d d' where
  root : ∃ m m', d.collections[r]? = some (.mapping m) ∧
    d'.collections[r']? = some (.mapping m') ∧ FieldsAlike R m m'

/-! ### What is read -/

section Values
variable {R : Nat → Nat → Prop} {v v' : Value}

theorem text_of_alike (h : v.Alike R v') : text v = text v' := by cases h <;> rfl

theorem integer_of_alike (h : v.Alike R v') : integer v = integer v' := by cases h <;> rfl

theorem real_of_alike (h : v.Alike R v') : real v = real v' := by cases h <;> rfl

theorem truth_of_alike (h : v.Alike R v') : truth v = truth v' := by cases h <;> rfl

theorem path_of_alike (h : v.Alike R v') : path v = path v' := by cases h <;> rfl

theorem keyName_of_alike (h : v.Alike R v') : keyName v = keyName v' := by cases h <;> rfl

theorem count_of_alike (h : v.Alike R v') : count v = count v' := by
  rw [count, count, integer_of_alike h]

theorem amount_of_alike (h : v.Alike R v') : amount v = amount v' := by
  rw [amount, amount, real_of_alike h]

end Values

/-! #### Fields -/

/-- Two values that are related if they are there, or none. -/
theorem none_or_some_of_rel {α β : Type} {S : α → β → Prop} {x : Option α} {y : Option β}
    (h : Option.Rel S x y) :
    (x = none ∧ y = none) ∨ ∃ a b, x = some a ∧ y = some b ∧ S a b := by
  cases h with
  | none => exact .inl ⟨rfl, rfl⟩
  | some h => exact .inr ⟨_, _, rfl, rfl, h⟩

section Fields
variable {R : Nat → Nat → Prop} {m m' : Fields} {α : Type} {read read' : Value → Verdict α}

theorem optional_of_rel {name : String}
    (h : Option.Rel (Value.Alike R) (valueOf? name m) (valueOf? name m'))
    (hread : ∀ v v', v.Alike R v' → read v = read' v') (default : α) :
    optional name default read m = optional name default read' m' := by
  unfold Config.optional
  rcases none_or_some_of_rel h with ⟨hm, hm'⟩ | ⟨v, v', hm, hm', hv⟩
  · rw [hm, hm']
  · rw [hm, hm']
    dsimp only
    rw [hread v v' hv]

theorem required_of_rel {name : String}
    (h : Option.Rel (Value.Alike R) (valueOf? name m) (valueOf? name m'))
    (hread : ∀ v v', v.Alike R v' → read v = read' v') :
    required name read m = required name read' m' := by
  unfold required
  rcases none_or_some_of_rel h with ⟨hm, hm'⟩ | ⟨v, v', hm, hm', hv⟩
  · rw [hm, hm']
  · rw [hm, hm']
    dsimp only
    rw [hread v v' hv]

end Fields

/-! #### Records -/

section Records
variable {R : Nat → Nat → Prop} {r r' : Nat} {d d' : Document} {v v' : Value} {α : Type}

theorem FieldsAlike.of_forall₂ {m m' : Fields}
    (h : Value.PairsAlike R m m') : FieldsAlike R m m' :=
  fun name _ => Value.lookup_of_alike name.toList h

/-- Alike values are both mappings, with alike fields, or both none. -/
theorem Corresponds.mapping_cases (h : Corresponds R r r' d d') (hv : v.Alike R v') :
    (∃ m m', d.collection? v = some (.mapping m) ∧ d'.collection? v' = some (.mapping m') ∧
        FieldsAlike R m m') ∨
      (∀ m, d.collection? v ≠ some (.mapping m)) ∧ ∀ m, d'.collection? v' ≠ some (.mapping m) := by
  cases hv with
  | @collection k k' hk =>
    by_cases hr : k = r
    · obtain ⟨m, m', hm, hm', halike⟩ := h.root
      have hr' : k' = r' := (h.root_iff k k' hk).1 hr
      subst hr hr'
      exact .inl ⟨m, m', hm, hm', halike⟩
    · obtain ⟨c, c', hc, hc', halike⟩ := h.others k k' hk hr
      cases halike with
      | mapping hm => exact .inl ⟨_, _, hc, hc', .of_forall₂ hm⟩
      | sequence hxs =>
        exact .inr ⟨fun m hm => (nomatch hc.symm.trans hm), fun m hm => (nomatch hc'.symm.trans hm)⟩
      | set hxs =>
        exact .inr ⟨fun m hm => (nomatch hc.symm.trans hm), fun m hm => (nomatch hc'.symm.trans hm)⟩
  | _ => exact .inr ⟨nofun, nofun⟩

/-- A record that is read from foreign fields only. -/
theorem fields_andThen_of_alike (h : Corresponds R r r' d d') (hv : v.Alike R v')
    {read read' : Fields → Verdict α}
    (hread : ∀ m m', FieldsAlike R m m' → read m = read' m') :
    (fields d v).andThen read = (fields d' v').andThen read' := by
  rcases h.mapping_cases hv with ⟨m, m', hm, hm', halike⟩ | ⟨hm, hm'⟩
  · have hfields : fields d v = .accepted m := by rw [fields, hm]
    have hfields' : fields d' v' = .accepted m' := by rw [fields, hm']
    rw [hfields, hfields']
    exact hread m m' halike
  · have hnone {d : Document} {v : Value} (hm : ∀ m, d.collection? v ≠ some (.mapping m)) :
        fields d v = .flaw .notRecord := by
      unfold fields
      split
      · rename_i m heq
        exact absurd heq (hm m)
      · rfl
    rw [hnone hm, hnone hm']
    rfl

variable {m m' : Fields}

theorem Connection.ofFields_of_alike (h : FieldsAlike R m m') (kind : List Char) :
    Connection.ofFields kind m = Connection.ofFields kind m' := by
  have hserial : SerialConnection.ofFields m = SerialConnection.ofFields m' := by
    unfold SerialConnection.ofFields
    rw [required_of_rel (h "device" (by decide)) fun _ _ => text_of_alike,
      optional_of_rel (h "baudrate" (by decide)) fun _ _ => integer_of_alike,
      optional_of_rel (h "bytesize" (by decide)) fun _ _ => integer_of_alike,
      optional_of_rel (h "parity" (by decide)) fun _ _ => text_of_alike,
      optional_of_rel (h "stopbits" (by decide)) fun _ _ => real_of_alike]
  have htcp : TcpConnection.ofFields m = TcpConnection.ofFields m' := by
    unfold TcpConnection.ofFields
    rw [required_of_rel (h "host" (by decide)) fun _ _ => text_of_alike,
      optional_of_rel (h "port" (by decide)) fun _ _ => integer_of_alike]
  have hbluetooth : BluetoothConnection.ofFields m = BluetoothConnection.ofFields m' := by
    unfold BluetoothConnection.ofFields
    rw [required_of_rel (h "address" (by decide)) fun _ _ => text_of_alike,
      optional_of_rel (h "write_characteristic" (by decide)) fun _ _ => text_of_alike,
      optional_of_rel (h "timeout" (by decide)) fun _ _ => real_of_alike]
  rw [Connection.ofFields, Connection.ofFields, hserial, htcp, hbluetooth]

theorem Connection.read_of_alike (h : Corresponds R r r' d d') (hv : v.Alike R v') :
    Connection.read d v = Connection.read d' v' := by
  unfold Connection.read
  rcases h.mapping_cases hv with ⟨m, m', hm, hm', halike⟩ | ⟨hm, hm'⟩
  · rw [hm, hm']
    dsimp only
    rcases none_or_some_of_rel (halike "type" (by decide)) with
      ⟨hkind, hkind'⟩ | ⟨w, w', hkind, hkind', hw⟩
    · rw [hkind, hkind']
    · rw [hkind, hkind']
      cases hw with
      | text s => exact Connection.ofFields_of_alike halike s
      | _ => rfl
  · split
    · rename_i m heq
      exact absurd heq (hm m)
    · rfl

/-- **Printers** are read alike. -/
theorem PrinterConfig.read_of_alike (h : Corresponds R r r' d d') (hv : v.Alike R v') :
    PrinterConfig.read d v = PrinterConfig.read d' v' := by
  refine fields_andThen_of_alike h hv fun m m' hm => ?_
  unfold PrinterConfig.ofFields
  rw [optional_of_rel (hm "name" (by decide)) fun _ _ => text_of_alike,
    required_of_rel (hm "connection" (by decide)) fun _ _ => Connection.read_of_alike h,
    optional_of_rel (hm "chunk_size" (by decide)) fun _ _ => count_of_alike,
    optional_of_rel (hm "chunk_delay" (by decide)) fun _ _ => amount_of_alike,
    optional_of_rel (hm "copy_delay" (by decide)) fun _ _ => amount_of_alike,
    optional_of_rel (hm "feed_mm" (by decide)) fun _ _ => amount_of_alike]

/-- **Sizes** are read alike. -/
theorem LabelDimensions.read_of_alike (h : Corresponds R r r' d d') (hv : v.Alike R v') :
    LabelDimensions.read d v = LabelDimensions.read d' v' := by
  refine fields_andThen_of_alike h hv fun m m' hm => ?_
  rw [required_of_rel (hm "width_mm" (by decide)) fun _ _ => real_of_alike,
    required_of_rel (hm "height_mm" (by decide)) fun _ _ => real_of_alike]

end Records

/-! #### Lists and tables -/

section Lists
variable {R : Nat → Nat → Prop} {r r' : Nat} {d d' : Document} {v v' : Value} {α : Type}

theorem each_path_of_alike {xs ys : List Value} (h : List.Forall₂ (Value.Alike R) xs ys) (n : Nat) :
    Verdict.each (fun (v, i) => (path v).below (toString i).toList) (xs.zipIdx n) =
      Verdict.each (fun (v, i) => (path v).below (toString i).toList) (ys.zipIdx n) := by
  induction h generalizing n with
  | nil => rfl
  | cons hxy _ ih =>
    rw [List.zipIdx_cons, List.zipIdx_cons, Verdict.each, Verdict.each, ih]
    dsimp only
    rw [path_of_alike hxy]

/-- **Paths** are read alike. -/
theorem listOf_of_alike (h : Corresponds R r r' d d') (hv : v.Alike R v') :
    listOf d path v = listOf d' path v' := by
  unfold listOf
  cases hv with
  | @collection k k' hk =>
    by_cases hr : k = r
    · obtain ⟨m, m', hm, hm', -⟩ := h.root
      have hr' : k' = r' := (h.root_iff k k' hk).1 hr
      subst hr hr'
      rw [show d.collection? (.collection k) = _ from hm,
        show d'.collection? (.collection k') = _ from hm']
    · obtain ⟨c, c', hc, hc', halike⟩ := h.others k k' hk hr
      rw [show d.collection? (.collection k) = _ from hc,
        show d'.collection? (.collection k') = _ from hc']
      cases halike with
      | mapping hm => rfl
      | sequence hxs => exact each_path_of_alike hxs 0
      | set hxs => exact each_path_of_alike hxs 0
  | _ => rfl

theorem each_entry_of_alike {m m' : Fields} {read read' : Value → Verdict α}
    (h : Value.PairsAlike R m m') (hread : ∀ v v', v.Alike R v' → read v = read' v') :
    Verdict.each (entry read) m = Verdict.each (entry read') m' := by
  induction h with
  | nil => rfl
  | cons hpq _ ih =>
    rw [Verdict.each, Verdict.each, ih, entry, entry, text_of_alike hpq.1, keyName_of_alike hpq.1,
      hread _ _ hpq.2]

/-- **Tables** are read alike, apart from the root. -/
theorem tableOf_of_alike (h : Corresponds R r r' d d') (hv : v.Alike R v')
    (hr : v ≠ .collection r) {read read' : Value → Verdict α}
    (hread : ∀ v v', v.Alike R v' → read v = read' v') :
    tableOf d read v = tableOf d' read' v' := by
  unfold tableOf
  cases hv with
  | @collection k k' hk =>
    obtain ⟨c, c', hc, hc', halike⟩ := h.others k k' hk fun hkr => hr (congrArg _ hkr)
    rw [show d.collection? (.collection k) = _ from hc,
      show d'.collection? (.collection k') = _ from hc']
    cases halike with
    | mapping hm =>
      dsimp only
      rw [each_entry_of_alike hm hread]
    | sequence hxs => rfl
    | set hxs => rfl
  | _ => rfl

end Lists

/-! #### The root is no table -/

theorem exists_mem_of_lookup {key v : Value} {m : Fields} (h : Value.lookup key m = some v) :
    ∃ k, (k, v) ∈ m := by
  induction m with
  | nil => cases h
  | cons p m ih =>
    obtain ⟨k, w⟩ := p
    rw [Value.lookup] at h
    split_ifs at h
    · cases h
      exact ⟨k, List.mem_cons_self⟩
    · obtain ⟨k', hk'⟩ := ih h
      exact ⟨k', List.mem_cons_of_mem _ hk'⟩

theorem exists_of_each_eq_accepted {α β : Type} {f : α → Verdict β} {as : List α} {bs : List β}
    (h : Verdict.each f as = .accepted bs) {a : α} (ha : a ∈ as) : ∃ b, f a = .accepted b := by
  induction as generalizing bs with
  | nil => cases ha
  | cons a' as ih =>
    obtain ⟨_, bs', hcons, hrest, -⟩ := Verdict.seq_eq_accepted_iff.1 h
    obtain ⟨b, hb, -⟩ := Verdict.map_eq_accepted_iff.1 hcons
    rcases List.mem_cons.1 ha with rfl | ha
    · exact ⟨b, hb⟩
    · exact ih hrest ha

/-- The values of a table that was accepted are accepted. -/
theorem exists_of_tableOf_eq_accepted {α : Type} {d : Document} {read : Value → Verdict α}
    {v : Value} {m : Fields} {table : List (List Char × α)}
    (hm : d.collection? v = some (.mapping m)) (h : tableOf d read v = .accepted table)
    {p : Value × Value} (hp : p ∈ m) : ∃ a, read p.2 = .accepted a := by
  rw [tableOf, hm] at h
  obtain ⟨entries, hentries, -⟩ := Verdict.map_eq_accepted_iff.1 h
  obtain ⟨e, he⟩ := exists_of_each_eq_accepted hentries hp
  obtain ⟨_, a, -, ha, -⟩ := Verdict.seq_eq_accepted_iff.1 (Verdict.below_eq_accepted_iff.1 he)
  exact ⟨a, ha⟩

theorem collection?_of_fields {d : Document} {v : Value} {m : Fields}
    (h : fields d v = .accepted m) : d.collection? v = some (.mapping m) := by
  unfold fields at h
  split at h
  · rename_i m' heq
    cases h
    exact heq
  · cases h

theorem exists_of_required {α : Type} {name : String} {read : Value → Verdict α} {m : Fields}
    {a : α} (h : required name read m = .accepted a) :
    ∃ v, valueOf? name m = some v ∧ read v = .accepted a := by
  have h := Verdict.below_eq_accepted_iff.1 h
  cases hv : valueOf? name m with
  | none =>
    rw [hv] at h
    cases h
  | some v =>
    rw [hv] at h
    exact ⟨v, rfl, h⟩

/-- What is read as a size is a mapping with a width. -/
theorem exists_of_read_eq_accepted {d : Document} {v : Value} {size : LabelDimensions}
    (h : LabelDimensions.read d v = .accepted size) :
    ∃ m w x, d.collection? v = some (.mapping m) ∧ valueOf? "width_mm" m = some w ∧
      real w = .accepted x := by
  obtain ⟨m, hm, h⟩ := Verdict.andThen_eq_accepted_iff.1 h
  obtain ⟨_, _, hwidth, -, -⟩ := Verdict.seq_eq_accepted_iff.1 h
  obtain ⟨x, hx, -⟩ := Verdict.map_eq_accepted_iff.1 hwidth
  obtain ⟨w, hw, hx⟩ := exists_of_required hx
  exact ⟨m, w, x, collection?_of_fields hm, hw, hx⟩

/-- **No table of sizes is one of its own sizes**: its width would have to be a size as well. -/
theorem tableOf_ne_accepted_of_mem {d : Document} {v key : Value} {m : Fields}
    (hm : d.collection? v = some (.mapping m)) (hv : (key, v) ∈ m)
    (table : List (List Char × LabelDimensions)) :
    tableOf d (LabelDimensions.read d) v ≠ .accepted table := by
  intro h
  obtain ⟨size, hsize⟩ := exists_of_tableOf_eq_accepted hm h hv
  obtain ⟨m', w, x, hm', hw, hx⟩ := exists_of_read_eq_accepted hsize
  obtain rfl : m = m' := by
    rw [hm] at hm'
    cases hm'
    rfl
  obtain ⟨key', hkey'⟩ := exists_mem_of_lookup hw
  obtain ⟨size', hsize'⟩ := exists_of_tableOf_eq_accepted hm h hkey'
  obtain ⟨m'', _, _, hm'', -⟩ := exists_of_read_eq_accepted hsize'
  -- A collection is no number.
  cases w with
  | collection k => cases hx
  | _ => cases hm''

end LabelPress
