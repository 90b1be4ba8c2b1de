import LabelPress.Proofs.Config.Alike
import LabelPress.Proofs.Config.Loading

/-!
# Fields that say nothing

A field of the configuration that is left out has its default. A field that is there and says
nothing is treated in one of three ways: for the printer, nothing is a value; the sizes are taken
out of the document and the font paths replaced by an empty list before anything is read; and of the
other two fields nothing is done, so that nothing is not accepted where a truth value or a text is
wanted.

* `Edit`: a document in which some fields have another value, or none.
* `settledFields`: the fields that are read.
* `ofDocument_eq_ok_iff`: what a document with fields tells.
* `load_emptied_eq_iff`: fields that say nothing mean their defaults exactly if they are none of
  those two.
-/

namespace LabelPress

open Yaml (Value Document Collection)
open Config

namespace AppConfig

/-! ### The fields that are read -/

/-- The fields of a document once it is settled. -/
def settledFields (d : Document) (m : Fields) : Fields :=
  if isUnsaid "font_paths" (dropNullPresets m) then
    Value.insert (.text "font_paths".toList) (.collection d.collections.size) (dropNullPresets m)
  else dropNullPresets m

section Settle
variable {d : Document} {m : Fields} {r : Nat} {name : String}

theorem lookup_filter (s t : List Char) (m : Fields) :
    Value.lookup (.text s) (m.filter fun (k, _) => !k.sameKey (.text t)) =
      if s = t then none else Value.lookup (.text s) m := by
  induction m with
  | nil => simp [Value.lookup]
  | cons p m ih =>
    obtain ⟨k, v⟩ := p
    by_cases hkt : k.sameKey (.text t)
    · obtain rfl := Value.eq_text_of_sameKey hkt
      rw [List.filter_cons_of_neg (by simp [hkt]), ih]
      by_cases hst : s = t
      · rw [if_pos hst, if_pos hst]
      · have hts : (Value.text t).sameKey (.text s) = false := by simp [Value.sameKey, Ne.symm hst]
        simp only [Value.lookup, hts, Bool.false_eq_true, if_false]
    · rw [List.filter_cons_of_pos (by simp [hkt]), Value.lookup, Value.lookup, ih]
      by_cases hks : k.sameKey (.text s)
      · have hst : s ≠ t := by
          rintro rfl
          exact hkt hks
        rw [if_pos hks, if_pos hks, if_neg hst]
      · rw [if_neg hks, if_neg hks]

theorem valueOf?_dropNullPresets (m : Fields) :
    valueOf? name (dropNullPresets m) =
      if name = "label_presets" ∧ isUnsaid "label_presets" m then none else valueOf? name m := by
  by_cases hunsaid : isUnsaid "label_presets" m = true
  · rw [dropNullPresets, if_pos hunsaid, valueOf?, lookup_filter]
    simp only [hunsaid, and_true, String.toList_inj, valueOf?]
  · rw [dropNullPresets, if_neg hunsaid, if_neg fun h => hunsaid h.2]

theorem isUnsaid_dropNullPresets (m : Fields) :
    isUnsaid "font_paths" (dropNullPresets m) = isUnsaid "font_paths" m := by
  have hname : ¬("font_paths" = "label_presets" ∧ isUnsaid "label_presets" m = true) :=
    fun h => absurd h.1 (by decide)
  rw [isUnsaid, valueOf?_dropNullPresets, if_neg hname, isUnsaid]

/-- What is read under a name. -/
theorem valueOf?_settledFields : valueOf? name (settledFields d m) =
    if name = "font_paths" ∧ isUnsaid "font_paths" m then
      some (.collection d.collections.size)
    else if name = "label_presets" ∧ isUnsaid "label_presets" m then none
    else valueOf? name m := by
  rw [settledFields, isUnsaid_dropNullPresets, ← valueOf?_dropNullPresets]
  by_cases hunsaid : isUnsaid "font_paths" m = true
  · rw [if_pos hunsaid, valueOf?, Value.lookup_insert]
    simp only [hunsaid, and_true, String.toList_inj, valueOf?, eq_comm]
  · rw [if_neg hunsaid, if_neg fun h => hunsaid h.2]

/-- A field that settling leaves as it is. -/
theorem valueOf?_settledFields_of_ne (hpresets : name ≠ "label_presets")
    (hfonts : name ≠ "font_paths") : valueOf? name (settledFields d m) = valueOf? name m := by
  rw [valueOf?_settledFields, if_neg fun h => hfonts h.1, if_neg fun h => hpresets h.1]

/-- Sizes that say nothing are taken out. -/
theorem valueOf?_presets : valueOf? "label_presets" (settledFields d m) =
    if isUnsaid "label_presets" m then none else valueOf? "label_presets" m := by
  rw [valueOf?_settledFields, if_neg fun h => absurd h.1 (by decide)]
  simp only [true_and]

/-- Font paths that say nothing are replaced. -/
theorem valueOf?_fontPaths : valueOf? "font_paths" (settledFields d m) =
    if isUnsaid "font_paths" m then some (.collection d.collections.size)
    else valueOf? "font_paths" m := by
  have hname : ¬("font_paths" = "label_presets" ∧ isUnsaid "label_presets" m = true) :=
    fun h => absurd h.1 (by decide)
  rw [valueOf?_settledFields, if_neg hname]
  simp only [true_and]

theorem settle_eq (hroot : d.root = .collection r) : settle d m =
    { d with collections :=
      (if isUnsaid "font_paths" m then d.collections.push (.sequence []) else d.collections)
        |>.setIfInBounds r (.mapping (settledFields d m)) } := by
  unfold settle settledFields
  simp only [isUnsaid_dropNullPresets]
  split_ifs <;> simp only [Document.replace, hroot]

theorem root_settle (hroot : d.root = .collection r) : (settle d m).root = d.root := by
  rw [settle_eq hroot]

theorem collections_settle_root (hroot : d.root = .collection r) (hr : r < d.collections.size) :
    (settle d m).collections[r]? = some (.mapping (settledFields d m)) := by
  rw [settle_eq hroot]
  dsimp only
  rw [Array.getElem?_setIfInBounds_self_of_lt]
  split_ifs
  · rw [Array.size_push]
    omega
  · exact hr

theorem collections_settle_of_ne (hroot : d.root = .collection r) {k : Nat} (hk : k ≠ r)
    {c : Collection} (hc : d.collections[k]? = some c) :
    (settle d m).collections[k]? = some c := by
  rw [settle_eq hroot]
  dsimp only
  rw [Array.getElem?_setIfInBounds_ne hk.symm]
  split_ifs
  · have hlt : k < d.collections.size := (Array.getElem?_eq_some_iff.1 hc).1
    rw [Array.getElem?_push_lt hlt, ← hc, Array.getElem?_eq_getElem hlt]
  · exact hc

/-- The empty list that stands for the font paths if they say nothing. -/
theorem collections_settle_new (hroot : d.root = .collection r) (hr : r < d.collections.size)
    (hfonts : isUnsaid "font_paths" m = true) :
    (settle d m).collections[d.collections.size]? = some (.sequence []) := by
  rw [settle_eq hroot]
  dsimp only
  rw [if_pos hfonts, Array.getElem?_setIfInBounds_ne (by omega), Array.getElem?_push_size]

end Settle

/-! ### What a document with fields tells -/

section Tells
variable {d : Document} {m : Fields} {r : Nat} {c : AppConfig}

/-- Fields tell a configuration if each of them tells its part. -/
theorem ofFields_eq_accepted_iff : ofFields d m = .accepted c ↔
    Config.optional "printer" none (orNothing (PrinterConfig.read d)) m = .accepted c.printer ∧
      Config.optional "dither" true truth m = .accepted c.dither ∧
      Config.optional "label_presets" defaultPresets (tableOf d (LabelDimensions.read d)) m =
        .accepted c.presets ∧
      Config.optional "default_label" "40x30".toList text m = .accepted c.defaultLabel ∧
      Config.optional "font_paths" [] (listOf d path) m = .accepted c.fontPaths := by
  simp only [ofFields, Verdict.seq_eq_accepted_iff, Verdict.map_eq_accepted_iff]
  constructor
  · rintro ⟨_, _, ⟨_, _, ⟨_, _, ⟨_, _, ⟨_, h₁, rfl⟩, h₂, rfl⟩, h₃, rfl⟩, h₄, rfl⟩, h₅, rfl⟩
    exact ⟨h₁, h₂, h₃, h₄, h₅⟩
  · rintro ⟨h₁, h₂, h₃, h₄, h₅⟩
    exact ⟨_, _, ⟨_, _, ⟨_, _, ⟨_, _, ⟨_, h₁, rfl⟩, h₂, rfl⟩, h₃, rfl⟩, h₄, rfl⟩, h₅, rfl⟩

theorem optional_of_none {α : Type} {name : String} {default : α} {read : Value → Verdict α}
    (h : valueOf? name m = none) : Config.optional name default read m = .accepted default := by
  rw [Config.optional, h]

theorem optional_of_some {α : Type} {name : String} {default : α} {read : Value → Verdict α}
    {v : Value} (h : valueOf? name m = some v) :
    Config.optional name default read m = (read v).below name.toList := by
  rw [Config.optional, h]

/-- The font paths are empty if they say nothing. -/
theorem optional_fontPaths_of_isUnsaid (hroot : d.root = .collection r)
    (hr : r < d.collections.size) (h : isUnsaid "font_paths" m = true) :
    Config.optional "font_paths" [] (listOf (settle d m) path) (settledFields d m) =
      .accepted [] := by
  have hvalue : valueOf? "font_paths" (settledFields d m) =
      some (.collection d.collections.size) := by
    rw [valueOf?_fontPaths, if_pos h]
  have hlist : (settle d m).collection? (.collection d.collections.size) = some (.sequence []) :=
    collections_settle_new hroot hr h
  rw [optional_of_some hvalue, listOf, hlist]
  rfl

theorem ofFields_of_empty (hroot : d.root = .collection r) (hr : r < d.collections.size) :
    ofFields (settle d []) (settledFields d []) = .accepted {} := by
  have hnone {name : String} (h : name ≠ "font_paths") :
      valueOf? name (settledFields d []) = none := by
    rw [valueOf?_settledFields, if_neg fun hn => h hn.1]
    split_ifs <;> rfl
  refine ofFields_eq_accepted_iff.2 ⟨?_, ?_, ?_, ?_, ?_⟩
  · exact optional_of_none (hnone (by decide))
  · exact optional_of_none (hnone (by decide))
  · exact optional_of_none (hnone (by decide))
  · exact optional_of_none (hnone (by decide))
  · exact optional_fontPaths_of_isUnsaid hroot hr rfl

/-- **What a document with fields tells** is what its settled fields tell. -/
theorem ofDocument_eq_ok_iff {file : Path} (hroot : d.root = .collection r)
    (hm : d.collections[r]? = some (.mapping m)) :
    ofDocument file d = .ok c ↔ ofFields (settle d m) (settledFields d m) = .accepted c := by
  have hr : r < d.collections.size := (Array.getElem?_eq_some_iff.1 hm).1
  have hcollection : d.collection? d.root = some (.mapping m) := by
    rw [hroot]
    exact hm
  have hnothing : isNothing d = m.isEmpty := by
    rw [hroot] at hcollection
    simp only [isNothing, hroot, hcollection]
  unfold ofDocument
  rw [hnothing, hcollection]
  cases m with
  | nil =>
    rw [ofFields_of_empty hroot hr]
    simp
  | cons p m =>
    have hfields : fields (settle d (p :: m)) (settle d (p :: m)).root =
        .accepted (settledFields d (p :: m)) := by
      have hsettled : (settle d (p :: m)).collection? (.collection r) =
          some (.mapping (settledFields d (p :: m))) := collections_settle_root hroot hr
      rw [root_settle hroot, hroot, fields, hsettled]
    simp only [List.isEmpty_cons, Bool.false_eq_true, if_false, hfields, Verdict.andThen_accepted]
    cases ofFields (settle d (p :: m)) (settledFields d (p :: m)) <;> simp

end Tells

/-! ### Documents that differ in some fields -/

theorem Key.name_injective {a b : Key} (h : a.name = b.name) : a = b := by
  cases a <;> cases b <;> first | rfl | exact absurd h (by decide)

/-- **An edit of some fields**: the document `d'` has the value in each of them, or none of them if
there is no value, and is like `d` otherwise. -/
structure Edit (keys : Finset Key) (value : Option Value) (R : Nat → Nat → Prop) (r r' : Nat)
    (m m' : Fields) (d d' : Document) : Prop extends CorrespondsOffRoot R r r' d d' where
  root : d.root = .collection r
  root' : d'.root = .collection r'
  fields : d.collections[r]? = some (.mapping m)
  fields' : d'.collections[r']? = some (.mapping m')
  edited : ∀ key ∈ keys, valueOf? key.name m' = value
  kept : ∀ name, (∀ key ∈ keys, key.name ≠ name) →
    Option.Rel (Value.Alike R) (valueOf? name m) (valueOf? name m')

namespace Edit
variable {keys : Finset Key} {value : Option Value} {R : Nat → Nat → Prop} {r r' : Nat}
  {m m' : Fields} {d d' : Document} {c : AppConfig}

theorem kept_key (h : Edit keys value R r r' m m' d d') {key : Key} (hkey : key ∉ keys) :
    Option.Rel (Value.Alike R) (valueOf? key.name m) (valueOf? key.name m') :=
  h.kept key.name fun _ hother heq => hkey (Key.name_injective heq ▸ hother)

/-- Alike fields say nothing together. -/
theorem isUnsaid_eq {name : String}
    (h : Option.Rel (Value.Alike R) (valueOf? name m) (valueOf? name m')) :
    isUnsaid name m = isUnsaid name m' := by
  unfold isUnsaid
  rcases none_or_some_of_rel h with ⟨hm, hm'⟩ | ⟨v, v', hm, hm', hv⟩
  · rw [hm, hm']
  · rw [hm, hm']
    cases hv <;> rfl

theorem size_lt (h : Edit keys value R r r' m m' d d') :
    r < d.collections.size ∧ r' < d'.collections.size :=
  ⟨(Array.getElem?_eq_some_iff.1 h.fields).1, (Array.getElem?_eq_some_iff.1 h.fields').1⟩

/-- **Edited documents correspond** once they are settled. -/
theorem corresponds (h : Edit keys value R r r' m m' d d') :
    Corresponds R r r' (settle d m) (settle d' m') where
  root_iff := h.root_iff
  others k k' hk hne := by
    obtain ⟨c, c', hc, hc', halike⟩ := h.others k k' hk hne
    have hne' : k' ≠ r' := fun heq => hne ((h.root_iff k k' hk).2 heq)
    exact ⟨c, c', collections_settle_of_ne h.root hne hc,
      collections_settle_of_ne h.root' hne' hc', halike⟩
  root := by
    obtain ⟨hr, hr'⟩ := h.size_lt
    refine ⟨_, _, collections_settle_root h.root hr, collections_settle_root h.root' hr',
      fun name hname => ?_⟩
    have hpresets : name ≠ "label_presets" := (hname .presets (Key.mem_all _)).symm
    have hfonts : name ≠ "font_paths" := (hname .fontPaths (Key.mem_all _)).symm
    rw [valueOf?_settledFields_of_ne hpresets hfonts,
      valueOf?_settledFields_of_ne hpresets hfonts]
    exact h.kept name fun key _ => hname key (Key.mem_all key)

end Edit

/-- The configuration with defaults for some fields. -/
def withDefaults (c : AppConfig) (keys : Finset Key) : AppConfig where
  printer := if .printer ∈ keys then none else c.printer
  dither := if .dither ∈ keys then true else c.dither
  presets := if .presets ∈ keys then defaultPresets else c.presets
  defaultLabel := if .defaultLabel ∈ keys then "40x30".toList else c.defaultLabel
  fontPaths := if .fontPaths ∈ keys then [] else c.fontPaths

/-- A value of a field that says nothing, or no value. -/
def SaysNothing (value : Option Value) : Prop := value = none ∨ value = some .null

theorem isUnsaid_of_saysNothing {name : String} {m : Fields} {value : Option Value}
    (h : valueOf? name m = value) (hvalue : SaysNothing value) : isUnsaid name m = true := by
  unfold isUnsaid
  rcases hvalue with rfl | rfl <;> rw [h] <;> rfl

theorem orNothing_of_alike {α : Type} {R : Nat → Nat → Prop} {read read' : Value → Verdict α}
    (hread : ∀ v v', v.Alike R v' → read v = read' v') {v v' : Value} (hv : v.Alike R v') :
    orNothing read v = orNothing read' v' := by
  have hboth := hread v v' hv
  cases hv with
  | null => rfl
  | _ => exact congrArg (some <$> ·) hboth

namespace Edit
variable {keys : Finset Key} {value : Option Value} {R : Nat → Nat → Prop} {r r' : Nat}
  {m m' : Fields} {d d' : Document} {c : AppConfig}

theorem optional_of_kept {α : Type} {key : Key} {default : α} {read read' : Value → Verdict α}
    (h : Edit keys value R r r' m m' d d') (hkey : key ∉ keys)
    (hpresets : key.name ≠ "label_presets") (hfonts : key.name ≠ "font_paths")
    (hread : ∀ v v', v.Alike R v' → read v = read' v') :
    Config.optional key.name default read (settledFields d m) =
      Config.optional key.name default read' (settledFields d' m') := by
  refine optional_of_rel ?_ hread default
  rw [valueOf?_settledFields_of_ne hpresets hfonts, valueOf?_settledFields_of_ne hpresets hfonts]
  exact h.kept_key hkey

theorem valueOf?_of_edited {key : Key} (h : Edit keys value R r r' m m' d d') (hkey : key ∈ keys)
    (hpresets : key.name ≠ "label_presets") (hfonts : key.name ≠ "font_paths") :
    valueOf? key.name (settledFields d' m') = value := by
  rw [valueOf?_settledFields_of_ne hpresets hfonts, h.edited key hkey]

/-- A field that settling leaves as it is, if its default is read where it is edited. -/
theorem optional_eq {α : Type} {default a : α} {read read' : Value → Verdict α}
    (h : Edit keys value R r r' m m' d d') (key : Key) (hpresets : key.name ≠ "label_presets")
    (hfonts : key.name ≠ "font_paths") (hread : ∀ v v', v.Alike R v' → read v = read' v')
    (hedited : key ∈ keys → valueOf? key.name (settledFields d' m') = value →
      Config.optional key.name default read' (settledFields d' m') = .accepted default)
    (ha : Config.optional key.name default read (settledFields d m) = .accepted a) :
    Config.optional key.name default read' (settledFields d' m') =
      .accepted (if key ∈ keys then default else a) := by
  split_ifs with hkey
  · exact hedited hkey (h.valueOf?_of_edited hkey hpresets hfonts)
  · rw [← ha]
    exact (h.optional_of_kept hkey hpresets hfonts hread).symm

theorem printer_eq (h : Edit keys value R r r' m m' d d') (hvalue : SaysNothing value)
    (hc : Config.optional "printer" none (orNothing (PrinterConfig.read (settle d m)))
      (settledFields d m) = .accepted c.printer) :
    Config.optional "printer" none (orNothing (PrinterConfig.read (settle d' m')))
      (settledFields d' m') = .accepted (c.withDefaults keys).printer := by
  refine h.optional_eq .printer (by decide) (by decide) (fun v v' => ?_) (fun _ hv => ?_) hc
  · exact orNothing_of_alike fun _ _ => PrinterConfig.read_of_alike h.corresponds
  · rcases hvalue with rfl | rfl
    · exact optional_of_none hv
    · exact optional_of_some hv

theorem dither_eq (h : Edit keys value R r r' m m' d d') (hvalue : .dither ∈ keys → value = none)
    (hc : Config.optional "dither" true truth (settledFields d m) = .accepted c.dither) :
    Config.optional "dither" true truth (settledFields d' m') =
      .accepted (c.withDefaults keys).dither := by
  refine h.optional_eq .dither (by decide) (by decide) (fun v v' => truth_of_alike) ?_ hc
  exact fun hkey hv => optional_of_none (hv.trans (hvalue hkey))

theorem defaultLabel_eq (h : Edit keys value R r r' m m' d d')
    (hvalue : .defaultLabel ∈ keys → value = none)
    (hc : Config.optional "default_label" "40x30".toList text (settledFields d m) =
      .accepted c.defaultLabel) :
    Config.optional "default_label" "40x30".toList text (settledFields d' m') =
      .accepted (c.withDefaults keys).defaultLabel := by
  refine h.optional_eq .defaultLabel (by decide) (by decide) (fun v v' => text_of_alike) ?_ hc
  exact fun hkey hv => optional_of_none (hv.trans (hvalue hkey))

theorem presets_eq (h : Edit keys value R r r' m m' d d') (hvalue : SaysNothing value)
    (hc : Config.optional "label_presets" defaultPresets
      (tableOf (settle d m) (LabelDimensions.read (settle d m))) (settledFields d m) =
        .accepted c.presets) :
    Config.optional "label_presets" defaultPresets
      (tableOf (settle d' m') (LabelDimensions.read (settle d' m'))) (settledFields d' m') =
        .accepted (c.withDefaults keys).presets := by
  rw [withDefaults]
  dsimp only
  split_ifs with hkey
  · have hunsaid := isUnsaid_of_saysNothing (h.edited _ hkey) hvalue
    exact optional_of_none (by rw [valueOf?_presets]; exact if_pos hunsaid)
  · have hkept : Option.Rel (Value.Alike R) (valueOf? "label_presets" m)
        (valueOf? "label_presets" m') := h.kept_key hkey
    have hrel : Option.Rel (Value.Alike R) (valueOf? "label_presets" (settledFields d m))
        (valueOf? "label_presets" (settledFields d' m')) := by
      rw [valueOf?_presets, valueOf?_presets, ← isUnsaid_eq hkept]
      split_ifs
      · exact .none
      · exact hkept
    rcases none_or_some_of_rel hrel with ⟨hfirst, hsecond⟩ | ⟨v, v', hfirst, hsecond, hv⟩
    · rw [← hc, optional_of_none hfirst, optional_of_none hsecond]
    · have hroot : v ≠ .collection r := by
        rintro rfl
        rw [optional_of_some hfirst] at hc
        have hself : (settle d m).collection? (.collection r) =
            some (.mapping (settledFields d m)) := collections_settle_root h.root h.size_lt.1
        obtain ⟨key, hmem⟩ := exists_mem_of_lookup hfirst
        exact tableOf_ne_accepted_of_mem hself hmem _ (Verdict.below_eq_accepted_iff.1 hc)
      have htable := tableOf_of_alike h.corresponds hv hroot fun _ _ =>
        LabelDimensions.read_of_alike h.corresponds
      rw [← hc, optional_of_some hfirst, optional_of_some hsecond, htable]

theorem fontPaths_eq (h : Edit keys value R r r' m m' d d') (hvalue : SaysNothing value)
    (hc : Config.optional "font_paths" [] (listOf (settle d m) path) (settledFields d m) =
      .accepted c.fontPaths) :
    Config.optional "font_paths" [] (listOf (settle d' m') path) (settledFields d' m') =
      .accepted (c.withDefaults keys).fontPaths := by
  obtain ⟨hr, hr'⟩ := h.size_lt
  rw [withDefaults]
  dsimp only
  split_ifs with hkey
  · exact optional_fontPaths_of_isUnsaid h.root' hr'
      (isUnsaid_of_saysNothing (h.edited _ hkey) hvalue)
  · have hkept : Option.Rel (Value.Alike R) (valueOf? "font_paths" m) (valueOf? "font_paths" m') :=
      h.kept_key hkey
    rw [← hc]
    by_cases hunsaid : isUnsaid "font_paths" m = true
    · rw [optional_fontPaths_of_isUnsaid h.root hr hunsaid,
        optional_fontPaths_of_isUnsaid h.root' hr' (isUnsaid_eq hkept ▸ hunsaid)]
    · refine (optional_of_rel ?_ (fun v v' => listOf_of_alike h.corresponds) []).symm
      rw [valueOf?_fontPaths, valueOf?_fontPaths, ← isUnsaid_eq hkept, if_neg hunsaid,
        if_neg hunsaid]
      exact hkept

/-- **What an edited document tells**, if the truth value and the text among the edited fields are
left out: the same, with defaults for the edited fields. -/
theorem ofDocument_eq {file : Path} (h : Edit keys value R r r' m m' d d')
    (hvalue : SaysNothing value) (hdither : .dither ∈ keys → value = none)
    (hlabel : .defaultLabel ∈ keys → value = none) (hc : ofDocument file d = .ok c) :
    ofDocument file d' = .ok (c.withDefaults keys) := by
  rw [ofDocument_eq_ok_iff h.root h.fields, ofFields_eq_accepted_iff] at hc
  rw [ofDocument_eq_ok_iff h.root' h.fields', ofFields_eq_accepted_iff]
  obtain ⟨hprinter, htruth, hpresets, hname, hfonts⟩ := hc
  exact ⟨h.printer_eq hvalue hprinter, h.dither_eq hdither htruth, h.presets_eq hvalue hpresets,
    h.defaultLabel_eq hlabel hname, h.fontPaths_eq hvalue hfonts⟩

/-- A truth value or a text that says nothing is not accepted. -/
theorem ofDocument_ne_ok {file : Path} (h : Edit keys (some .null) R r r' m m' d d')
    (hkeys : .dither ∈ keys ∨ .defaultLabel ∈ keys) : ofDocument file d' ≠ .ok c := by
  intro hc
  rw [ofDocument_eq_ok_iff h.root' h.fields', ofFields_eq_accepted_iff] at hc
  obtain ⟨-, htruth, -, hname, -⟩ := hc
  rcases hkeys with hkey | hkey
  · have hnull := h.valueOf?_of_edited hkey (by decide) (by decide)
    exact nomatch (optional_of_some hnull).symm.trans htruth
  · have hnull := h.valueOf?_of_edited hkey (by decide) (by decide)
    exact nomatch (optional_of_some hnull).symm.trans hname

end Edit

/-! ### Files -/

/-- **A file that holds a document.** -/
def HoldsDocument (files : FileTree) (file : Path) (d : Document) : Prop :=
  ∃ bytes text, files.read file = .ok bytes ∧ String.fromUTF8? bytes = some text ∧
    Yaml.document? (Text.unifyNewlines text.toList) = .ok d

theorem load_of_holdsDocument {flaw? : ByteArray → Option Yaml.SyntaxError} {files : FileTree}
    {file : Path} {d : Document} (h : HoldsDocument files file d) :
    load flaw? files file = (ofDocument file d).mapError .config := by
  obtain ⟨bytes, text, hread, htext, hd⟩ := h
  rw [load_of_read hread, ofBytes, documentOf_of_text htext, hd]
  rfl

/-- **A document in which some fields are edited**: they have the value, or are left out. -/
def Edited (keys : Finset Key) (value : Option Value) (d d' : Document) : Prop :=
  ∃ R r r' m m', Edit keys value R r r' m m' d d'

section Load
variable {flaw? : ByteArray → Option Yaml.SyntaxError} {files files₁ files₂ : FileTree}
  {file : Path} {d d₁ d₂ : Document} {c : AppConfig} {keys : Finset Key}

/-- **Fields that say nothing.** Let a file hold a document of fields that tells a configuration,
let a second one hold it with nothing for the values of some fields of the configuration, and let a
third one hold it without these fields. Then the third one tells the same with their defaults, and
the second one tells what the third one does exactly if the fields are others than the truth value
and the text. -/
theorem load_emptied_eq_iff (hfile : HoldsDocument files file d)
    (hfile₁ : HoldsDocument files₁ file d₁) (hfile₂ : HoldsDocument files₂ file d₂)
    (hload : load flaw? files file = .ok c) (hemptied : Edited keys (some .null) d d₁)
    (hdropped : Edited keys none d d₂) :
    load flaw? files₂ file = .ok (c.withDefaults keys) ∧
      (load flaw? files₁ file = load flaw? files₂ file ↔
        .dither ∉ keys ∧ .defaultLabel ∉ keys) := by
  obtain ⟨R₁, r, r₁, m, m₁, h₁⟩ := hemptied
  obtain ⟨R₂, r', r₂, m', m₂, h₂⟩ := hdropped
  rw [load_of_holdsDocument hfile] at hload
  have hc : ofDocument file d = .ok c := by
    cases hd : ofDocument file d with
    | error e =>
      rw [hd] at hload
      cases hload
    | ok c' =>
      rw [hd] at hload
      cases hload
      rfl
  rw [load_of_holdsDocument hfile₁, load_of_holdsDocument hfile₂,
    h₂.ofDocument_eq (.inl rfl) (fun _ => rfl) (fun _ => rfl) hc]
  refine ⟨rfl, fun heq => ?_, fun hkeys => ?_⟩
  · by_contra hnot
    have hkeys : .dither ∈ keys ∨ .defaultLabel ∈ keys := by
      by_contra hneither
      exact hnot (not_or.1 hneither)
    cases hd : ofDocument file d₁ with
    | error e =>
      rw [hd] at heq
      cases heq
    | ok c' => exact h₁.ofDocument_ne_ok hkeys hd
  · rw [h₁.ofDocument_eq (.inr rfl) (fun h => absurd h hkeys.1) (fun h => absurd h hkeys.2) hc]

end Load

/-! ### A font path and a table of no sizes -/

/-- One file with a text. -/
def oneFile (text : String) : FileTree := ⟨[(["config.yaml".toList], text.toUTF8)], []⟩

theorem holdsDocument_oneFile {text : String} {d : Document}
    (h : Yaml.document? (Text.unifyNewlines text.toList) = .ok d) :
    HoldsDocument (oneFile text) (.ofText "config.yaml".toList) d :=
  ⟨text.toUTF8, text, rfl, fromUTF8?_toUTF8 text, h⟩

/-- The key of the sizes. -/
def sizesKey : Value := .text "label_presets".toList

/-- The key of the font paths. -/
def fontsKey : Value := .text "font_paths".toList

/-- A table of no sizes and a font path. -/
def tableDocument : Document :=
  ⟨.collection 0, #[.mapping [(sizesKey, .collection 2), (fontsKey, .collection 4)], .sequence [],
    .mapping [], .sequence [], .sequence [.text ['a']], .sequence []]⟩

/-- Nothing for the sizes and a font path. -/
def emptiedDocument : Document :=
  ⟨.collection 0, #[.mapping [(sizesKey, .null), (fontsKey, .collection 4)], .sequence [],
    .sequence [], .sequence [], .sequence [.text ['a']], .sequence []]⟩

/-- A font path. -/
def fontsDocument : Document :=
  ⟨.collection 0, #[.mapping [(fontsKey, .collection 2)], .sequence [], .sequence [.text ['a']],
    .sequence []]⟩

theorem holds_tableDocument : HoldsDocument (oneFile "label_presets: {}\nfont_paths: [a]\n")
    (.ofText "config.yaml".toList) tableDocument := by
  refine holdsDocument_oneFile ?_
  decide +kernel

theorem holds_emptiedDocument : HoldsDocument (oneFile "label_presets:\nfont_paths: [a]\n")
    (.ofText "config.yaml".toList) emptiedDocument := by
  refine holdsDocument_oneFile ?_
  decide +kernel

theorem holds_fontsDocument : HoldsDocument (oneFile "font_paths: [a]\n")
    (.ofText "config.yaml".toList) fontsDocument := by
  refine holdsDocument_oneFile ?_
  decide +kernel

theorem valueOf?_cons (name key : String) (v : Value) (m : Fields) :
    valueOf? name ((.text key.toList, v) :: m) =
      if key = name then some v else valueOf? name m := by
  have hsame : (Value.text key.toList).sameKey (.text name.toList) = decide (key = name) := by
    simp [Value.sameKey, String.toList_inj, beq_eq_decide]
  rw [valueOf?, Value.lookup, hsame]
  simp only [decide_eq_true_eq, valueOf?]

/-- The table of no sizes edited; the font path stands at another place afterwards. -/
theorem edited_tableDocument {value : Option Value} {d : Document} {m : Fields} {p : Nat}
    (hroot : d.root = .collection 0) (hm : d.collections[0]? = some (.mapping m)) (hp : p ≠ 0)
    (hfonts : d.collections[p]? = some (.sequence [.text ['a']]))
    (hvalue : valueOf? "label_presets" m = value)
    (hothers : ∀ name, "label_presets" ≠ name →
      valueOf? name m = if "font_paths" = name then some (.collection p) else none) :
    Edited {.presets} value tableDocument d := by
  refine ⟨fun k k' => (k = 0 ∧ k' = 0) ∨ (k = 4 ∧ k' = p), 0, 0,
    [(sizesKey, .collection 2), (fontsKey, .collection 4)], m, ?_⟩
  exact {
    root := rfl
    root' := hroot
    fields := rfl
    fields' := hm
    root_iff := by
      rintro k k' (⟨rfl, rfl⟩ | ⟨rfl, rfl⟩)
      · exact iff_of_true rfl rfl
      · exact iff_of_false (by decide) hp
    others := by
      rintro k k' (⟨rfl, rfl⟩ | ⟨rfl, rfl⟩) hk
      · exact absurd rfl hk
      · exact ⟨_, _, rfl, hfonts, .sequence (.cons (.text _) .nil)⟩
    edited := by
      intro key hkey
      rw [Finset.mem_singleton.1 hkey]
      exact hvalue
    kept := by
      intro name hname
      have hsizes : "label_presets" ≠ name := hname .presets (Finset.mem_singleton_self _)
      rw [hothers name hsizes, sizesKey, fontsKey, valueOf?_cons, if_neg hsizes, valueOf?_cons]
      split_ifs
      · exact .some (.collection (.inr ⟨rfl, rfl⟩))
      · exact .none }

theorem load_emptied_eq_iff_presets :
    ∃ c, load noFlaw? (oneFile "label_presets: {}\nfont_paths: [a]\n")
        (.ofText "config.yaml".toList) = .ok c ∧
      load noFlaw? (oneFile "font_paths: [a]\n") (.ofText "config.yaml".toList) =
        .ok (c.withDefaults {.presets}) ∧
      load noFlaw? (oneFile "label_presets:\nfont_paths: [a]\n") (.ofText "config.yaml".toList) =
        load noFlaw? (oneFile "font_paths: [a]\n") (.ofText "config.yaml".toList) := by
  have hload : load noFlaw? (oneFile "label_presets: {}\nfont_paths: [a]\n")
      (.ofText "config.yaml".toList) = .ok { presets := [], fontPaths := [.ofText ['a']] } := by
    rw [load_of_holdsDocument holds_tableDocument]
    rfl
  have hemptied : Edited {.presets} (some .null) tableDocument emptiedDocument := by
    refine edited_tableDocument (p := 4) rfl rfl (by decide) rfl rfl fun name hname => ?_
    rw [sizesKey, fontsKey, valueOf?_cons, if_neg hname, valueOf?_cons]
    rfl
  have hdropped : Edited {.presets} none tableDocument fontsDocument := by
    refine edited_tableDocument (p := 2) rfl rfl (by decide) rfl rfl fun name hname => ?_
    rw [fontsKey, valueOf?_cons]
    rfl
  have hboth := load_emptied_eq_iff holds_tableDocument holds_emptiedDocument holds_fontsDocument
    hload hemptied hdropped
  exact ⟨_, hload, hboth.1, hboth.2.2 ⟨by decide, by decide⟩⟩

/-- A document of one field, or none. -/
def fieldDocument (m : Fields) : Document where
  root := .collection 0
  collections := #[.mapping m] ++ Array.replicate (2 * m.length) (.sequence [])

theorem edited_fieldDocument (key : Key) {v : Value} {value : Option Value} {m : Fields}
    (hvalue : valueOf? key.name m = value)
    (hothers : ∀ name, key.name ≠ name → valueOf? name m = none) :
    Edited {key} value (fieldDocument [(.text key.name.toList, v)]) (fieldDocument m) := by
  refine ⟨fun k k' => k = 0 ∧ k' = 0, 0, 0, [(.text key.name.toList, v)], m, ?_⟩
  exact {
    root := rfl
    root' := rfl
    fields := rfl
    fields' := by simp [fieldDocument]
    root_iff := by
      rintro k k' ⟨rfl, rfl⟩
      exact Iff.rfl
    others := by
      rintro k k' ⟨rfl, rfl⟩ hk
      exact absurd rfl hk
    edited := by
      intro other hother
      rw [Finset.mem_singleton.1 hother]
      exact hvalue
    kept := by
      intro name hname
      have hne : key.name ≠ name := hname key (Finset.mem_singleton_self _)
      rw [hothers name hne, valueOf?_cons, if_neg hne]
      exact .none }

/-- **A truth value that says nothing** is not accepted, though it may be left out. -/
theorem load_dither_null :
    ∃ d d₁ d₂, HoldsDocument (oneFile "dither: false\n") (.ofText "config.yaml".toList) d ∧
      HoldsDocument (oneFile "dither:\n") (.ofText "config.yaml".toList) d₁ ∧
      HoldsDocument (oneFile "{}\n") (.ofText "config.yaml".toList) d₂ ∧
      (∃ c, load noFlaw? (oneFile "dither: false\n") (.ofText "config.yaml".toList) = .ok c) ∧
      Edited {.dither} (some .null) d d₁ ∧ Edited {.dither} none d d₂ ∧
      load noFlaw? (oneFile "dither:\n") (.ofText "config.yaml".toList) ≠
        load noFlaw? (oneFile "{}\n") (.ofText "config.yaml".toList) := by
  have hfile : HoldsDocument (oneFile "dither: false\n") (.ofText "config.yaml".toList)
      (fieldDocument [(.text "dither".toList, .bool false)]) := by
    refine holdsDocument_oneFile ?_
    decide +kernel
  have hfile₁ : HoldsDocument (oneFile "dither:\n") (.ofText "config.yaml".toList)
      (fieldDocument [(.text "dither".toList, .null)]) := by
    refine holdsDocument_oneFile ?_
    decide +kernel
  have hfile₂ : HoldsDocument (oneFile "{}\n") (.ofText "config.yaml".toList)
      (fieldDocument []) := by
    refine holdsDocument_oneFile ?_
    decide +kernel
  refine ⟨_, _, _, hfile, hfile₁, hfile₂, ⟨{ dither := false }, ?_⟩, ?_, ?_, ?_⟩
  · rw [load_of_holdsDocument hfile]
    rfl
  · refine edited_fieldDocument .dither rfl fun name hname => ?_
    exact (valueOf?_cons ..).trans (if_neg hname)
  · exact edited_fieldDocument .dither rfl fun _ _ => rfl
  · rw [load_of_holdsDocument hfile₁, load_of_holdsDocument hfile₂]
    nofun

end AppConfig

end LabelPress
