import LabelPress.Config.App
import LabelPress.Proofs.Files.Below
import LabelPress.Proofs.Yaml.Values
import Mathlib

/-!
# Loading a configuration

A file ought to tell a configuration or why it does not, and only nothing or a mapping ought to be
accepted. Files of three kinds break this promise: their bytes are no text, a part of the text has
no value, or the text says something that counts as nothing, such as `false`, but is not.

* `AppConfig.load_of_read`: a file that can be read tells what its bytes tell.
* `AppConfig.Hollow`: what counts as nothing.
* `AppConfig.KeepsPromise`: the promise, for the bytes of a file.
* `AppConfig.keepsPromise_iff`: which files keep the promise.
-/

namespace LabelPress

open Yaml (Document document? BlamedOn blamedOn_of_document?_eq_error)
open Text (unifyNewlines)

namespace AppConfig

/-- A file that can be read tells what its bytes tell. -/
theorem load_of_read {flaw? : ByteArray → Option Yaml.SyntaxError} {files : FileTree} {file : Path}
    {bytes : ByteArray} (h : files.read file = .ok bytes) :
    load flaw? files file = ofBytes flaw? file bytes := by
  rw [load, FileTree.look_of_read h, h]

/-! ### What counts as nothing -/

/-- **A hollow document** counts as nothing, but is neither nothing nor a mapping. -/
inductive Hollow (d : Document) : Prop
  | bool (h : d.root = .bool false)
  | int (h : d.root = .int 0)
  | real {x : Float} {origin : Option Nat} (h : d.root = .real x origin) (hx : (x == 0) = true)
  | text (h : d.root = .text [])
  | bytes (h : d.root = .bytes [])
  | sequence (h : d.collection? d.root = some (.sequence []))
  | set (h : d.collection? d.root = some (.set []))

/-- **A proper document** is nothing or a mapping. -/
def IsProper (d : Document) : Prop :=
  d.root = .null ∨ ∃ m, d.collection? d.root = some (.mapping m)

theorem not_isProper_of_hollow {d : Document} (h : Hollow d) : ¬IsProper d := by
  rintro (hnull | ⟨m, hm⟩)
  · cases h <;> simp_all [Document.collection?]
  · cases h <;> simp_all [Document.collection?]

/-- What counts as nothing. -/
theorem hollow_or_isProper_of_isNothing {d : Document} (h : isNothing d = true) :
    Hollow d ∨ IsProper d := by
  unfold isNothing at h
  split at h
  next hroot => exact .inr (.inl hroot)
  next b hroot =>
    simp only [Bool.not_eq_true'] at h
    exact .inl (.bool (h ▸ hroot))
  next n hroot =>
    simp only [beq_iff_eq] at h
    exact .inl (.int (h ▸ hroot))
  next x origin hroot => exact .inl (.real hroot h)
  next s hroot =>
    simp only [List.isEmpty_iff] at h
    exact .inl (.text (h ▸ hroot))
  next bs hroot =>
    simp only [List.isEmpty_iff] at h
    exact .inl (.bytes (h ▸ hroot))
  next v =>
    split at h
    next xs hxs =>
      simp only [List.isEmpty_iff] at h
      exact .inl (.sequence (h ▸ hxs))
    next xs hxs =>
      simp only [List.isEmpty_iff] at h
      exact .inl (.set (h ▸ hxs))
    next m hm => exact .inr (.inr ⟨m, hm⟩)
    next => cases h

/-- The value that is a collection. -/
theorem root_of_collection? {d : Document} {c : Yaml.Collection}
    (h : d.collection? d.root = some c) : ∃ k, d.root = .collection k := by
  unfold Document.collection? at h
  split at h
  next k hroot => exact ⟨k, hroot⟩
  next => cases h

theorem isNothing_of_hollow {d : Document} (h : Hollow d) : isNothing d = true := by
  unfold isNothing
  cases h with
  | bool h => rw [h]; rfl
  | int h => rw [h]; rfl
  | real h hx => rw [h]; exact hx
  | text h => rw [h]; rfl
  | bytes h => rw [h]; rfl
  | sequence h =>
    obtain ⟨k, hroot⟩ := root_of_collection? h
    rw [hroot] at h ⊢
    simp only [h, List.isEmpty_nil]
  | set h =>
    obtain ⟨k, hroot⟩ := root_of_collection? h
    rw [hroot] at h ⊢
    simp only [h, List.isEmpty_nil]

/-- **A document tells a configuration** only if it is proper or hollow. -/
theorem hollow_or_isProper_of_ofDocument {file : Path} {d : Document} {c : AppConfig}
    (h : ofDocument file d = .ok c) : Hollow d ∨ IsProper d := by
  unfold ofDocument at h
  split_ifs at h with hnothing
  · exact hollow_or_isProper_of_isNothing hnothing
  · split at h
    next m hm => exact .inr (.inr ⟨m, hm⟩)
    next => cases h

theorem ofDocument_of_hollow {file : Path} {d : Document} (h : Hollow d) :
    ofDocument file d = .ok {} := by
  rw [ofDocument, if_pos (isNothing_of_hollow h)]

/-! ### Bytes -/

/-- **The promise of loading**: a file tells a configuration or what is wrong with it, and it tells
one only if its document is proper. -/
structure KeepsPromise (flaw? : ByteArray → Option Yaml.SyntaxError) (file : Path)
    (bytes : ByteArray) : Prop where
  config_of_error : ∀ e, ofBytes flaw? file bytes = .error e → ∃ c, e = .config c
  isProper_of_ok : ∀ c, ofBytes flaw? file bytes = .ok c →
    ∃ d, documentOf flaw? bytes = .ok d ∧ IsProper d

section Promise
variable {flaw? : ByteArray → Option Yaml.SyntaxError} {file : Path} {bytes : ByteArray}
  {text : String}

theorem documentOf_of_text (h : String.fromUTF8? bytes = some text) :
    documentOf flaw? bytes = (document? (unifyNewlines text.toList)).mapError .noValue := by
  rw [documentOf, h]

theorem not_keepsPromise_of_notText (h : documentOf flaw? bytes = .error .notText) :
    ¬KeepsPromise flaw? file bytes := by
  intro hkeeps
  have htold : ofBytes flaw? file bytes = .error .notText := by rw [ofBytes, h]; rfl
  obtain ⟨c, hc⟩ := hkeeps.config_of_error _ htold
  cases hc

/-- A text without a document concerns the user if it breaks a rule of the notation. -/
theorem ofNoDocument_noValue_eq_config {e : Yaml.ValueError} {c : ConfigError} :
    LoadError.ofNoDocument file (.noValue e) = .config c ↔
      e = .malformed ∧ c = .malformed file := by
  unfold LoadError.ofNoDocument
  split <;> simp_all [eq_comm]

theorem keepsPromise_iff_of_noValue {e : Yaml.ValueError}
    (h : documentOf flaw? bytes = .error (.noValue e)) :
    KeepsPromise flaw? file bytes ↔ e = .malformed := by
  have htold : ofBytes flaw? file bytes = .error (.ofNoDocument file (.noValue e)) := by
    rw [ofBytes, h]
  refine ⟨fun hkeeps => ?_, fun he => ⟨fun e' he' => ?_, fun c hc => ?_⟩⟩
  · obtain ⟨c, hc⟩ := hkeeps.config_of_error _ htold
    exact (ofNoDocument_noValue_eq_config.1 hc).1
  · rw [htold] at he'
    cases he'
    exact ⟨_, ofNoDocument_noValue_eq_config.2 ⟨he, rfl⟩⟩
  · rw [htold] at hc
    cases hc

theorem keepsPromise_iff_of_ok {d : Document} (h : documentOf flaw? bytes = .ok d) :
    KeepsPromise flaw? file bytes ↔ ¬Hollow d := by
  have htold : ofBytes flaw? file bytes = (ofDocument file d).mapError .config := by
    rw [ofBytes, h]
  refine ⟨fun hkeeps hhollow => ?_, fun hhollow => ⟨fun e he => ?_, fun c hc => ⟨d, h, ?_⟩⟩⟩
  · rw [ofDocument_of_hollow hhollow] at htold
    obtain ⟨d', hd', hproper⟩ := hkeeps.isProper_of_ok _ htold
    rw [h] at hd'
    cases hd'
    exact not_isProper_of_hollow hhollow hproper
  · rw [htold] at he
    cases hof : ofDocument file d with
    | error c =>
      rw [hof] at he
      cases he
      exact ⟨c, rfl⟩
    | ok c =>
      rw [hof] at he
      cases he
  · rw [htold] at hc
    cases hof : ofDocument file d with
    | error c' =>
      rw [hof] at hc
      cases hc
    | ok c' => exact (hollow_or_isProper_of_ofDocument hof).resolve_left hhollow

end Promise

/-- **Which files keep the promise of loading.** A rule of the notation is found broken, or the
bytes are a text that has a document, which is not hollow. A text that has no document although it
keeps the rules is blamed on one of its parts. What the bytes tell is what is loaded from a file
that has them. -/
theorem keepsPromise_iff (flaw? : ByteArray → Option Yaml.SyntaxError) (file : Path)
    (bytes : ByteArray) :
    (KeepsPromise flaw? file bytes ↔
        documentOf flaw? bytes = .error (.noValue .malformed) ∨
          ∃ d, documentOf flaw? bytes = .ok d ∧ ¬Hollow d) ∧
      (∀ text, String.fromUTF8? bytes = some text →
        ∀ e ≠ .malformed, documentOf flaw? bytes = .error (.noValue e) →
          BlamedOn (unifyNewlines text.toList) e) ∧
      ∀ files : FileTree, files.read file = .ok bytes →
        load flaw? files file = ofBytes flaw? file bytes := by
  refine ⟨?_, fun text htext e hne he => ?_, fun files hread => load_of_read hread⟩
  · cases h : documentOf flaw? bytes with
    | error e =>
      cases e with
      | notText => simpa using not_keepsPromise_of_notText h
      | noValue e => simpa using keepsPromise_iff_of_noValue h
    | ok d => simpa using keepsPromise_iff_of_ok h
  · rw [documentOf_of_text htext] at he
    refine blamedOn_of_document?_eq_error ?_ hne
    cases hd : document? (unifyNewlines text.toList) with
    | error e' =>
      rw [hd] at he
      cases he
      rfl
    | ok d =>
      rw [hd] at he
      cases he

/-! ### A date that does not exist, and a truth value -/

deriving instance DecidableEq for Yaml.Value, Yaml.Collection, Document

theorem fromUTF8?_toUTF8 (s : String) : String.fromUTF8? s.toUTF8 = some s := by
  simp only [String.fromUTF8?, Option.dite_none_right_eq_some]
  exact ⟨s.isValidUTF8, rfl⟩

/-- No flaw is found before what is no text. -/
def noFlaw? (_ : ByteArray) : Option Yaml.SyntaxError := none

theorem documentOf_toUTF8 (s : String) : documentOf noFlaw? s.toUTF8 =
    (document? (unifyNewlines s.toList)).mapError .noValue :=
  documentOf_of_text (fromUTF8?_toUTF8 s)

theorem keepsPromise_empty :
    KeepsPromise noFlaw? (.ofText "config.yaml".toList) "{}".toUTF8 := by
  have hempty : documentOf noFlaw? "{}".toUTF8 = .ok ⟨.collection 0, #[.mapping []]⟩ := by
    have hread : document? (unifyNewlines "{}".toList) = .ok ⟨.collection 0, #[.mapping []]⟩ := by
      decide +kernel
    rw [documentOf_toUTF8, hread]
    rfl
  refine (keepsPromise_iff _ _ _).1.2 (.inr ⟨_, hempty, fun hhollow => ?_⟩)
  exact not_isProper_of_hollow hhollow (.inr ⟨[], rfl⟩)

/-- **Files that break the promise**: one that names a date that does not exist, one that says no
more than a truth value, and one that is no text. -/
theorem not_keepsPromise_date :
    ¬KeepsPromise noFlaw? (.ofText "config.yaml".toList) "a: 2001-99-99".toUTF8 ∧
      ¬KeepsPromise noFlaw? (.ofText "config.yaml".toList) "false".toUTF8 ∧
        ¬KeepsPromise noFlaw? (.ofText "config.yaml".toList) ⟨#[0xff]⟩ := by
  have hdate : documentOf noFlaw? "a: 2001-99-99".toUTF8 = .error (.noValue (.notDate .month)) := by
    have hread : document? (unifyNewlines "a: 2001-99-99".toList) = .error (.notDate .month) := by
      decide +kernel
    rw [documentOf_toUTF8, hread]
    rfl
  have hfalse : documentOf noFlaw? "false".toUTF8 = .ok ⟨.bool false, #[.sequence []]⟩ := by
    have hread : document? (unifyNewlines "false".toList) =
        .ok ⟨.bool false, #[.sequence []]⟩ := by decide +kernel
    rw [documentOf_toUTF8, hread]
    rfl
  have hbyte : documentOf noFlaw? ⟨#[0xff]⟩ = .error .notText := by
    have hread : String.fromUTF8? ⟨#[0xff]⟩ = none := by decide
    rw [documentOf, hread]
    rfl
  refine ⟨fun h => ?_, fun h => ?_, not_keepsPromise_of_notText hbyte⟩
  · exact absurd ((keepsPromise_iff_of_noValue hdate).1 h) (by decide)
  · exact (keepsPromise_iff_of_ok hfalse).1 h (.bool rfl)

end AppConfig

end LabelPress
