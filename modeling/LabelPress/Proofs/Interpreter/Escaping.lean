import LabelPress.Proofs.Interpreter.Parts
import Mathlib.Tactic.Common

/-! # Escapes in field data

Field data are unescaped in two passes over the whole text, first for `\&` and then for pairs of
backslashes. One pass from left to right does the same. A run of `n` backslashes loses one to an `&`
behind it in the first pass and halves, rounded up, in the second; what is read in pairs from its
front is halved as well, and a last backslash that is left over goes with the `&` or stands for
itself. The first pass takes backslashes out only before an `&`, so it joins no two runs.

* `unescape`: the pass from left to right; `fieldText_eq_unescape` compares it with the two.
* `escape`, `unescape_escape`: every text has field data that stand for it.
* `perform_fieldData_unescaped`: the text that is drawn. -/

namespace LabelPress

namespace Markup

/-! ### One pass and two -/

/-- **Field data read from left to right**: an `&` after a backslash, a backslash after a backslash,
and every other character by itself. -/
def unescape : List Char → List Char
  | '\\' :: '&' :: s => '&' :: unescape s
  | '\\' :: '\\' :: s => '\\' :: unescape s
  | c :: s => c :: unescape s
  | [] => []

theorem unescapeAmpersand_cons {c : Char} {s : List Char} (h : c = '\\' → s.head? ≠ some '&') :
    unescapeAmpersand (c :: s) = c :: unescapeAmpersand s := by
  rw [unescapeAmpersand]
  rintro t rfl rfl
  exact h rfl rfl

theorem unescapeBackslash_cons {c : Char} {s : List Char} (h : c = '\\' → s.head? ≠ some '\\') :
    unescapeBackslash (c :: s) = c :: unescapeBackslash s := by
  rw [unescapeBackslash]
  rintro t rfl rfl
  exact h rfl rfl

theorem unescape_cons {c : Char} {s : List Char}
    (h : c = '\\' → s.head? ≠ some '&' ∧ s.head? ≠ some '\\') :
    unescape (c :: s) = c :: unescape s := by
  rw [unescape]
  · rintro t rfl rfl
    exact (h rfl).1 rfl
  · rintro t rfl rfl
    exact (h rfl).2 rfl

theorem head?_unescapeAmpersand {s : List Char} (h : s.head? ≠ some '\\') :
    (unescapeAmpersand s).head? = s.head? := by
  cases s with
  | nil => rfl
  | cons c s =>
    have hc : c ≠ '\\' := by
      rintro rfl
      exact h rfl
    rw [unescapeAmpersand_cons fun hb => absurd hb hc]
    rfl

theorem fieldText_cons {c : Char} {s : List Char} (h : c ≠ '\\') :
    fieldText (c :: s) = c :: fieldText s := by
  unfold fieldText
  rw [unescapeAmpersand_cons fun hb => absurd hb h, unescapeBackslash_cons fun hb => absurd hb h]

/-- **The two passes do what one does.** -/
theorem fieldText_eq_unescape (params : List Char) : fieldText params = unescape params := by
  fun_induction unescape params with
  | case1 s ih =>
    have h : fieldText ('\\' :: '&' :: s) = '&' :: fieldText s := by
      unfold fieldText
      rw [unescapeAmpersand, unescapeBackslash_cons (by simp)]
    rw [h, ih]
  | case2 s ih =>
    -- An `&` behind the pair takes its second backslash away, and is taken for itself instead.
    by_cases hs : s.head? = some '&'
    · obtain ⟨t, rfl⟩ := List.head?_eq_some_iff.1 hs
      have h : fieldText ('\\' :: '\\' :: '&' :: t) = '\\' :: '&' :: fieldText t := by
        unfold fieldText
        rw [unescapeAmpersand_cons (by simp), unescapeAmpersand,
          unescapeBackslash_cons (by simp), unescapeBackslash_cons (by simp)]
      rw [h, ← ih, fieldText_cons (by decide)]
    · have h : fieldText ('\\' :: '\\' :: s) = '\\' :: fieldText s := by
        unfold fieldText
        rw [unescapeAmpersand_cons (by simp), unescapeAmpersand_cons fun _ => hs,
          unescapeBackslash]
      rw [h, ih]
  | case3 c s hamp hback ih =>
    by_cases hc : c = '\\'
    · subst hc
      have hamp' : s.head? ≠ some '&' := by
        intro hs
        obtain ⟨t, rfl⟩ := List.head?_eq_some_iff.1 hs
        exact hamp t rfl rfl
      have hback' : s.head? ≠ some '\\' := by
        intro hs
        obtain ⟨t, rfl⟩ := List.head?_eq_some_iff.1 hs
        exact hback t rfl rfl
      have hfirst : (unescapeAmpersand s).head? ≠ some '\\' := by
        rw [head?_unescapeAmpersand hback']
        exact hback'
      have h : fieldText ('\\' :: s) = '\\' :: fieldText s := by
        unfold fieldText
        rw [unescapeAmpersand_cons fun _ => hamp', unescapeBackslash_cons fun _ => hfirst]
      rw [h, ih]
    · rw [fieldText_cons hc, ih]
  | case4 => rfl

example : unescapeAmpersand "\\\\\\\\&".toList = "\\\\\\&".toList ∧
    fieldText "\\\\\\\\&".toList = "\\\\&".toList := by decide

/-! ### Escaping -/

/-- A character in field data, with a backslash before it if it needs one. -/
def escapeChar (c : Char) : List Char := if c = '\\' ∨ c = '&' then ['\\', c] else [c]

/-- **A text in field data.** -/
def escape (text : List Char) : List Char := text.flatMap escapeChar

theorem unescape_escape (text : List Char) : unescape (escape text) = text := by
  induction text with
  | nil => rfl
  | cons c text ih =>
    have hcons : escape (c :: text) = escapeChar c ++ escape text := rfl
    rw [hcons]
    unfold escapeChar
    split_ifs with hc
    · rcases hc with rfl | rfl
      · simp [unescape, ih]
      · simp [unescape, ih]
    · have hplain : c ≠ '\\' := fun hb => hc (Or.inl hb)
      rw [List.singleton_append, unescape_cons fun hb => absurd hb hplain, ih]

end Markup

/-! ### The text that is drawn -/

namespace Interpreter

open Markup

theorem run_dropResult {α : Type} (d : Draw α) (c : Canvas) :
    (d >>= fun _ => pure () : Draw Unit).run.run c =
      ((d.run.run c).1.map fun _ => (), (d.run.run c).2) := by
  rw [ExceptT.run_bind, StateT.run_bind]
  rcases d.run.run c with ⟨⟨e⟩ | ⟨a⟩, c'⟩
  · rfl
  · rfl

theorem run_drawing_fieldData (fonts : FontSource) (p : Pen) (params : List Char) (c : Canvas) :
    (drawing fonts p .fieldData params).run.run c =
      let drawn := (Canvas.drawText fonts (unescape params) p.x p.y p.style).run.run c
      ((drawn.1.map fun _ => ()).mapError .draw, drawn.2) := by
  have hdropped := run_dropResult (Canvas.drawText fonts (fieldText params) p.x p.y p.style) c
  rw [← fieldText_eq_unescape]
  exact congrArg (fun drawn => (drawn.1.mapError CommandError.draw, drawn.2)) hdropped

/-- **Field data stand for the text that they are read as from left to right.** The two passes make
this text of them; with it the command draws at the cursor, in the style of the state, and ends like
the drawing, with no reversal pending. Field data of an escaped text stand for that text. -/
theorem perform_fieldData_unescaped :
    (∀ params, fieldText params = unescape params) ∧
    (∀ (fonts : FontSource) (params : List Char) (s : Session),
      (perform fonts .fieldData params).run.run s =
        let drawn := (Canvas.drawText fonts (unescape params) s.state.x s.state.y
          { font := s.state.font, height := s.state.fontHeight, width := some s.state.fontWidth,
            rotation := s.state.orientation.degrees,
            reverse := s.state.fieldReverse }).run.run s.canvas
        ((drawn.1.map fun _ => ()).mapError .draw,
          ⟨{ s.state with fieldReverse := false }, drawn.2⟩)) ∧
    ∀ text, fieldText (escape text) = text := by
  refine ⟨fieldText_eq_unescape, fun fonts params s => ?_, fun text => ?_⟩
  · have hrun := run_fieldData fonts params s
    rw [run_drawing_fieldData] at hrun
    exact hrun
  · rw [fieldText_eq_unescape, unescape_escape]

end Interpreter

end LabelPress
