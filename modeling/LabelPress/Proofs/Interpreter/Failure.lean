import LabelPress.Proofs.Interpreter.Alike

/-! # Commands that fail

A failing command is not undone. It has made the assignments before the first that it could not
make, and a box may have been drawn in part; all else is as before. So a failing command can be left
out of a label without a trace if there was nothing to make before its flaw, and this is always so
for commands that make at most one assignment. Field data are no matter here: they end a pending
reversal whether or not they can be drawn.

* `plan`, `possible`: the assignments that a record stands for, and those before the first flaw.
* `draws_or_assigns`: but for field data, no command does both.
* `clean_drawing`: what is drawn shows at once or not at all, but for boxes.
* `state_step`, `canvas_step_of_failure`: what a failing command leaves behind.
* `interpret_failing`: a run with a failing command beside the run without it. -/

namespace LabelPress.Interpreter

open Markup Text

/-! ### What is left of a failing command -/

/-- The assignments that a record stands for. -/
def plan (width : Nat) (r : Record) : List Assignment :=
  match resolve r.name with
  | none => []
  | some (c, extra) => assignments width c (extra ++ r.params)

/-- The assignments before the first that cannot be made. -/
def possible (l : List Assignment) : List Assignment := l.takeWhile Except.isOk

/-- Does the record stand for a box that can be read from its parameters? -/
def isReadableBox (r : Record) : Bool :=
  match resolve r.name with
  | some (.graphicBox, extra) => (Box.ofParams (extra ++ r.params)).isOk
  | _ => false

theorem make_possible (l : List Assignment) (s : State) :
    make (possible l) s = (.ok (), (make l s).2) := by
  induction l generalizing s with
  | nil => rfl
  | cons a l ih =>
    cases a with
    | error e => rfl
    | ok f => exact ih (f s)

theorem state_step (fonts : FontSource) (s : Session) (r : Record) :
    (s.step fonts r).1.state = (make (plan s.canvas.width r) s.state).2 := by
  unfold plan
  cases hr : resolve r.name with
  | none =>
    simp only [Session.step, hr]
    rfl
  | some found =>
    obtain ⟨c, extra⟩ := found
    rw [step_eq hr]

/-- But for field data, a command draws or assigns. -/
theorem draws_or_assigns {c : Command} (h : c ≠ .fieldData) (fonts : FontSource) (p : Pen)
    (width : Nat) (params : List Char) :
    drawing fonts p c params = pure () ∨ assignments width c params = [] := by
  cases c with
  | fieldData => exact absurd rfl h
  | graphicBox => exact .inr rfl
  | graphicField => exact .inr rfl
  | _ => exact .inl rfl

/-! ### What is left on the canvas -/

/-- **A clean drawing** leaves the canvas alone when it fails. -/
def Clean {ε : Type} (m : ExceptT ε (StateM Canvas) Unit) : Prop :=
  ∀ c e, (m.run.run c).1 = .error e → (m.run.run c).2 = c

theorem clean_blit (data : List UInt8) (rowBytes rows x y : Int) :
    Clean (Canvas.blit data rowBytes rows x y) := by
  intro c e h
  unfold Canvas.blit at h ⊢
  split_ifs at h ⊢ with hempty
  · rfl
  · dsimp only at h ⊢
    split at h
    · rfl
    · cases h

theorem clean_sketch {α : Type} {r : Except CommandError α} {d : α → Draw Unit}
    (hd : ∀ a, Clean (d a)) : Clean (sketch r d) := by
  intro c e h
  cases r with
  | error e => rfl
  | ok a =>
    cases hdrawn : ((d a).run.run c).1 with
    | error e => exact hd a c e hdrawn
    | ok u =>
      change ((d a).run.run c).1.mapError CommandError.draw = .error e at h
      rw [hdrawn] at h
      cases h

theorem clean_drawing {c : Command} {params : List Char} (htext : c ≠ .fieldData)
    (hbox : c = .graphicBox → (Box.ofParams params).isOk = false) (fonts : FontSource) (p : Pen) :
    Clean (drawing fonts p c params) := by
  cases c with
  | fieldData => exact absurd rfl htext
  | graphicBox =>
    have hread := hbox rfl
    simp only [drawing]
    cases hr : Box.ofParams params with
    | error e => exact fun _ _ _ => rfl
    | ok box =>
      rw [hr] at hread
      cases hread
  | graphicField => exact clean_sketch fun field => clean_blit _ _ _ _ _
  | _ => exact fun _ _ _ => rfl

section
variable {fonts : FontSource} {s : Session} {r : Record} {d : Diagnostic}

theorem canvas_step_of_failure (hfail : (s.step fonts r).2 = some d)
    (htext : ∀ extra, resolve r.name ≠ some (.fieldData, extra)) (hbox : isReadableBox r = false) :
    (s.step fonts r).1.canvas = s.canvas := by
  cases hr : resolve r.name with
  | none => simp only [Session.step, hr]
  | some found =>
    obtain ⟨c, extra⟩ := found
    have hc : c ≠ .fieldData := by
      rintro rfl
      exact htext extra hr
    have hclean : Clean (drawing fonts s.state.pen c (extra ++ r.params)) := by
      refine clean_drawing hc (fun hgraphic => ?_) fonts s.state.pen
      subst hgraphic
      simpa only [isReadableBox, hr] using hbox
    rw [step_eq hr] at hfail ⊢
    -- A command that draws can fail in no other way.
    rcases draws_or_assigns hc fonts s.state.pen s.canvas.width (extra ++ r.params) with hd | ha
    · rw [hd]
      rfl
    · rw [ha] at hfail
      cases hdrawn : ((drawing fonts s.state.pen c (extra ++ r.params)).run.run s.canvas).1 with
      | error e => exact hclean _ e hdrawn
      | ok u =>
        dsimp only at hfail
        rw [hdrawn] at hfail
        cases hfail

theorem possible_plan_eq_nil (hfail : (s.step fonts r).2 = some d)
    (htext : ∀ extra, resolve r.name ≠ some (.fieldData, extra))
    (hfew : (plan s.canvas.width r).length ≤ 1) : possible (plan s.canvas.width r) = [] := by
  cases hr : resolve r.name with
  | none => simp only [plan, hr]; rfl
  | some found =>
    obtain ⟨c, extra⟩ := found
    have hc : c ≠ .fieldData := by
      rintro rfl
      exact htext extra hr
    simp only [plan, hr] at hfew ⊢
    rw [step_eq hr] at hfail
    rcases draws_or_assigns hc fonts s.state.pen s.canvas.width (extra ++ r.params) with hd | ha
    · rw [hd] at hfail
      change remark r.name (make (assignments s.canvas.width c (extra ++ r.params)) s.state).1 =
        some d at hfail
      generalize assignments s.canvas.width c (extra ++ r.params) = l at hfew hfail
      rcases l with - | ⟨a, l⟩
      · rfl
      · rw [List.length_cons] at hfew
        obtain rfl : l = [] := List.length_eq_zero_iff.1 (by omega)
        cases a with
        | error e => rfl
        | ok f => cases hfail
    · rw [ha]
      rfl

end

/-! ### A run with a failing command -/

theorem interpret_append {fonts : FontSource} {before : List Record} {width height : Int}
    {first : Rendering} (h : interpret fonts before width height = .ok first)
    (records : List Record) :
    interpret fonts (before ++ records) width height =
      .ok ⟨(interpretFrom fonts first.session records).session,
        first.diagnostics ++ (interpretFrom fonts first.session records).diagnostics⟩ := by
  obtain ⟨hwidth, hheight, rfl⟩ := interpret_eq_ok_iff.1 h
  rw [interpret_eq_ok_iff.2 ⟨hwidth, hheight, rfl⟩, interpretFrom_append]

/-- **A failing command keeps what it did before its flaw**, and nothing else but a part of a box.
It can be left out without a change of the state and of the other remarks if what it did left the
state as it was; so it is if there was nothing to do before its flaw, which is always so for
commands that make at most one assignment. The picture does not change either if the command left it
as it was, which any command does but a box that can be read. -/
theorem interpret_failing (fonts : FontSource) {before : List Record} {r : Record}
    (after : List Record) {width height : Int} {first : Rendering} {d : Diagnostic}
    (hfirst : interpret fonts before width height = .ok first)
    (hfail : (first.session.step fonts r).2 = some d)
    (htext : ∀ extra, resolve r.name ≠ some (.fieldData, extra)) :
    let s := first.session
    let t := (s.step fonts r).1
    let done := possible (plan s.canvas.width r)
    make done s.state = (.ok (), t.state) ∧
      ((plan s.canvas.width r).length ≤ 1 → done = []) ∧
      (isReadableBox r = false → t.canvas = s.canvas) ∧
      ∃ rest cut : Rendering, rest = interpretFrom fonts t after ∧
        interpret fonts (before ++ r :: after) width height =
          .ok ⟨rest.session, first.diagnostics ++ d :: rest.diagnostics⟩ ∧
        interpret fonts (before ++ after) width height =
          .ok ⟨cut.session, first.diagnostics ++ cut.diagnostics⟩ ∧
        (t.state = s.state → cut.diagnostics = rest.diagnostics ∧
          cut.session.state = rest.session.state ∧
          (t.canvas = s.canvas → cut.session.canvas = rest.session.canvas)) := by
  intro s t done
  refine ⟨?_, possible_plan_eq_nil hfail htext, canvas_step_of_failure hfail htext,
    interpretFrom fonts t after, interpretFrom fonts s after, rfl, ?_,
    interpret_append hfirst after, fun hstate => ?_⟩
  · rw [make_possible, state_step]
  · rw [interpret_append hfirst]
    simp only [interpretFrom, hfail]
    rfl
  · -- The rest of the run cannot tell canvases of one size apart.
    have hsize : t.canvas.width = s.canvas.width ∧ t.canvas.height = s.canvas.height :=
      size_interpretFrom fonts s [r]
    have halike : Alike (Canvas.BothSized s.canvas.width s.canvas.height) id s t :=
      ⟨⟨⟨rfl, rfl⟩, hsize⟩, hstate.symm⟩
    obtain ⟨hremarks, hend⟩ := halike.run (faithful_bothSized _ _) fonts after
    refine ⟨hremarks, hend.state, fun hcanvas => ?_⟩
    have hsame : s = t := congrArg₂ Session.mk hstate.symm hcanvas.symm
    rw [← hsame]

/-- A command that names no orientation, between a cursor and a box. -/
theorem interpret_failing_orientation :
    ∃ first : Rendering,
      interpret Font.blockSource [⟨"FO".toList, "1,1".toList⟩] 4 4 = .ok first ∧
      (first.session.step Font.blockSource ⟨"FW".toList, "Q".toList⟩).2 =
        some ⟨"FW".toList, some (.unknownOrientation "Q".toList)⟩ ∧
      (∀ extra, resolve "FW".toList ≠ some (.fieldData, extra)) ∧
      ∃ rest cut : Rendering,
        interpret Font.blockSource [⟨"FO".toList, "1,1".toList⟩, ⟨"FW".toList, "Q".toList⟩,
          ⟨"GB".toList, "2,2,2".toList⟩] 4 4 = .ok ⟨rest.session, first.diagnostics ++
            ⟨"FW".toList, some (.unknownOrientation "Q".toList)⟩ :: rest.diagnostics⟩ ∧
        interpret Font.blockSource [⟨"FO".toList, "1,1".toList⟩, ⟨"GB".toList, "2,2,2".toList⟩]
          4 4 = .ok ⟨cut.session, first.diagnostics ++ cut.diagnostics⟩ ∧
        cut.diagnostics = rest.diagnostics ∧ cut.session.state = rest.session.state ∧
        cut.session.canvas = rest.session.canvas := by
  have hfirst : interpret Font.blockSource [⟨"FO".toList, "1,1".toList⟩] 4 4 =
      .ok (interpretFrom Font.blockSource ⟨{}, Canvas.blank 4 4⟩
        [⟨"FO".toList, "1,1".toList⟩]) := rfl
  have hfail : ((interpretFrom Font.blockSource ⟨{}, Canvas.blank 4 4⟩
      [⟨"FO".toList, "1,1".toList⟩]).session.step Font.blockSource
        ⟨"FW".toList, "Q".toList⟩).2 =
      some ⟨"FW".toList, some (.unknownOrientation "Q".toList)⟩ := by decide +kernel
  have htext : ∀ extra, resolve "FW".toList ≠ some (.fieldData, extra) := by
    rintro extra ⟨⟩
  have hbox : isReadableBox ⟨"FW".toList, "Q".toList⟩ = false := by decide +kernel
  obtain ⟨hmade, hnone, hclean, rest, cut, -, hfull, hcut, hsame⟩ :=
    interpret_failing Font.blockSource [⟨"GB".toList, "2,2,2".toList⟩] hfirst hfail htext
  rw [hnone (by decide +kernel)] at hmade
  obtain ⟨hremarks, hstate, hcanvas⟩ := hsame (congrArg Prod.snd hmade).symm
  exact ⟨_, hfirst, hfail, htext, rest, cut, hfull, hcut, hremarks, hstate, hcanvas (hclean hbox)⟩

/-- **A failing command is not undone**: a font is chosen although its height is no number, and a
column of a box is drawn although its place was lost. -/
theorem interpret_failing_not_undone :
    (∃ full cut : Rendering,
      interpret Font.blockSource [⟨"CF".toList, "A,xx".toList⟩] 8 1 = .ok full ∧
      interpret Font.blockSource [] 8 1 = .ok cut ∧
      full.diagnostics = [⟨"CF".toList, some (.invalidNumber "font height" "xx".toList)⟩] ∧
      full.session.state.font = ['A'] ∧ cut.session.state.font = ['0']) ∧
    ∃ full cut : Rendering,
      interpret Font.blockSource [⟨"FO".toList, "9223372036854775808,0".toList⟩,
        ⟨"GB".toList, "10,10,2".toList⟩] 4 4 = .ok full ∧
      interpret Font.blockSource [⟨"FO".toList, "9223372036854775808,0".toList⟩] 4 4 = .ok cut ∧
      full.diagnostics = [⟨"GB".toList, some (.draw (.lostCoordinate .rectangle))⟩] ∧
      full.session.canvas.pixel? 0 2 = some Canvas.black ∧
      cut.session.canvas.pixel? 0 2 = some Canvas.white := by
  refine ⟨⟨_, _, rfl, rfl, ?_, ?_, ?_⟩, _, _, rfl, rfl, ?_, ?_, ?_⟩
  · decide +kernel
  · decide +kernel
  · decide +kernel
  · decide +kernel
  · decide +kernel
  · decide +kernel

end LabelPress.Interpreter
