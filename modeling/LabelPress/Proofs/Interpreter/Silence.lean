import LabelPress.Proofs.Interpreter.Alike

/-! # Silent commands

Commands that neither draw nor move the pen, and names that no command answers to, can be left out
of a label: the picture and the pen at the end are the same, and so are the remarks on the commands
that are left.

* `isShown`: the records that are left.
* `faithful_onlyPen`: commands need no more of a state than the pen.
* `alike_step_of_silent`: one silent command shows nowhere.
* `interpret_filter_isShown`: nor do all silent commands of a label. -/

namespace LabelPress.Interpreter

open Markup Text

/-- Does the record stand for a command that is not silent? -/
def isShown (r : Record) : Bool :=
  match resolve r.name with
  | none => false
  | some (c, _) => !isSilent c

/-! ### One command -/

/-- **Commands need no more of a state than the pen** to draw and to leave a pen behind. -/
theorem faithful_onlyPen : Faithful Eq State.onlyPen where
  pen _ := rfl
  make s t h c params := by
    rw [h.canvas]
    exact make_alike (fun f hf => (each_assignments _ c params f hf).onlyPen) h.state

/-- What every assignment leaves alone, all of them do. -/
theorem view_make {α : Type} (view : State → α) {l : List Assignment}
    (h : Each (fun f => ∀ s, view (f s) = view s) l) (s : State) :
    view (make l s).2 = view s := by
  induction l generalizing s with
  | nil => rfl
  | cons a l ih =>
    cases a with
    | error e => rfl
    | ok f =>
      have hf : view (f s) = view s := h f List.mem_cons_self s
      exact (ih (fun g hg => h g (List.mem_cons_of_mem _ hg)) (f s)).trans hf

theorem drawing_of_silent {c : Command} (h : isSilent c = true) (fonts : FontSource) (p : Pen)
    (params : List Char) : drawing fonts p c params = pure () := by
  cases c with
  | fieldData => cases h
  | graphicBox => cases h
  | graphicField => cases h
  | _ => rfl

/-- **A silent command shows nowhere.** -/
theorem alike_step_of_silent {r : Record} (h : isShown r = false) (fonts : FontSource)
    (s : Session) : Alike Eq State.onlyPen (s.step fonts r).1 s := by
  cases hr : resolve r.name with
  | none =>
    simp only [Session.step, hr]
    exact ⟨rfl, rfl⟩
  | some found =>
    obtain ⟨c, extra⟩ := found
    have hsilent : isSilent c = true := by
      simpa [isShown, hr] using h
    rw [step_eq hr, drawing_of_silent hsilent]
    refine ⟨rfl, congrArg Pen.state (view_make State.pen (fun f hf => ?_) s.state)⟩
    exact (each_assignments _ c _ f hf).pen hsilent

/-! ### A whole run -/

theorem record_traceFrom (fonts : FontSource) (s : Session) (records : List Record) :
    (traceFrom fonts s records).map TraceStep.record = records := by
  induction records generalizing s with
  | nil => rfl
  | cons r records ih => exact congrArg (r :: ·) (ih _)

theorem remark_traceFrom (fonts : FontSource) (s : Session) (records : List Record) :
    (traceFrom fonts s records).filterMap TraceStep.remark =
      (interpretFrom fonts s records).diagnostics := by
  induction records generalizing s with
  | nil => rfl
  | cons r records ih =>
    simp only [traceFrom, interpretFrom, List.filterMap_cons]
    rw [ih]
    cases (s.step fonts r).2 <;> rfl

/-- A run without its silent commands beside the run with them. -/
theorem Alike.filter {s t : Session} (h : Alike Eq State.onlyPen s t) (fonts : FontSource)
    (records : List Record) :
    (interpretFrom fonts s (records.filter isShown)).diagnostics =
        ((traceFrom fonts t records).filter (isShown ·.record)).filterMap TraceStep.remark ∧
      Alike Eq State.onlyPen (interpretFrom fonts s (records.filter isShown)).session
        (interpretFrom fonts t records).session := by
  -- A command that is left is performed in both runs, a silent one in the whole run alone.
  induction records generalizing s t with
  | nil => exact ⟨rfl, h⟩
  | cons r records ih =>
    cases hr : isShown r with
    | true =>
      obtain ⟨hremark, hstep⟩ := h.step faithful_onlyPen fonts r
      obtain ⟨hdiagnostics, hrun⟩ := ih hstep
      rw [List.filter_cons_of_pos hr]
      refine ⟨?_, hrun⟩
      simp only [interpretFrom, traceFrom, List.filter_cons, hr, if_true, List.filterMap_cons]
      rw [hremark, hdiagnostics]
      cases (t.step fonts r).2 <;> rfl
    | false =>
      have hstep : Alike Eq State.onlyPen s (t.step fonts r).1 := by
        have hsilent := alike_step_of_silent hr fonts t
        exact ⟨h.canvas.trans hsilent.canvas.symm, h.state.trans hsilent.state.symm⟩
      obtain ⟨hdiagnostics, hrun⟩ := ih hstep
      simp only [traceFrom, List.filter_cons, hr, Bool.false_eq_true, if_false]
      exact ⟨hdiagnostics, hrun⟩

/-- What a run leaves behind to be seen and to go on from: the picture and the pen. -/
def Rendering.shown (r : Rendering) : Canvas × Pen := (r.session.canvas, r.session.state.pen)

/-- **Silent commands can be left out.** The picture and the pen at the end are the same, and the
remarks are those that the whole run makes on the commands that are left. -/
theorem interpret_filter_isShown (fonts : FontSource) (records : List Record)
    (width height : Int) :
    (interpret fonts (records.filter isShown) width height).map Rendering.shown =
        (interpret fonts records width height).map Rendering.shown ∧
      (trace fonts records width height).map (·.2.map TraceStep.record) =
        (interpret fonts records width height).map (fun _ => records) ∧
      (interpret fonts records width height).map Rendering.diagnostics =
        (trace fonts records width height).map (·.2.filterMap TraceStep.remark) ∧
      (interpret fonts (records.filter isShown) width height).map Rendering.diagnostics =
        (trace fonts records width height).map fun run =>
          (run.2.filter (isShown ·.record)).filterMap TraceStep.remark := by
  unfold interpret trace
  cases Canvas.new? width height with
  | error e => exact ⟨rfl, rfl, rfl, rfl⟩
  | ok canvas =>
    have hstart : Alike Eq State.onlyPen ⟨{}, canvas⟩ ⟨{}, canvas⟩ := ⟨rfl, rfl⟩
    obtain ⟨hremarks, hend⟩ := hstart.filter fonts records
    have hpen := congrArg State.pen hend.state
    refine ⟨congrArg Except.ok (Prod.ext hend.canvas hpen), ?_, ?_, congrArg Except.ok hremarks⟩
    · exact congrArg Except.ok (record_traceFrom fonts _ records)
    · exact congrArg Except.ok (remark_traceFrom fonts _ records).symm

end LabelPress.Interpreter
