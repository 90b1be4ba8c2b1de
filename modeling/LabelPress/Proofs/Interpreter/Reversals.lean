import LabelPress.Proofs.Interpreter.Escaping
import LabelPress.Proofs.Interpreter.Failure
import LabelPress.Proofs.Interpreter.Silence

/-!
# Pending reversals

A reversal is asked for before a text and holds for that text alone. Only three commands touch it:
one asks for it, a text ends it whether or not it can be drawn, and a move of the cursor ends it
once both coordinates are read. All other commands leave it as it is, also where they fail on the
way. So the last of the three that came before a text, moves that failed apart, decides how it is
drawn.

* `TraceStep.mark?`: whether a step of a run touches the reversal, and by which command.
* `fieldReverse_step`, `fieldReverse_run`: the reversal after one step, and after a run.
* `trace_fieldData_reversed`: how a text is drawn in a run.
-/

namespace LabelPress.Interpreter

open Markup Text

/-- Does a command touch a pending reversal? -/
def touchesReversal : Command → Bool
  | .fieldReverse | .fieldData | .fieldOrigin => true
  | _ => false

/-- **The command by which a step touched the reversal**; a move of the cursor that failed did
not. -/
def TraceStep.mark? (t : TraceStep) : Option Command :=
  match resolve t.record.name with
  | some (.fieldReverse, _) => some .fieldReverse
  | some (.fieldData, _) => some .fieldData
  | some (.fieldOrigin, _) => if t.remark = none then some .fieldOrigin else none
  | _ => none

/-- The commands by which the steps of a run touched the reversal, in order. -/
def marks (steps : List TraceStep) : List Command := steps.filterMap TraceStep.mark?

/-- The reversal after these commands, if it was `pending` before them. -/
def reversalAfter (pending : Bool) (marks : List Command) : Bool :=
  (marks.getLast?.map fun c => decide (c = .fieldReverse)).getD pending

theorem reversalAfter_append (pending : Bool) (l l' : List Command) :
    reversalAfter pending (l ++ l') = reversalAfter (reversalAfter pending l) l' := by
  unfold reversalAfter
  rw [List.getLast?_append]
  cases l'.getLast? with
  | none => simp
  | some c => simp

theorem marks_cons (t : TraceStep) (steps : List TraceStep) :
    marks (t :: steps) = t.mark?.toList ++ marks steps := by
  unfold marks
  rw [List.filterMap_cons]
  cases t.mark? <;> rfl

/-! ### One step -/

theorem mark?_of_not_touches {t : TraceStep} {c : Command} {extra : List Char}
    (hr : resolve t.record.name = some (c, extra)) (hc : touchesReversal c = false) :
    t.mark? = none := by
  unfold TraceStep.mark?
  rw [hr]
  cases c <;> first | rfl | cases hc

/-- All assignments of the other commands leave the reversal as it is. -/
theorem each_keeps_reversal {c : Command} (hc : touchesReversal c = false) (width : Nat)
    (params : List Char) :
    Each (fun f => ∀ s, (f s).fieldReverse = s.fieldReverse) (assignments width c params) := by
  by_cases hsilent : isSilent c = true
  · intro f hf s
    have hpen := (each_assignments width c params f hf).pen hsilent s
    exact congrArg Pen.fieldReverse hpen
  cases c with
  | font =>
    simp only [assignments]
    generalize FontChoice.ofParams params = choice
    obtain ⟨font?, orientation?, height?, width?⟩ := choice
    refine .append ?_ (.append ?_ ?_)
    · cases font? with
      | none => exact each_nil
      | some letter => exact each_ok fun _ => rfl
    · cases orientation? with
      | none => exact each_nil
      | some letter => exact each_turnTo (fun _ _ => rfl) letter
    · cases height? with
      | none => exact each_nil
      | some digits => exact .cons (each_map (fun _ _ => rfl) _) (each_map (fun _ _ => rfl) _)
  | changeFont =>
    exact .append (.unlessEmpty (each_ok fun _ => rfl))
      (.append (.unlessEmpty (each_map (fun _ _ => rfl) _))
        (.unlessEmpty (each_map (fun _ _ => rfl) _)))
  | fieldOrientation =>
    cases params with
    | nil => exact each_nil
    | cons letter _ => exact each_turnTo (fun _ _ => rfl) letter
  | graphicBox => exact each_nil
  | graphicField => exact each_nil
  | fieldReverse => cases hc
  | fieldData => cases hc
  | fieldOrigin => cases hc
  | _ => exact absurd rfl hsilent

/-- A move of the cursor ends the reversal exactly if it succeeds. -/
theorem fieldReverse_make_fieldOrigin (width : Nat) (params : List Char) (s : State) :
    (make (assignments width .fieldOrigin params) s).2.fieldReverse =
      match (make (assignments width .fieldOrigin params) s).1 with
      | .ok _ => false
      | .error _ => s.fieldReverse := by
  simp only [assignments]
  generalize leading params 0 0 = x?
  generalize leading params 1 0 = y?
  cases x? <;> cases y? <;> rfl

/-- **The reversal after one step.** -/
theorem fieldReverse_step (fonts : FontSource) (s : Session) (r : Record) :
    (s.step fonts r).1.state.fieldReverse = reversalAfter s.state.fieldReverse
      (TraceStep.mk r (s.step fonts r).2 (s.step fonts r).1).mark?.toList := by
  cases hr : resolve r.name with
  | none =>
    have hmark : (TraceStep.mk r (s.step fonts r).2 (s.step fonts r).1).mark? = none := by
      simp only [TraceStep.mark?, hr]
    rw [hmark]
    simp only [Session.step, hr]
    rfl
  | some found =>
    obtain ⟨c, extra⟩ := found
    have hstate : (s.step fonts r).1.state =
        (make (assignments s.canvas.width c (extra ++ r.params)) s.state).2 := by
      rw [step_eq hr]
    by_cases hc : touchesReversal c = true
    · cases c with
      | fieldReverse =>
        simp only [hstate, TraceStep.mark?, hr]
        rfl
      | fieldData =>
        simp only [hstate, TraceStep.mark?, hr]
        rfl
      | fieldOrigin =>
        -- Nothing is drawn, so the step fails exactly if an assignment does.
        have hremark : (s.step fonts r).2 = remark r.name
            (make (assignments s.canvas.width .fieldOrigin (extra ++ r.params)) s.state).1 := by
          rw [step_eq hr]
          rfl
        simp only [hstate, fieldReverse_make_fieldOrigin, TraceStep.mark?, hr, hremark]
        cases (make (assignments s.canvas.width .fieldOrigin (extra ++ r.params)) s.state).1 with
        | ok u => rfl
        | error e => rfl
      | _ => cases hc
    · have hother : touchesReversal c = false := Bool.eq_false_iff.2 hc
      have hmark : (TraceStep.mk r (s.step fonts r).2 (s.step fonts r).1).mark? = none :=
        mark?_of_not_touches hr hother
      rw [hmark, hstate]
      exact view_make State.fieldReverse (each_keeps_reversal hother _ _) s.state

/-! ### A run -/

/-- **The reversal after a run.** -/
theorem fieldReverse_run (fonts : FontSource) (s : Session) (records : List Record) :
    (interpretFrom fonts s records).session.state.fieldReverse =
      reversalAfter s.state.fieldReverse (marks (traceFrom fonts s records)) := by
  induction records generalizing s with
  | nil => rfl
  | cons r records ih =>
    have htrace : traceFrom fonts s (r :: records) =
        ⟨r, (s.step fonts r).2, (s.step fonts r).1⟩ ::
          traceFrom fonts (s.step fonts r).1 records := rfl
    have hrun : (interpretFrom fonts s (r :: records)).session =
        (interpretFrom fonts (s.step fonts r).1 records).session := rfl
    rw [hrun, ih, htrace, marks_cons, reversalAfter_append, fieldReverse_step]

theorem length_traceFrom (fonts : FontSource) (s : Session) (records : List Record) :
    (traceFrom fonts s records).length = records.length := by
  have hrecords := congrArg List.length (record_traceFrom fonts s records)
  rwa [List.length_map] at hrecords

theorem traceFrom_append (fonts : FontSource) (s : Session) (before after : List Record) :
    traceFrom fonts s (before ++ after) = traceFrom fonts s before ++
      traceFrom fonts (interpretFrom fonts s before).session after := by
  induction before generalizing s with
  | nil => rfl
  | cons r before ih => exact congrArg (_ :: ·) (ih _)

/-- What the first records left, and the step of the next one. -/
theorem traceFrom_eq_take_append (fonts : FontSource) (s : Session) {records : List Record}
    {k : Nat} {r : Record} (hk : records[k]? = some r) :
    let t := (interpretFrom fonts s (records.take k)).session
    (traceFrom fonts s records).take k = traceFrom fonts s (records.take k) ∧
      (traceFrom fonts s records)[k]? = some ⟨r, (t.step fonts r).2, (t.step fonts r).1⟩ := by
  intro t
  obtain ⟨hlt, hget⟩ := List.getElem?_eq_some_iff.1 hk
  have hsplit : records = records.take k ++ r :: records.drop (k + 1) := by
    rw [← hget, List.getElem_cons_drop, List.take_append_drop]
  have hlength : (traceFrom fonts s (records.take k)).length = k := by
    rw [length_traceFrom, List.length_take]
    omega
  have htrace := traceFrom_append fonts s (records.take k) (r :: records.drop (k + 1))
  rw [← hsplit] at htrace
  rw [htrace]
  constructor
  · exact List.take_left' hlength
  · rw [List.getElem?_append_right (Nat.le_of_eq hlength), hlength, Nat.sub_self]
    rfl

/-- **A reversal holds for one text.** Whatever stands before it in a run, a text is drawn reversed
exactly if there is a command before it that touched the reversal and the last of these asked for
one; texts count whether or not they could be drawn, moves of the cursor only if they succeeded, and
no other record counts. The text is drawn so at the cursor, and after it no reversal is pending. -/
theorem trace_fieldData_reversed (fonts : FontSource) {records : List Record} {width height : Int}
    {start : Session} {steps : List TraceStep}
    (h : trace fonts records width height = .ok (start, steps)) {k : Nat} {r : Record}
    {extra : List Char} (hk : records[k]? = some r)
    (hr : resolve r.name = some (.fieldData, extra)) :
    ∃ s : Session,
      (interpret fonts (records.take k) width height).map Rendering.session = .ok s ∧
      (s.state.fieldReverse = true ↔ (marks (steps.take k)).getLast? = some .fieldReverse) ∧
      let drawn := (Canvas.drawText fonts (fieldText (extra ++ r.params)) s.state.x s.state.y
        { font := s.state.font, height := s.state.fontHeight, width := some s.state.fontWidth,
          rotation := s.state.orientation.degrees,
          reverse := s.state.fieldReverse }).run.run s.canvas
      steps[k]? = some ⟨r, remark r.name ((drawn.1.map fun _ => ()).mapError .draw),
        ⟨{ s.state with fieldReverse := false }, drawn.2⟩⟩ := by
  obtain ⟨canvas, hcanvas, hrun⟩ : ∃ canvas, Canvas.new? width height = .ok canvas ∧
      (start, steps) = (⟨{}, canvas⟩, traceFrom fonts ⟨{}, canvas⟩ records) := by
    unfold trace at h
    cases hnew : Canvas.new? width height with
    | error e => simp [hnew, Except.map] at h
    | ok canvas =>
      rw [hnew] at h
      exact ⟨canvas, rfl, (Except.ok.inj h).symm⟩
  obtain ⟨rfl, rfl⟩ := Prod.mk.inj hrun
  obtain ⟨htake, hstep⟩ := traceFrom_eq_take_append fonts ⟨{}, canvas⟩ hk
  refine ⟨(interpretFrom fonts ⟨{}, canvas⟩ (records.take k)).session, ?_, ?_, ?_⟩
  · rw [interpret, hcanvas]
    rfl
  · -- At the beginning no reversal is pending.
    have hpending : ({} : State).fieldReverse = false := rfl
    rw [htake, fieldReverse_run, hpending, reversalAfter]
    cases (marks (traceFrom fonts ⟨{}, canvas⟩ (records.take k))).getLast? with
    | none => simp
    | some c => simp
  · rw [hstep]
    generalize (interpretFrom fonts ⟨{}, canvas⟩ (records.take k)).session = s
    have hdrawn := run_drawing_fieldData fonts s.state.pen (extra ++ r.params) s.canvas
    rw [← fieldText_eq_unescape] at hdrawn
    rw [step_eq hr, hdrawn]
    simp only [assignments, make, bind_ok]
    rfl

/-- Between the request for a reversal and the text stand an unknown name, a command that fails, and
a move of the cursor that fails because its column has too many digits. -/
theorem trace_fieldData_reversed_after_failures :
    let records : List Record := [⟨"FR".toList, []⟩, ⟨"ZZ".toList, []⟩, ⟨"FW".toList, ['Q']⟩,
      ⟨"FO".toList, List.replicate 4301 '9'⟩, ⟨"FD".toList, ['A']⟩]
    ∃ (start : Session) (steps : List TraceStep) (s : Session),
      trace Font.blockSource records 4 4 = .ok (start, steps) ∧
      (records[4]? = some ⟨"FD".toList, ['A']⟩ ∧ resolve "FD".toList = some (.fieldData, [])) ∧
      (interpret Font.blockSource (records.take 4) 4 4).map Rendering.session = .ok s ∧
      marks (steps.take 4) = [.fieldReverse] ∧ s.state.fieldReverse = true ∧
      ∃ d, steps[4]? = some d ∧ d.session.state.fieldReverse = false := by
  intro records
  have hrun : trace Font.blockSource records 4 4 =
      .ok (⟨{}, Canvas.blank 4 4⟩,
        traceFrom Font.blockSource ⟨{}, Canvas.blank 4 4⟩ records) := rfl
  have hmarks : marks ((traceFrom Font.blockSource ⟨{}, Canvas.blank 4 4⟩ records).take 4) =
      [.fieldReverse] := by decide +kernel
  obtain ⟨s, hfirst, hreverse, hstep⟩ :=
    @trace_fieldData_reversed Font.blockSource records 4 4 _ _ hrun 4 _ [] rfl rfl
  refine ⟨_, _, s, hrun, ⟨rfl, rfl⟩, hfirst, hmarks, hreverse.2 ?_, _, hstep, rfl⟩
  rw [hmarks]
  rfl

end LabelPress.Interpreter
