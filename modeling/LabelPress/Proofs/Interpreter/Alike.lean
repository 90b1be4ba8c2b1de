import LabelPress.Proofs.Canvas.Related
import LabelPress.Proofs.Interpreter.Parts

/-! # Runs of the same commands that look alike

Two sessions are *alike* if their canvases are related and what is kept of their states is equal.
When commands respect the relation and need no more of the state than what is kept (`Faithful`),
the same commands get the same remarks in both and leave them alike (`Alike.step`, `Alike.run`).

* `State.withoutBlock`, `State.onlyPen`: two ways to forget part of a state.
* `Footprint`: what an assignment reads and writes of a state; none needs what is forgotten
  (`each_assignments`).
* `respects_drawing`: nor does what a command draws depend on what is on the canvas.
* `interpret_eq_ok_iff`: when a run has a result. -/

namespace LabelPress.Interpreter

open Markup Text Effect

/-! ### The assignments of a command -/

/-- All assignments that can be made are of some kind. -/
def Each (P : (State → State) → Prop) (l : List Assignment) : Prop := ∀ f, .ok f ∈ l → P f

section
variable {P : (State → State) → Prop}

theorem each_nil : Each P [] := by
  rintro f ⟨⟩

theorem Each.append {l l' : List Assignment} (h : Each P l) (h' : Each P l') :
    Each P (l ++ l') := by
  intro f hf
  rcases List.mem_append.1 hf with hf | hf
  · exact h f hf
  · exact h' f hf

theorem Each.cons {a : Assignment} {l : List Assignment} (h : Each P [a]) (h' : Each P l) :
    Each P (a :: l) := h.append h'

theorem each_ok {f : State → State} (h : P f) : Each P [.ok f] := by
  intro g hg
  obtain rfl := Except.ok.inj (List.mem_singleton.1 hg)
  exact h

theorem each_error (e : CommandError) : Each P [.error e] := by
  intro g hg
  exact absurd (List.mem_singleton.1 hg) (by rintro ⟨⟩)

theorem each_map {α : Type} {g : α → State → State} (h : ∀ a, P (g a))
    (r : Except CommandError α) : Each P [r.map g] := by
  cases r with
  | ok a => exact each_ok (h a)
  | error e => exact each_error e

theorem Each.unlessEmpty {params : List Char} {i : Nat} {a : Assignment} (h : Each P [a]) :
    Each P (unlessEmpty params i a) := by
  unfold Interpreter.unlessEmpty
  split_ifs
  · exact each_nil
  · exact h

theorem each_turnTo (h : ∀ o, P ({ · with orientation := o })) (c : Char) :
    Each P [turnTo c] := by
  unfold turnTo
  cases Orientation.ofLetter? [c] with
  | none => exact each_error _
  | some o => exact each_ok (h o)

end

/-- What is kept after a change depends only on what is kept before it. -/
def ReadsOnly (keep : State → State) (f : State → State) : Prop :=
  ∀ s, keep (f s) = keep (f (keep s))

theorem make_alike {keep : State → State} {l : List Assignment} (h : Each (ReadsOnly keep) l)
    {s t : State} (hst : keep s = keep t) :
    (make l s).1 = (make l t).1 ∧ keep (make l s).2 = keep (make l t).2 := by
  induction l generalizing s t with
  | nil => exact ⟨rfl, hst⟩
  | cons a l ih =>
    cases a with
    | error e => exact ⟨rfl, hst⟩
    | ok f =>
      have hf : ReadsOnly keep f := h f List.mem_cons_self
      have hl : Each (ReadsOnly keep) l := fun g hg => h g (List.mem_cons_of_mem _ hg)
      have hnext : keep (f s) = keep (f t) := by
        rw [hf s, hst, ← hf t]
      exact ih hl hnext

/-! ### What assignments read and write -/

/-- A state but for the width of text blocks. -/
def State.withoutBlock (s : State) : State := { s with blockWidth := none }

/-- A state with a given pen, all else as at the beginning. -/
def Pen.state (p : Pen) : State :=
  { x := p.x, y := p.y, font := p.font, fontHeight := p.fontHeight, fontWidth := p.fontWidth,
    orientation := p.orientation, fieldReverse := p.fieldReverse }

/-- Of a state, only the pen. -/
def State.onlyPen (s : State) : State := s.pen.state

/-- **A silent command** neither draws nor moves the pen. -/
def isSilent : Command → Bool
  | .startFormat | .endFormat | .fieldSeparator | .labelLength | .printWidth => true
  | .fieldBlock | .barcodeDefaults | .code128 | .qrCode | .labelHome => true
  | .fieldOrigin | .fieldData | .font | .changeFont | .graphicBox | .graphicField => false
  | .fieldReverse | .fieldOrientation => false

/-- **The footprint of an assignment**: it does not need the width of text blocks; the pen after it
needs only the pen before it, and is the same if the command is silent. -/
structure Footprint (c : Command) (f : State → State) : Prop where
  withoutBlock : ReadsOnly State.withoutBlock f
  onlyPen : ReadsOnly State.onlyPen f
  pen : isSilent c = true → ∀ s, (f s).pen = s.pen

theorem Footprint.of_shown {c : Command} {f : State → State} (hc : isSilent c = false)
    (hblock : ReadsOnly State.withoutBlock f) (hpen : ReadsOnly State.onlyPen f) :
    Footprint c f := by
  refine ⟨hblock, hpen, fun h => ?_⟩
  rw [hc] at h
  cases h

/-- All assignments stay within their footprint. -/
theorem each_assignments (width : Nat) (c : Command) (params : List Char) :
    Each (Footprint c) (assignments width c params) := by
  cases c with
  | startFormat => exact each_nil
  | endFormat => exact each_nil
  | fieldSeparator => exact each_nil
  | labelLength => exact each_nil
  | printWidth => exact each_nil
  | graphicBox => exact each_nil
  | graphicField => exact each_nil
  | fieldOrigin =>
    refine .cons (each_map (fun n => ?_) _) (.cons (each_map (fun n => ?_) _) (each_ok ?_))
    all_goals exact .of_shown rfl (fun _ => rfl) fun _ => rfl
  | fieldData => exact each_ok (.of_shown rfl (fun _ => rfl) fun _ => rfl)
  | fieldReverse => exact each_ok (.of_shown rfl (fun _ => rfl) fun _ => rfl)
  | fieldOrientation =>
    cases params with
    | nil => exact each_nil
    | cons letter _ => exact each_turnTo (fun o => .of_shown rfl (fun _ => rfl) fun _ => rfl) letter
  | font =>
    simp only [assignments]
    generalize FontChoice.ofParams params = choice
    obtain ⟨font?, orientation?, height?, width?⟩ := choice
    refine .append ?_ (.append ?_ ?_)
    · cases font? with
      | none => exact each_nil
      | some letter => exact each_ok (.of_shown rfl (fun _ => rfl) fun _ => rfl)
    · cases orientation? with
      | none => exact each_nil
      | some letter => exact each_turnTo (fun o => .of_shown rfl (fun _ => rfl) fun _ => rfl) letter
    · cases height? with
      | none => exact each_nil
      | some digits =>
        refine .cons (each_map (fun n => ?_) _) (each_map (fun n => ?_) _)
        all_goals exact .of_shown rfl (fun _ => rfl) fun _ => rfl
  | changeFont =>
    refine .append (.unlessEmpty (each_ok ?_)) (.append (.unlessEmpty (each_map (fun n => ?_) _))
      (.unlessEmpty (each_map (fun n => ?_) _)))
    all_goals exact .of_shown rfl (fun _ => rfl) fun _ => rfl
  | fieldBlock => exact each_map (fun n => ⟨fun _ => rfl, fun _ => rfl, fun _ _ => rfl⟩) _
  | barcodeDefaults =>
    refine .append (.unlessEmpty (each_map (fun n => ?_) _)) (.append (.unlessEmpty ?_)
      (.unlessEmpty (each_map (fun n => ?_) _)))
    · exact ⟨fun _ => rfl, fun _ => rfl, fun _ _ => rfl⟩
    · cases float? (part params 1) with
      | none => exact each_error _
      | some ratio => exact each_ok ⟨fun _ => rfl, fun _ => rfl, fun _ _ => rfl⟩
    · exact ⟨fun _ => rfl, fun _ => rfl, fun _ _ => rfl⟩
  | code128 => exact each_map (fun n => ⟨fun _ => rfl, fun _ => rfl, fun _ _ => rfl⟩) _
  | qrCode =>
    simp only [assignments]
    generalize leading params 1 2 = model?
    generalize leading params 2 3 = magnification?
    cases model? with
    | error e => exact each_error e
    | ok model =>
      cases magnification? with
      | error e => exact each_error e
      | ok magnification => exact each_ok ⟨fun _ => rfl, fun _ => rfl, fun _ _ => rfl⟩
  | labelHome =>
    refine .cons (each_map (fun n => ?_) _) (each_map (fun n => ?_) _)
    all_goals exact ⟨fun _ => rfl, fun _ => rfl, fun _ _ => rfl⟩

/-! ### Two sessions -/

theorem respects_sketch {R : Canvas → Canvas → Prop} {α : Type} {r : Except CommandError α}
    {d : α → Draw Unit} (h : ∀ a, r = .ok a → Respects R (d a)) : Respects R (sketch r d) := by
  intro c c' hc
  cases r with
  | error e => exact ⟨rfl, hc⟩
  | ok a =>
    obtain ⟨hanswer, hcanvas⟩ := h a rfl c c' hc
    exact ⟨congrArg (Except.mapError CommandError.draw) hanswer, hcanvas⟩

/-- A box is black or white. -/
theorem grayOf_color {params : List Char} {b : Box} (h : Box.ofParams params = .ok b) :
    Canvas.grayOf b.color = .ok Canvas.black ∨ Canvas.grayOf b.color = .ok Canvas.white := by
  have hcolor : b.color = Canvas.black.toNat ∨ b.color = Canvas.white.toNat := by
    obtain ⟨width, -, h⟩ := exists_of_bind_eq_ok h
    obtain ⟨height, -, h⟩ := exists_of_bind_eq_ok h
    obtain ⟨thickness, -, h⟩ := exists_of_bind_eq_ok h
    obtain ⟨rounding, -, h⟩ := exists_of_bind_eq_ok h
    obtain ⟨least, -, h⟩ := exists_of_bind_eq_ok h
    -- The radius is found in two ways, and the colour is the same after both.
    have hletter : b.color =
        (if letterIs params 3 'B' 'W' then Canvas.white else Canvas.black).toNat := by
      dsimp only at h
      by_cases hround : 0 < rounding
      · rw [if_pos hround] at h
        obtain ⟨halfWidth, -, h⟩ := exists_of_bind_eq_ok h
        obtain ⟨halfHeight, -, h⟩ := exists_of_bind_eq_ok h
        exact congrArg Box.color (Except.ok.inj h).symm
      · rw [if_neg hround] at h
        exact congrArg Box.color (Except.ok.inj h).symm
    rw [hletter]
    split_ifs
    · exact Or.inr rfl
    · exact Or.inl rfl
  rcases hcolor with hcolor | hcolor
  · left
    rw [hcolor]
    decide
  · right
    rw [hcolor]
    decide

/-- **Commands that draw no text** draw in black and white. -/
theorem respects_shape {R : Canvas → Canvas → Prop} (hblack : Canvas.Fills R Canvas.black)
    (hwhite : Canvas.Fills R Canvas.white)
    (hdots : ∀ (data : List UInt8) (rowBytes x y : Int), Canvas.Paints R fun i j _ =>
      packedDot data.toArray rowBytes.toNat (i - x).toNat (j - y).toNat)
    (fonts : FontSource) (p : Pen) {c : Command} (hc : c ≠ .fieldData) (params : List Char) :
    Respects R (drawing fonts p c params) := by
  cases c with
  | fieldData => exact absurd rfl hc
  | graphicBox =>
    refine respects_sketch fun box hbox => ?_
    have hgray : ∀ gray, Canvas.grayOf box.color = .ok gray → Canvas.Fills R gray := by
      intro gray hgray
      rcases grayOf_color hbox with hcolor | hcolor
      · obtain rfl := Except.ok.inj (hcolor.symm.trans hgray)
        exact hblack
      · obtain rfl := Except.ok.inj (hcolor.symm.trans hgray)
        exact hwhite
    unfold Box.draw
    rcases box.radius with - | radius
    · rcases box.thickness with - | thickness
      · exact Canvas.respects_fillRect hgray _ _ _ _
      · exact Canvas.respects_strokeRect hgray _ _ _ _ _
    · exact Canvas.respects_roundedRect hgray _ _ _ _ _ _
  | graphicField =>
    exact respects_sketch fun field _ => Canvas.respects_blit (hdots _ _ _ _) field.rows
  | _ => exact .pure _

/-- What a command draws does not depend on what was drawn before. -/
theorem respects_drawing {R : Canvas → Canvas → Prop} [Canvas.Stable R] (fonts : FontSource)
    (p : Pen) (c : Command) (params : List Char) : Respects R (drawing fonts p c params) := by
  by_cases hc : c = .fieldData
  · subst hc
    refine respects_sketch fun text _ => ?_
    exact (Canvas.respects_drawText fonts text p.x p.y p.style).bind fun _ => .pure _
  · exact respects_shape (Canvas.Stable.paints _) (Canvas.Stable.paints _)
      (fun _ _ _ _ => Canvas.Stable.paints _) fonts p hc params

/-- Two sessions with related canvases, and states in which the same is kept. -/
structure Alike (R : Canvas → Canvas → Prop) (keep : State → State) (s t : Session) : Prop where
  canvas : R s.canvas t.canvas
  state : keep s.state = keep t.state

/-- **Enough is kept** for the drawings and the assignments of commands. -/
structure Faithful (R : Canvas → Canvas → Prop) (keep : State → State) : Prop where
  pen : ∀ s : State, (keep s).pen = s.pen
  make : ∀ s t : Session, Alike R keep s t → ∀ (c : Command) (params : List Char),
    (make (assignments s.canvas.width c params) s.state).1 =
        (make (assignments t.canvas.width c params) t.state).1 ∧
      keep (make (assignments s.canvas.width c params) s.state).2 =
        keep (make (assignments t.canvas.width c params) t.state).2

section
variable {R : Canvas → Canvas → Prop} [Canvas.Stable R] {keep : State → State} {s t : Session}

/-- **The same command in two sessions that are alike.** -/
theorem Alike.step (hkeep : Faithful R keep) (h : Alike R keep s t) (fonts : FontSource)
    (r : Record) :
    (s.step fonts r).2 = (t.step fonts r).2 ∧
      Alike R keep (s.step fonts r).1 (t.step fonts r).1 := by
  cases hr : resolve r.name with
  | none =>
    simp only [Session.step, hr, true_and]
    exact h
  | some found =>
    obtain ⟨c, extra⟩ := found
    -- Both commands draw with one pen, so only the canvases they draw on differ.
    have hpen : s.state.pen = t.state.pen := by
      rw [← hkeep.pen, h.state, hkeep.pen]
    obtain ⟨hdrawn, hcanvas⟩ :=
      respects_drawing fonts s.state.pen c (extra ++ r.params) _ _ h.canvas
    obtain ⟨hmade, hstate⟩ := hkeep.make s t h c (extra ++ r.params)
    rw [step_eq hr, step_eq hr, ← hpen]
    refine ⟨?_, hcanvas, hstate⟩
    dsimp only
    rw [hdrawn, hmade]

/-- **The same commands in two sessions that are alike.** -/
theorem Alike.run (hkeep : Faithful R keep) (h : Alike R keep s t) (fonts : FontSource)
    (records : List Record) :
    (interpretFrom fonts s records).diagnostics = (interpretFrom fonts t records).diagnostics ∧
      Alike R keep (interpretFrom fonts s records).session
        (interpretFrom fonts t records).session := by
  induction records generalizing s t with
  | nil => exact ⟨rfl, h⟩
  | cons r records ih =>
    obtain ⟨hremark, hstep⟩ := h.step hkeep fonts r
    obtain ⟨hdiagnostics, hrun⟩ := ih hstep
    refine ⟨?_, hrun⟩
    simp only [interpretFrom]
    rw [hremark, hdiagnostics]

end

/-- Canvases of one size are as good as each other, whatever was drawn on them. -/
theorem faithful_bothSized (width height : Nat) :
    Faithful (Canvas.BothSized width height) id where
  pen _ := rfl
  make s t h c params := by
    have hwidth : s.canvas.width = t.canvas.width := h.canvas.left.1.trans h.canvas.right.1.symm
    have hstate : s.state = t.state := h.state
    rw [hwidth, hstate]
    exact ⟨rfl, rfl⟩

/-- A run does not change the size of the canvas. -/
theorem size_interpretFrom (fonts : FontSource) (s : Session) (records : List Record) :
    (interpretFrom fonts s records).session.canvas.width = s.canvas.width ∧
      (interpretFrom fonts s records).session.canvas.height = s.canvas.height := by
  have h : Alike (Canvas.BothSized s.canvas.width s.canvas.height) id s s :=
    ⟨⟨⟨rfl, rfl⟩, ⟨rfl, rfl⟩⟩, rfl⟩
  exact (h.run (faithful_bothSized _ _) fonts records).2.canvas.left

/-! ### Runs on new canvases -/

theorem interpret_eq_ok_iff {fonts : FontSource} {records : List Record} {width height : Int}
    {r : Rendering} :
    interpret fonts records width height = .ok r ↔
      (0 < width ∧ width ≤ 384) ∧ (0 < height ∧ height < 0x80000000) ∧
        r = interpretFrom fonts ⟨{}, Canvas.blank width.toNat height.toNat⟩ records := by
  unfold interpret
  constructor
  · intro h
    cases hc : Canvas.new? width height with
    | error e =>
      rw [hc] at h
      cases h
    | ok canvas =>
      rw [hc] at h
      obtain ⟨hwidth, hheight, rfl⟩ := Canvas.new?_eq_ok_iff.1 hc
      exact ⟨hwidth, hheight, (Except.ok.inj h).symm⟩
  · rintro ⟨hwidth, hheight, rfl⟩
    rw [Canvas.new?_eq_ok_iff.2 ⟨hwidth, hheight, rfl⟩]
    rfl

end LabelPress.Interpreter
