import LabelPress.Interpreter.Run

/-! # What a command consists of

A command draws, from what it finds in the state, and then makes assignments to the state, one after
the other up to the first that cannot be made. Most commands do only one of both. The drawing does
not wait for the assignments, and the assignments are made whether or not the drawing succeeds.

* `Pen`: what of the state is ever drawn from.
* `assignments`, `drawing`: the two parts of a command.
* `make`: assignments made in order.
* `run_perform`: a command does what its parts do; `step_eq`: so does a command in a run. -/

namespace LabelPress.Interpreter

open Markup Text Effect

/-! ### Assignments -/

/-- A change of the state, unless its parameter is flawed. -/
abbrev Assignment := Except CommandError (State → State)

/-- **Make assignments in order**, up to the first that cannot be made. -/
def make : List Assignment → State → Except CommandError Unit × State
  | [], s => (.ok (), s)
  | .ok f :: rest, s => make rest (f s)
  | .error e :: _, s => (.error e, s)

/-- The integer that a parameter begins with, a default if there is none or it is zero. -/
def leading (params : List Char) (i : Nat) (default : Int) : Except CommandError Int :=
  ((leadingInt? (part params i)).mapError .tooManyDigits).map fun n? =>
    (n?.filter (· ≠ 0)).getD default

/-- The integer that a parameter is. -/
def whole (params : List Char) (i : Nat) (what : String) : Except CommandError Int :=
  match int? (part params i) with
  | none => .error (.invalidNumber what (part params i))
  | some n => .ok n

/-- An assignment that is left out if its parameter is empty. -/
def unlessEmpty (params : List Char) (i : Nat) (a : Assignment) : List Assignment :=
  if part params i = [] then [] else [a]

/-- Choose the orientation that a letter names. -/
def turnTo (c : Char) : Assignment :=
  match Orientation.ofLetter? [c] with
  | none => .error (.unknownOrientation [c])
  | some o => .ok ({ · with orientation := o })

/-- The number that digits spell. -/
def spelled (ds : List Char) : Except CommandError Nat := (digits? ds).mapError .tooManyDigits

/-- The height and the width of the font; the height alone sets both. -/
def sizing (choice : FontChoice) : List Assignment :=
  match choice.height with
  | none => []
  | some ds =>
    [(spelled ds).map fun n s => { s with fontHeight := n },
      (spelled (choice.width.getD ds)).map fun n s => { s with fontWidth := n }]

/-- **The assignments of a command**, on a canvas of some width. -/
def assignments (width : Nat) : Command → List Char → List Assignment
  | .startFormat, _ | .endFormat, _ | .fieldSeparator, _ | .labelLength, _ | .printWidth, _ => []
  | .graphicBox, _ | .graphicField, _ => []
  | .fieldOrigin, params =>
    [(leading params 0 0).map fun n s => { s with x := max 0 n },
      (leading params 1 0).map fun n s => { s with y := max 0 n },
      .ok ({ · with fieldReverse := false })]
  | .fieldData, _ => [.ok ({ · with fieldReverse := false })]
  | .font, params =>
    let choice := FontChoice.ofParams params
    (choice.font.toList.map fun c => .ok ({ · with font := upperChar c })) ++
      (choice.orientation.toList.map turnTo ++ sizing choice)
  | .changeFont, params =>
    unlessEmpty params 0 (.ok ({ · with font := upper (part params 0) })) ++
      (unlessEmpty params 1 ((whole params 1 "font height").map fun n s =>
        { s with fontHeight := n, fontWidth := n }) ++
      unlessEmpty params 2 ((whole params 2 "font width").map fun n s => { s with fontWidth := n }))
  | .fieldBlock, params => [(leading params 0 width).map fun n s => { s with blockWidth := some n }]
  | .barcodeDefaults, params =>
    unlessEmpty params 0 ((whole params 0 "module width").map fun n s =>
        { s with moduleWidth := n }) ++
      (unlessEmpty params 1 (match float? (part params 1) with
        | none => .error (.invalidNumber "wide to narrow ratio" (part params 1))
        | some r => .ok ({ · with barcodeRatio := r })) ++
      unlessEmpty params 2 ((whole params 2 "barcode height").map fun n s =>
        { s with barcodeHeight := n }))
  | .code128, params =>
    [((leadingInt? (part params 1)).mapError .tooManyDigits).map fun n? s =>
      { s with pending := some {
        kind := .code128
        orientation := barcodeOrientation params
        x := s.x
        y := s.y
        height := some ((n?.filter (· ≠ 0)).getD s.barcodeHeight)
        moduleWidth := some s.moduleWidth
        printText := letterIs params 2 'Y' 'Y'
        textAbove := letterIs params 3 'N' 'Y' } }]
  | .qrCode, params =>
    [do
      let model ← leading params 1 2
      let magnification ← leading params 2 3
      return fun s => { s with pending := some {
        kind := .qr
        orientation := barcodeOrientation params
        x := s.x
        y := s.y
        model := some model
        magnification := some magnification } }]
  | .fieldReverse, _ => [.ok ({ · with fieldReverse := true })]
  | .labelHome, params =>
    [(leading params 0 0).map fun n s => { s with homeX := n },
      (leading params 1 0).map fun n s => { s with homeY := n }]
  | .fieldOrientation, params => params.head?.toList.map turnTo

/-! ### Drawings -/

/-- **What of the state is drawn from.** -/
structure Pen where
  x : Int
  y : Int
  font : List Char
  fontHeight : Int
  fontWidth : Int
  orientation : Orientation
  fieldReverse : Bool
deriving DecidableEq

def State.pen (s : State) : Pen :=
  ⟨s.x, s.y, s.font, s.fontHeight, s.fontWidth, s.orientation, s.fieldReverse⟩

/-- A box as its parameters describe it; a border that does not fill it has a thickness, round
corners have a radius. -/
structure Box where
  width : Int
  height : Int
  color : Int
  thickness : Option Int
  radius : Option Rat

/-- Half of a side. -/
def half (n : Int) : Except CommandError Rat := (Canvas.halfSide n).mapError .draw

/-- The box that parameters describe. -/
def Box.ofParams (params : List Char) : Except CommandError Box := do
  let width ← leading params 0 1
  let height ← leading params 1 1
  let thickness ← leading params 2 1
  let rounding ← leading params 4 0
  let filled := decide ((← half (min width height)) ≤ thickness)
  let radius ←
    if 0 < rounding then
      pure (some (Canvas.lesser rounding (Canvas.lesser (← half width) (← half height))))
    else pure none
  return {
    width, height, radius
    color := (if letterIs params 3 'B' 'W' then Canvas.white else Canvas.black).toNat
    thickness := if filled then none else some thickness }

/-- Draw a box with its corner at a point. -/
def Box.draw (b : Box) (x y : Int) : Draw Unit :=
  match b.radius, b.thickness with
  | some r, t => Canvas.roundedRect x y b.width b.height r b.color t
  | none, none => Canvas.fillRect x y b.width b.height b.color
  | none, some t => Canvas.strokeRect x y b.width b.height t b.color

/-- A drawing that may not even begin. -/
abbrev Sketch := ExceptT CommandError (StateM Canvas) Unit

/-- Draw what was read, if it could be read. -/
def sketch {α : Type} (r : Except CommandError α) (d : α → Draw Unit) : Sketch :=
  ExceptT.mk fun c =>
    match r with
    | .error e => (.error e, c)
    | .ok a => ((((d a).run.run c).1).mapError .draw, ((d a).run.run c).2)

def Pen.style (p : Pen) : TextStyle :=
  { font := p.font, height := p.fontHeight, width := some p.fontWidth,
    rotation := p.orientation.degrees, reverse := p.fieldReverse }

/-- **What a command draws** with a pen. -/
def drawing (fonts : FontSource) (p : Pen) : Command → List Char → Sketch
  | .fieldData, params => sketch (.ok (fieldText params)) fun text => do
    let _ ← Canvas.drawText fonts text p.x p.y p.style
  | .graphicBox, params => sketch (Box.ofParams params) (·.draw p.x p.y)
  | .graphicField, params =>
    sketch ((GraphicField.ofParams params).mapError .graphicField) fun field =>
      Canvas.blit field.data field.rowBytes field.rows p.x p.y
  | _, _ => pure ()

/-! ### Commands that only assign -/

theorem make_append (l l' : List Assignment) (s : State) :
    make (l ++ l') s =
      match make l s with
      | (.ok (), t) => make l' t
      | (.error e, t) => (.error e, t) := by
  induction l generalizing s with
  | nil => rfl
  | cons a l ih =>
    cases a with
    | ok f => exact ih (f s)
    | error e => rfl

/-- An effect comes to assignments, which may depend on the width of the canvas. -/
def Makes (e : Effect Unit) (l : Nat → List Assignment) : Prop :=
  ∀ s : Session, e.run.run s =
    ((make (l s.canvas.width) s.state).1, ⟨(make (l s.canvas.width) s.state).2, s.canvas⟩)

theorem makes_pure : Makes (pure ()) fun _ => [] := fun _ => rfl

theorem makes_update (f : State → State) : Makes (update f) fun _ => [.ok f] := fun _ => rfl

theorem Makes.bind {e : Effect Unit} {f : Unit → Effect Unit} {l l' : Nat → List Assignment}
    (h : Makes e l) (h' : Makes (f ()) l') : Makes (e >>= f) fun width => l width ++ l' width := by
  intro s
  rw [make_append, ExceptT.run_bind, StateT.run_bind, h s]
  rcases make (l s.canvas.width) s.state with ⟨⟨e⟩ | ⟨⟨⟩⟩, t⟩
  · rfl
  · exact h' ⟨t, s.canvas⟩

theorem makes_orient (c : Char) : Makes (orient c) fun _ => [turnTo c] := by
  intro s
  simp only [orient, turnTo]
  cases Orientation.ofLetter? [c] <;> rfl

theorem makes_withInt (params : List Char) (i : Nat) (what : String) (f : Int → State → State) :
    Makes (withInt params i what f) fun _ =>
      unlessEmpty params i ((whole params i what).map f) := by
  intro s
  simp only [withInt, unlessEmpty, whole]
  by_cases h : part params i = []
  · simp only [h, ne_eq, not_true_eq_false, if_true, if_false]
    rfl
  · simp only [h, ne_eq, not_false_eq_true, if_true, if_false]
    cases int? (part params i) <;> rfl

theorem makes_fieldOrigin (params : List Char) :
    Makes (fieldOrigin params) (assignments · .fieldOrigin params) := by
  intro s
  simp only [assignments, leading, fieldOrigin, leadingOr]
  generalize leadingInt? (part params 0) = x?
  generalize leadingInt? (part params 1) = y?
  cases x? <;> cases y? <;> rfl

theorem makes_sizing (choice : FontChoice) :
    Makes (do
      if let some ds := choice.height then
        let height ← ofExcept .tooManyDigits (digits? ds)
        update ({ · with fontHeight := height })
        match choice.width with
        | none => update ({ · with fontWidth := height })
        | some ds =>
          let width ← ofExcept .tooManyDigits (digits? ds)
          update ({ · with fontWidth := width })) fun _ => sizing choice := by
  intro s
  obtain ⟨-, -, height?, width?⟩ := choice
  simp only [sizing, spelled]
  rcases height? with - | ds
  · rfl
  · rcases width? with - | ds'
    · simp only [Option.getD_none]
      cases digits? ds <;> rfl
    · simp only [Option.getD_some]
      cases digits? ds <;> cases digits? ds' <;> rfl

theorem makes_font (params : List Char) :
    Makes (font params) (assignments · .font params) := by
  have sizes := makes_sizing (FontChoice.ofParams params)
  unfold font
  simp only [assignments]
  generalize FontChoice.ofParams params = choice at sizes ⊢
  obtain ⟨font?, orientation?, height?, width?⟩ := choice
  rcases font? with - | c
  · rcases orientation? with - | o
    · exact sizes
    · exact (makes_orient o).bind sizes
  · rcases orientation? with - | o
    · exact (makes_update _).bind sizes
    · exact (makes_update _).bind ((makes_orient o).bind sizes)

theorem makes_changeFont (params : List Char) :
    Makes (changeFont params) (assignments · .changeFont params) := by
  have sizes := (makes_withInt params 1 "font height" fun n s =>
    { s with fontHeight := n, fontWidth := n }).bind
      (f := fun _ => withInt params 2 "font width" fun n s => { s with fontWidth := n })
      (makes_withInt params 2 "font width" fun n s => { s with fontWidth := n })
  unfold changeFont
  simp only [assignments, unlessEmpty]
  by_cases h : part params 0 = []
  · rw [if_neg (not_not_intro h), if_pos h]
    exact sizes
  · rw [if_pos h, if_neg h]
    exact (makes_update _).bind sizes

theorem makes_barcodeDefaults (params : List Char) :
    Makes (barcodeDefaults params) (assignments · .barcodeDefaults params) := by
  have height := makes_withInt params 2 "barcode height" fun n s => { s with barcodeHeight := n }
  unfold barcodeDefaults
  refine (makes_withInt params 0 "module width" fun n s => { s with moduleWidth := n }).bind ?_
  simp only [unlessEmpty]
  by_cases h : part params 1 = []
  · rw [if_neg (not_not_intro h), if_pos h]
    exact height
  · rw [if_pos h, if_neg h]
    cases float? (part params 1) with
    | none => exact fun _ => rfl
    | some r => exact (makes_update _).bind height

theorem makes_fieldBlock (params : List Char) :
    Makes (fieldBlock params) (assignments · .fieldBlock params) := by
  intro s
  simp only [assignments, leading, fieldBlock, leadingOr]
  generalize leadingInt? (part params 0) = width?
  cases width? <;> rfl

theorem makes_code128 (params : List Char) :
    Makes (code128 params) (assignments · .code128 params) := by
  intro s
  simp only [assignments, code128, leadingOr]
  generalize leadingInt? (part params 1) = height?
  cases height? <;> rfl

theorem makes_qrCode (params : List Char) :
    Makes (qrCode params) (assignments · .qrCode params) := by
  intro s
  simp only [assignments, leading, qrCode, leadingOr]
  generalize leadingInt? (part params 1) = model?
  generalize leadingInt? (part params 2) = magnification?
  cases model? <;> cases magnification? <;> rfl

theorem makes_labelHome (params : List Char) :
    Makes (labelHome params) (assignments · .labelHome params) := by
  intro s
  simp only [assignments, leading, labelHome, leadingOr]
  generalize leadingInt? (part params 0) = x?
  generalize leadingInt? (part params 1) = y?
  cases x? <;> cases y? <;> rfl

theorem makes_fieldOrientation (params : List Char) :
    Makes (fieldOrientation params) (assignments · .fieldOrientation params) := by
  cases params with
  | nil => exact makes_pure
  | cons c params => exact makes_orient c

/-! ### Commands that draw -/

theorem run_leadingOr_bind {α : Type} (params : List Char) (i : Nat) (default : Int)
    (k : Int → Effect α) (s : Session) :
    (leadingOr params i default >>= k).run.run s =
      match leading params i default with
      | .error e => (.error e, s)
      | .ok n => (k n).run.run s := by
  simp only [leadingOr, leading]
  generalize leadingInt? (part params i) = n?
  cases n? <;> rfl

theorem run_half_bind {α : Type} (n : Int) (k : Rat → Effect α) (s : Session) :
    (Effect.ofExcept .draw (Canvas.halfSide n) >>= k).run.run s =
      match half n with
      | .error e => (.error e, s)
      | .ok q => (k q).run.run s := by
  unfold half
  generalize Canvas.halfSide n = q?
  cases q? <;> rfl

theorem run_state_bind {α : Type} (k : State → Effect α) (s : Session) :
    (state >>= k).run.run s = (k s.state).run.run s := by
  cases s
  rfl

theorem run_tryCatch (m : Effect Unit) (h : CommandError → Effect Unit) (s : Session) :
    (tryCatch m h).run.run s =
      match m.run.run s with
      | (.ok a, t) => (.ok a, t)
      | (.error e, t) => (h e).run.run t := by
  unfold ExceptT.run StateT.run
  simp only [tryCatch, tryCatchThe, MonadExceptOf.tryCatch, ExceptT.tryCatch, ExceptT.mk, bind,
    StateT.bind]
  rcases m s with ⟨⟨e⟩ | ⟨a⟩, t⟩
  · rfl
  · rfl

theorem ok_bind {ε α β : Type} (a : α) (k : α → Except ε β) : (Except.ok a >>= k) = k a := rfl

theorem run_graphicBox (fonts : FontSource) (params : List Char) (s : Session) :
    (graphicBox params).run.run s =
      (((drawing fonts s.state.pen .graphicBox params).run.run s.canvas).1,
        ⟨s.state, ((drawing fonts s.state.pen .graphicBox params).run.run s.canvas).2⟩) := by
  -- The box is read to the end before anything is drawn.
  have hread : (graphicBox params).run.run s =
      match Box.ofParams params with
      | .error e => (.error e, s)
      | .ok b => (draw (b.draw s.state.x s.state.y)).run.run s := by
    simp only [graphicBox, Box.ofParams, run_leadingOr_bind, run_half_bind, run_state_bind]
    rcases leading params 0 1 with e | width
    · rfl
    rcases leading params 1 1 with e | height
    · rfl
    rcases leading params 2 1 with e | thickness
    · rfl
    rcases leading params 4 0 with e | rounding
    · rfl
    simp only [ok_bind]
    rcases half (min width height) with e | least
    · rfl
    simp only [ok_bind]
    by_cases hround : 0 < rounding
    · simp only [if_pos hround, run_half_bind]
      rcases half width with e | halfWidth
      · rfl
      rcases half height with e | halfHeight
      · rfl
      rfl
    · simp only [if_neg hround]
      by_cases hfull : decide (least ≤ thickness) = true
      · simp only [if_pos hfull]
        rfl
      · simp only [if_neg hfull]
        rfl
  rw [hread]
  simp only [drawing, sketch]
  generalize Box.ofParams params = box?
  cases box? <;> rfl

/-- A drawing after which the state changes, whether or not it succeeds. -/
theorem run_drawThen {α : Type} (d : Draw α) (f : State → State) (s : Session) :
    (do
      try
        let _ ← draw d
        update f
      catch e =>
        update f
        throw e : Effect Unit).run.run s =
      ((((d >>= fun _ => pure ()).run.run s.canvas).1.mapError CommandError.draw),
        ⟨f s.state, ((d >>= fun _ => pure ()).run.run s.canvas).2⟩) := by
  have hdraw : (draw d).run.run s =
    ((d.run.run s.canvas).1.mapError .draw, ⟨s.state, (d.run.run s.canvas).2⟩) := rfl
  rw [run_tryCatch, ExceptT.run_bind, StateT.run_bind, hdraw, ExceptT.run_bind, StateT.run_bind]
  rcases d.run.run s.canvas with ⟨⟨e⟩ | ⟨a⟩, c⟩
  · rfl
  · rfl

theorem run_graphicField (fonts : FontSource) (params : List Char) (s : Session) :
    (graphicField params).run.run s =
      (((drawing fonts s.state.pen .graphicField params).run.run s.canvas).1,
        ⟨s.state, ((drawing fonts s.state.pen .graphicField params).run.run s.canvas).2⟩) := by
  simp only [graphicField, drawing, sketch]
  generalize GraphicField.ofParams params = field?
  cases field? <;> rfl

theorem run_fieldData (fonts : FontSource) (params : List Char) (s : Session) :
    (fieldData fonts params).run.run s =
      (((drawing fonts s.state.pen .fieldData params).run.run s.canvas).1,
        ⟨{ s.state with fieldReverse := false },
          ((drawing fonts s.state.pen .fieldData params).run.run s.canvas).2⟩) := by
  unfold fieldData
  rw [run_state_bind]
  exact run_drawThen _ _ s

theorem bind_ok {ε : Type} (r : Except ε Unit) : (r.bind fun _ => .ok ()) = r := by
  cases r <;> rfl

/-- **A command does what its parts do**, and fails if one of them does. -/
theorem run_perform (fonts : FontSource) (c : Command) (params : List Char) (s : Session) :
    (perform fonts c params).run.run s =
      let drawn := (drawing fonts s.state.pen c params).run.run s.canvas
      let made := make (assignments s.canvas.width c params) s.state
      (drawn.1.bind fun _ => made.1, ⟨made.2, drawn.2⟩) := by
  -- Most commands only assign: nothing is drawn that could fail first.
  have hassign {e : Effect Unit} (h : Makes e (assignments · c params))
      (hdraw : drawing fonts s.state.pen c params = pure ()) (he : perform fonts c params = e) :
      (perform fonts c params).run.run s =
        let drawn := (drawing fonts s.state.pen c params).run.run s.canvas
        let made := make (assignments s.canvas.width c params) s.state
        (drawn.1.bind fun _ => made.1, ⟨made.2, drawn.2⟩) := by
    rw [he, h s, hdraw]
    rfl
  cases c with
  | startFormat => rfl
  | endFormat => rfl
  | fieldSeparator => rfl
  | labelLength => rfl
  | printWidth => rfl
  | fieldOrigin => exact hassign (makes_fieldOrigin params) rfl rfl
  | font => exact hassign (makes_font params) rfl rfl
  | changeFont => exact hassign (makes_changeFont params) rfl rfl
  | fieldBlock => exact hassign (makes_fieldBlock params) rfl rfl
  | barcodeDefaults => exact hassign (makes_barcodeDefaults params) rfl rfl
  | code128 => exact hassign (makes_code128 params) rfl rfl
  | qrCode => exact hassign (makes_qrCode params) rfl rfl
  | fieldReverse => exact hassign (makes_update _) rfl rfl
  | labelHome => exact hassign (makes_labelHome params) rfl rfl
  | fieldOrientation => exact hassign (makes_fieldOrientation params) rfl rfl
  | fieldData =>
    refine (run_fieldData fonts params s).trans ?_
    exact Prod.ext (bind_ok _).symm rfl
  | graphicBox =>
    refine (run_graphicBox fonts params s).trans ?_
    exact Prod.ext (bind_ok _).symm rfl
  | graphicField =>
    refine (run_graphicField fonts params s).trans ?_
    exact Prod.ext (bind_ok _).symm rfl

/-! ### One command of a run -/

/-- The remark on a command that ended like this. -/
def remark (name : List Char) : Except CommandError Unit → Option Diagnostic
  | .ok _ => none
  | .error e => some ⟨name, some e⟩

theorem step_eq {fonts : FontSource} {r : Record} {c : Command} {extra : List Char}
    (h : resolve r.name = some (c, extra)) (s : Session) :
    s.step fonts r =
      let drawn := (drawing fonts s.state.pen c (extra ++ r.params)).run.run s.canvas
      let made := make (assignments s.canvas.width c (extra ++ r.params)) s.state
      (⟨made.2, drawn.2⟩, remark r.name (drawn.1.bind fun _ => made.1)) := by
  simp only [Session.step, h, run_perform]
  generalize (((drawing fonts s.state.pen c (extra ++ r.params)).run.run s.canvas).1.bind fun _ =>
    (make (assignments s.canvas.width c (extra ++ r.params)) s.state).1) = ended
  cases ended <;> rfl

end LabelPress.Interpreter
