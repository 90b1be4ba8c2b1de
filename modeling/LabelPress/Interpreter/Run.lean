import LabelPress.Interpreter.Perform
import LabelPress.Markup.Record

/-!
# Running a label file

The commands of a label file are performed in order on a new white canvas. A command that is
unknown or fails is remarked upon and the next one follows.

* `Session.step`: one command.
* `interpret`: all commands, with the remarks in order.
* `trace`: the same run, with what each command left behind.
* `interpretFrom_append`: a run of two parts is the second part run after the first.
-/

namespace LabelPress.Interpreter

open Markup

/-- **One command**: the session after it, and a remark if it is unknown or fails. -/
def Session.step (fonts : FontSource) (s : Session) (r : Record) : Session × Option Diagnostic :=
  match resolve r.name with
  | none => (s, some ⟨r.name, none⟩)
  | some (command, extra) =>
    match (perform fonts command (extra ++ r.params)).run.run s with
    | (.ok (), s) => (s, none)
    | (.error e, s) => (s, some ⟨r.name, some e⟩)

/-- A finished run. -/
structure Rendering where
  /-- The state and the canvas at the end. -/
  session : Session
  /-- The remarks, in order. -/
  diagnostics : List Diagnostic

/-- Run commands from a session on. -/
def interpretFrom (fonts : FontSource) : Session → List Record → Rendering
  | s, [] => ⟨s, []⟩
  | s, r :: rs =>
    let (s, remark) := s.step fonts r
    let rest := interpretFrom fonts s rs
    ⟨rest.session, remark.toList ++ rest.diagnostics⟩

/-- **Run commands on a new canvas.** -/
def interpret (fonts : FontSource) (records : List Record) (width height : Int) :
    Except DrawError Rendering :=
  (Canvas.new? width height).map fun canvas => interpretFrom fonts ⟨{}, canvas⟩ records

/-- What one command of a run left behind. -/
structure TraceStep where
  /-- The command. -/
  record : Record
  /-- The remark on it, if any. -/
  remark : Option Diagnostic
  /-- The session after it. -/
  session : Session

/-- Run commands from a session on and keep each step. -/
def traceFrom (fonts : FontSource) : Session → List Record → List TraceStep
  | _, [] => []
  | s, r :: rs =>
    let (s, remark) := s.step fonts r
    ⟨r, remark, s⟩ :: traceFrom fonts s rs

/-- **Run commands on a new canvas and keep each step**; the new canvas comes first. -/
def trace (fonts : FontSource) (records : List Record) (width height : Int) :
    Except DrawError (Session × List TraceStep) :=
  (Canvas.new? width height).map fun canvas =>
    let s : Session := ⟨{}, canvas⟩
    (s, traceFrom fonts s records)

theorem interpretFrom_append (fonts : FontSource) (s : Session) (as bs : List Record) :
    interpretFrom fonts s (as ++ bs) =
      let first := interpretFrom fonts s as
      let second := interpretFrom fonts first.session bs
      ⟨second.session, first.diagnostics ++ second.diagnostics⟩ := by
  induction as generalizing s with
  | nil => simp [interpretFrom]
  | cons r rs ih => simp [interpretFrom, ih]

end LabelPress.Interpreter
