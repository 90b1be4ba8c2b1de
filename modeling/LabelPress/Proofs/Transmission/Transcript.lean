import LabelPress.Proofs.Transmission.Plan
import Mathlib.Tactic.SplitIfs

/-!
# Transcripts

A port that keeps a transcript shows what a job did there, whatever the port answered. A plan that
is carried out leaves the transcript of the steps that succeeded and, if one failed, of that one;
nothing follows a failure.

* `Port.recorded`: a port with a transcript, which behaves as it did without (`run_recorded`).
* `exclusively_runOn`: a job of its own at a port that is connected and idle.
* `Stops`: the ways in which a step fails.
* `Performed`: what carrying out steps leaves; `perform_runOn` says that it always does.
-/

namespace LabelPress.Transmission

open Wire (Bytes)

/-- What happens at a port: a block is written or a pause is made, each with its answer, or progress
is reported. -/
inductive Happening where
  | wrote (block : Bytes) (answer : Option Failure)
  | paused (seconds : Float) (answer : Option Failure)
  | reported (r : Report)

/-- What can be seen of a job at its port: blocks that were taken, and pauses that were begun. -/
inductive Signal where
  | block (block : Bytes)
  | pause (seconds : Float)
deriving DecidableEq

namespace Happening

def failure? : Happening → Option Failure
  | wrote _ answer => answer
  | paused _ answer => answer
  | reported _ => none

def block? : Happening → Option Bytes
  | wrote block none => some block
  | _ => none

def signal? : Happening → Option Signal
  | wrote block none => some (.block block)
  | paused seconds _ => some (.pause seconds)
  | _ => none

end Happening

/-- The blocks that a port took. -/
def taken (log : List Happening) : List Bytes := log.filterMap Happening.block?

/-- The signals that a port saw. -/
def signals (log : List Happening) : List Signal := log.filterMap Happening.signal?

@[simp] theorem taken_append (a b : List Happening) : taken (a ++ b) = taken a ++ taken b :=
  List.filterMap_append ..

@[simp] theorem signals_append (a b : List Happening) :
    signals (a ++ b) = signals a ++ signals b :=
  List.filterMap_append ..

/-! ### Ports with a transcript -/

/-- **A port with a transcript** of what happened, in order. -/
def Port.recorded {σ : Type} (p : Port σ) : Port (σ × List Happening) where
  isConnected s := p.isConnected s.1
  isBusy s := p.isBusy s.1
  setBusy b s := (p.setBusy b s.1, s.2)
  write block s := ((p.write block s.1).1, (p.write block s.1).2,
    s.2 ++ [.wrote block (p.write block s.1).1])
  pause seconds s := ((p.pause seconds s.1).1, (p.pause seconds s.1).2,
    s.2 ++ [.paused seconds (p.pause seconds s.1).1])
  report r s := (p.report r s.1, s.2 ++ [.reported r])

/-- **A transcript changes nothing** for the program or the port. -/
theorem run_recorded {σ α : Type} (p : Port σ) (x : Program α) (s : σ) (log : List Happening) :
    (x.run p.recorded (s, log)).1 = (x.run p s).1 ∧
      (x.run p.recorded (s, log)).2.1 = (x.run p s).2 := by
  induction x generalizing s log with
  | done a => exact ⟨rfl, rfl⟩
  | askConnected k ih => exact ih _ _ _
  | askBusy k ih => exact ih _ _ _
  | setBusy b k ih => exact ih _ _
  | write block k ih => exact ih _ _ _
  | pause seconds k ih => exact ih _ _ _
  | report r k ih => exact ih _ _

/-! ### Jobs one after the other -/

theorem runOn_bind {σ α β : Type} (p : Port σ) (x : Job α) (f : α → Job β) (s : σ) :
    (do let a ← x; f a : Job β).runOn p s =
      match x.runOn p s with
      | (.ok a, t) => (f a).runOn p t
      | (.error e, t) => (.error e, t) := by
  have h : (do let a ← x; f a : Job β).run = Program.bind x.run fun
      | .ok a => (f a).run
      | .error e => .done (.error e) := by
    change x.run.bind _ = x.run.bind _
    congr 1
    funext r
    cases r <;> rfl
  simp only [Job.runOn, h, Program.run_bind]
  rcases x.run.run p s with ⟨r, t⟩
  cases r <;> rfl

/-- A chunk is written if the connection is there, and a failure is told by its position. -/
theorem run_sendChunk (o : SendOptions) (at_ : Position) (count : Nat) (block : Bytes) :
    (sendChunk o at_ count block).run = .askConnected fun connected =>
      if connected then .write block fun answer =>
        .done ((Job.ofAnswer answer).mapError (Failure.inChunk at_ count))
      else .done (.error (.transport (.lost o.name at_))) := by
  simp only [sendChunk, Job.isConnected, ExceptT.run_bind, ExceptT.run_lift]
  refine congrArg Program.askConnected (funext fun connected => ?_)
  cases connected with
  | false => rfl
  | true =>
    refine congrArg (Program.write block) (funext fun answer => ?_)
    cases answer <;> rfl

/-- A job of its own asks first, and its end is the end of its being busy. -/
theorem run_exclusively {α : Type} (p : Printer) (job : Job α) :
    (p.exclusively job).run = .askBusy fun busy =>
      if busy then .done (.error (.busy p.name))
      else .askConnected fun connected =>
        if connected then .setBusy true (job.run.bind fun r => .setBusy false (.done r))
        else .done (.error (.transport .printerNotConnected)) := by
  refine congrArg Program.askBusy (funext fun busy => ?_)
  cases busy with
  | true => rfl
  | false =>
    refine congrArg Program.askConnected (funext fun connected => ?_)
    cases connected <;> rfl

/-- **A job of its own** at a port that is connected and idle: the job, and then the printer is
free again. -/
theorem exclusively_runOn {σ α : Type} (p : Printer) (port : Port σ) {s : σ}
    (hb : port.isBusy s = false) (hc : port.isConnected s = true) (job : Job α) :
    (p.exclusively job).runOn port s =
      ((job.runOn port (port.setBusy true s)).1,
        port.setBusy false (job.runOn port (port.setBusy true s)).2) := by
  simp only [Job.runOn, run_exclusively, Program.run, hb, hc, Bool.false_eq_true, if_false, if_true,
    Program.run_bind]

/-! ### What a plan leaves -/

/-- What happens at the port when a step succeeds. -/
def Step.happening : Step → Happening
  | .send _ _ block => .wrote block none
  | .pause seconds => .paused seconds none
  | .report r => .reported r

/-- **How a step fails**: what happened at the port, which was left connected or not, and how the
job ends for it. -/
inductive Stops (name : List Char) (connected : Bool) : Step → List Happening → Failure → Prop
  /-- The connection was gone before the chunk, and nothing was written. -/
  | lost {at_ : Position} {count : Nat} {block : Bytes} (h : connected = false) :
    Stops name connected (.send at_ count block) [] (.transport (.lost name at_))
  /-- The chunk was not taken. -/
  | refused {at_ : Position} {count : Nat} {block : Bytes} (e : Failure) :
    Stops name connected (.send at_ count block) [.wrote block (some e)] (e.inChunk at_ count)
  /-- The pause was broken off. -/
  | interrupted {seconds : Float} (e : Failure) :
    Stops name connected (.pause seconds) [.paused seconds (some e)] e

/-- **What carrying out steps leaves**: how it ends, and the transcript. -/
inductive Performed (name : List Char) (connected : Bool) :
    List Step → Except Failure Unit → List Happening → Prop
  | nil : Performed name connected [] (.ok ()) []
  /-- A step failed, and the others were not begun. -/
  | stop {step : Step} {steps : List Step} {log : List Happening} {e : Failure}
    (h : Stops name connected step log e) : Performed name connected (step :: steps) (.error e) log
  /-- A step succeeded. -/
  | cons {step : Step} {steps : List Step} {r : Except Failure Unit} {log : List Happening}
    (h : Performed name connected steps r log) :
    Performed name connected (step :: steps) r (step.happening :: log)

section Run
variable {σ : Type} (p : Port σ) (name : List Char)

theorem step_runOn (step : Step) (s : σ) (log : List Happening) :
    (∃ t, (step.job name).runOn p.recorded (s, log) = (.ok (), t, log ++ [step.happening])) ∨
      ∃ e t tail, (step.job name).runOn p.recorded (s, log) = (.error e, t, log ++ tail) ∧
        Stops name (p.isConnected t) step tail e := by
  cases step with
  | send at_ count block =>
    simp only [Job.runOn, Step.job, run_sendChunk, Program.run]
    cases hc : p.recorded.isConnected (s, log) with
    | false =>
      exact .inr ⟨_, s, [], by rw [List.append_nil]; rfl, .lost hc⟩
    | true =>
      simp only [if_true, Program.run, Port.recorded]
      cases ha : (p.write block s).1 with
      | none => exact .inl ⟨_, rfl⟩
      | some e => exact .inr ⟨_, _, _, rfl, .refused e⟩
  | pause seconds =>
    simp only [Job.runOn, Step.job, ExceptT.run_mk, Program.run, Port.recorded]
    cases ha : (p.pause seconds s).1 with
    | none => exact .inl ⟨_, rfl⟩
    | some e => exact .inr ⟨_, _, _, rfl, .interrupted e⟩
  | report r => exact .inl ⟨_, rfl⟩

/-- **Steps are carried out in turn, up to the first that fails.** -/
theorem perform_runOn (steps : List Step) (s : σ) (log : List Happening) :
    ∃ r t tail, (perform name steps).runOn p.recorded (s, log) = (r, t, log ++ tail) ∧
      Performed name (p.isConnected t) steps r tail := by
  induction steps generalizing s log with
  | nil => exact ⟨.ok (), s, [], by rw [List.append_nil]; rfl, .nil⟩
  | cons step steps ih =>
    simp only [perform, runOn_bind]
    obtain ⟨t, h⟩ | ⟨e, t, tail, h, hstop⟩ := step_runOn p name step s log
    · obtain ⟨r, u, tail, hr, hp⟩ := ih t (log ++ [step.happening])
      refine ⟨r, u, step.happening :: tail, ?_, .cons hp⟩
      simp only [h, hr, List.append_assoc, List.singleton_append]
    · exact ⟨_, t, tail, by simp only [h], .stop hstop⟩

end Run

/-- An ending after steps that may have failed. -/
def afterSteps (r ending : Except Failure Unit) : Except Failure Unit :=
  match r with
  | .ok () => ending
  | .error e => .error e

@[simp] theorem afterSteps_ok (r : Except Failure Unit) : afterSteps r (.ok ()) = r := by
  cases r <;> rfl

theorem afterSteps_eq_ok {r ending : Except Failure Unit} :
    afterSteps r ending = .ok () ↔ r = .ok () ∧ ending = .ok () := by
  cases r <;> simp [afterSteps]

/-- **A plan is carried out up to the first step that fails**, and ends as planned if none does. -/
theorem Plan.job_runOn {σ : Type} (p : Port σ) (name : List Char) (plan : Plan) (s : σ)
    (log : List Happening) :
    ∃ r t tail, (plan.job name).runOn p.recorded (s, log) =
        (afterSteps r plan.ending, t, log ++ tail) ∧
      Performed name (p.isConnected t) plan.steps r tail := by
  obtain ⟨r, t, tail, h, hp⟩ := perform_runOn p name plan.steps s log
  refine ⟨r, t, tail, ?_, hp⟩
  simp only [Plan.job, runOn_bind, h]
  cases r <;> rfl

section Performed
variable {name : List Char} {connected : Bool}

theorem Performed.of_ok {steps : List Step} {log : List Happening}
    (h : Performed name connected steps (.ok ()) log) : log = steps.map Step.happening := by
  generalize hr : (.ok () : Except Failure Unit) = r at h
  induction h with
  | nil => rfl
  | stop h => cases hr
  | cons h ih => rw [List.map_cons, ih hr]

theorem Performed.all (steps : List Step) :
    Performed name connected steps (.ok ()) (steps.map Step.happening) := by
  induction steps with
  | nil => exact .nil
  | cons step steps ih => exact .cons ih

/-- Steps that succeeded leave their transcript before that of the others. -/
theorem Performed.prepend {steps : List Step} {r : Except Failure Unit} {log : List Happening}
    (h : Performed name connected steps r log) (done : List Step) :
    Performed name connected (done ++ steps) r (done.map Step.happening ++ log) := by
  induction done with
  | nil => exact h
  | cons step done ih => exact .cons ih

/-- Steps one after the other: either the first ones fail, or they leave their transcript before
that of the others. -/
theorem Performed.append {a b : List Step} {r : Except Failure Unit} {log : List Happening}
    (h : Performed name connected (a ++ b) r log) :
    (∃ e, r = .error e ∧ Performed name connected a (.error e) log) ∨
      ∃ tail, log = a.map Step.happening ++ tail ∧ Performed name connected b r tail := by
  induction a generalizing log with
  | nil => exact .inr ⟨log, rfl, h⟩
  | cons step a ih =>
    rw [List.cons_append] at h
    cases h with
    | stop h => exact .inl ⟨_, rfl, .stop h⟩
    | cons h =>
      obtain ⟨e, rfl, ha⟩ | ⟨tail, rfl, hb⟩ := ih h
      · exact .inl ⟨e, rfl, .cons ha⟩
      · exact .inr ⟨tail, rfl, hb⟩

end Performed

/-! ### Failures -/

/-- **The transcript of a failure**: nothing failed before it, and nothing happened after it. -/
def FailsAt (name : List Char) (connected : Bool) (step : Step) (log : List Happening)
    (e : Failure) : Prop :=
  ∃ before tail, log = before ++ tail ∧ (∀ x ∈ before, x.failure? = none) ∧
    Stops name connected step tail e

theorem failure?_happening (step : Step) : step.happening.failure? = none := by
  cases step <;> rfl

section FailsAt
variable {name : List Char} {connected : Bool} {step : Step} {log : List Happening} {e : Failure}

theorem Stops.failsAt (h : Stops name connected step log e) : FailsAt name connected step log e :=
  ⟨[], log, rfl, by simp, h⟩

/-- What succeeded before does not matter. -/
theorem FailsAt.prepend (h : FailsAt name connected step log e) (steps : List Step) :
    FailsAt name connected step (steps.map Step.happening ++ log) e := by
  obtain ⟨before, tail, rfl, hb, hs⟩ := h
  refine ⟨steps.map Step.happening ++ before, tail, by rw [List.append_assoc], ?_, hs⟩
  simp only [List.forall_mem_append, List.forall_mem_map]
  exact ⟨fun step _ => failure?_happening step, hb⟩

end FailsAt

/-! ### Reports and pauses -/

/-- The blocks that a port took of steps that succeeded are those that they send. -/
theorem taken_happening (steps : List Step) :
    taken (steps.map Step.happening) = steps.filterMap Step.block? := by
  rw [taken, List.filterMap_map]
  refine congrArg (List.filterMap · steps) (funext fun step => ?_)
  cases step <;> rfl

/-- The pause that a port sees. -/
def pauseSignals (seconds : Float) : List Signal := if 0 < seconds then [.pause seconds] else []

@[simp] theorem taken_reports (listener : Option (Float → Report)) (part : Float) :
    taken ((reportSteps listener part).map Step.happening) = [] := by
  rw [taken_happening, blocks_reportSteps]

@[simp] theorem signals_reports (listener : Option (Float → Report)) (part : Float) :
    signals ((reportSteps listener part).map Step.happening) = [] := by
  cases listener <;> rfl

@[simp] theorem taken_pauses (last : Prop) [Decidable last] (seconds : Float) :
    taken ((if last then [] else pauseSteps seconds).map Step.happening) = [] := by
  rw [taken_happening, blocks_pauseSteps]

@[simp] theorem signals_pauses (last : Prop) [Decidable last] (seconds : Float) :
    signals ((if last then [] else pauseSteps seconds).map Step.happening) =
      if last then [] else pauseSignals seconds := by
  unfold pauseSteps pauseSignals
  split_ifs <;> rfl

section Performed
variable {name : List Char} {connected : Bool} {log : List Happening} {e : Failure}

/-- Reports never fail. -/
theorem Performed.not_reports {listener : Option (Float → Report)} {part : Float} :
    ¬ Performed name connected (reportSteps listener part) (.error e) log := by
  intro h
  cases listener with
  | none => cases h
  | some f =>
    cases h with
    | stop h => cases h
    | cons h => cases h

theorem Performed.after_reports {listener : Option (Float → Report)} {part : Float}
    {steps : List Step} {r : Except Failure Unit}
    (h : Performed name connected (reportSteps listener part ++ steps) r log) :
    ∃ tail, log = (reportSteps listener part).map Step.happening ++ tail ∧
      Performed name connected steps r tail := by
  obtain ⟨e, -, hr⟩ | h := h.append
  · exact absurd hr not_reports
  · exact h

/-- A pause is seen even if it is broken off. -/
theorem Performed.pauses {last : Prop} [Decidable last] {seconds : Float}
    (h : Performed name connected (if last then [] else pauseSteps seconds) (.error e) log) :
    ¬ last ∧ taken log = [] ∧ signals log = pauseSignals seconds ∧
      FailsAt name connected (.pause seconds) log e := by
  by_cases hl : last
  · rw [if_pos hl] at h
    cases h
  · rw [if_neg hl, pauseSteps] at h
    split at h
    · next hs =>
      rw [pauseSignals, if_pos hs]
      cases h with
      | stop h =>
        cases h with
        | interrupted => exact ⟨hl, rfl, rfl, (Stops.interrupted _).failsAt⟩
      | cons h => cases h
    · cases h

end Performed

end LabelPress.Transmission
