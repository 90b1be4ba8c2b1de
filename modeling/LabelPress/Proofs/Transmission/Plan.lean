import LabelPress.Transmission.Printer

/-!
# Jobs as plans

Whatever a printer does once it has the port to itself is decided beforehand: a list of steps, done
one after the other until one of them fails, and an ending. The answers of the port decide only how
far the list is done.

* `Program` is a lawful monad, so that jobs can be rearranged.
* `Step`, `Plan`: what a job is going to do; `Plan.job` does it.
* `sendChunked_eq`, `sendLabel_eq`, `sendCopies_eq`: transmissions and copies are plans.
-/

namespace LabelPress.Transmission

open Wire (Bytes)

/-! ### The monad laws -/

namespace Program

theorem bind_done {α : Type} (x : Program α) : x.bind done = x := by
  induction x with
  | done a => rfl
  | askConnected k ih => exact congrArg askConnected (funext ih)
  | askBusy k ih => exact congrArg askBusy (funext ih)
  | setBusy b k ih => exact congrArg (setBusy b) ih
  | write block k ih => exact congrArg (write block) (funext ih)
  | pause seconds k ih => exact congrArg (pause seconds) (funext ih)
  | report r k ih => exact congrArg (report r) ih

theorem bind_assoc {α β γ : Type} (x : Program α) (f : α → Program β) (g : β → Program γ) :
    (x.bind f).bind g = x.bind fun a => (f a).bind g := by
  induction x with
  | done a => rfl
  | askConnected k ih => exact congrArg askConnected (funext ih)
  | askBusy k ih => exact congrArg askBusy (funext ih)
  | setBusy b k ih => exact congrArg (setBusy b) ih
  | write block k ih => exact congrArg (write block) (funext ih)
  | pause seconds k ih => exact congrArg (pause seconds) (funext ih)
  | report r k ih => exact congrArg (report r) ih

instance : LawfulMonad Program :=
  LawfulMonad.mk' Program bind_done (fun _ _ => rfl) bind_assoc

end Program

/-! ### Steps -/

/-- A step of a job: send chunk number `at_` of `count`, pause, or report progress. -/
inductive Step where
  | send (at_ : Position) (count : Nat) (block : Bytes)
  | pause (seconds : Float)
  | report (r : Report)

namespace Step

/-- The block that a step sends. -/
def block? : Step → Option Bytes
  | send _ _ block => some block
  | _ => none

/-- Do a step, at the port of the given name. -/
def job (name : List Char) : Step → Job Unit
  | send at_ count block => sendChunk ⟨name, 0, none⟩ at_ count block
  | pause seconds => ExceptT.mk (.pause seconds fun e => .done (Job.ofAnswer e))
  | report r => ExceptT.lift (.report r (.done ()))

end Step

/-- Do steps in turn. -/
def perform (name : List Char) : List Step → Job Unit
  | [] => pure ()
  | step :: steps => do
    step.job name
    perform name steps

theorem perform_append (name : List Char) (a b : List Step) :
    perform name (a ++ b) = (do perform name a; perform name b) := by
  induction a with
  | nil => simp [perform]
  | cons step a ih => simp [perform, ih]

theorem perform_singleton (name : List Char) (step : Step) :
    perform name [step] = step.job name := by
  simp [perform]

/-! ### Plans -/

/-- What a job is going to do: its steps, and how it ends if they all succeed. -/
structure Plan where
  steps : List Step
  ending : Except Failure Unit

namespace Plan

def ofSteps (steps : List Step) : Plan := ⟨steps, .ok ()⟩

def stop (e : Failure) : Plan := ⟨[], .error e⟩

/-- One plan after the other, if the first one ends well. -/
def andThen (a b : Plan) : Plan :=
  match a.ending with
  | .ok () => ⟨a.steps ++ b.steps, b.ending⟩
  | .error _ => a

/-- **Do what a plan says.** -/
def job (name : List Char) (plan : Plan) : Job Unit := do
  perform name plan.steps
  ExceptT.mk (.done plan.ending)

/-- The blocks that a plan sends. -/
def blocks (plan : Plan) : List Bytes := plan.steps.filterMap Step.block?

theorem job_ofSteps (name : List Char) (steps : List Step) :
    (ofSteps steps).job name = perform name steps :=
  bind_pure (perform name steps)

theorem job_andThen (name : List Char) (a b : Plan) :
    (a.andThen b).job name = (do a.job name; b.job name) := by
  obtain ⟨steps, ending⟩ := a
  cases ending with
  | ok u =>
    have hok : (ExceptT.mk (Program.done (.ok u)) : Job Unit) = pure () := rfl
    simp [andThen, job, perform_append, hok]
  | error e =>
    have herr : ∀ x : Job Unit, (do ExceptT.mk (Program.done (.error e)); x : Job Unit) =
        ExceptT.mk (Program.done (.error e)) := fun _ => rfl
    simp [andThen, job, herr]

end Plan

/-! ### The plans of a printer -/

/-- The report of a part, if anyone listens. -/
def reportSteps (listener : Option (Float → Report)) (part : Float) : List Step :=
  (listener.map fun f => Step.report (f part)).toList

/-- A pause, if the time is positive. -/
def pauseSteps (seconds : Float) : List Step := if 0 < seconds then [.pause seconds] else []

/-- The steps that send the chunks that are left. -/
def sendSteps (o : SendOptions) (count total : Nat) : Position → List Bytes → List Step
  | _, [] => []
  | at_, chunk :: rest =>
    let sent := at_.offset + chunk.length
    .send at_ count chunk :: (reportSteps o.listener (fractionOf sent total) ++
      (if rest.isEmpty then [] else pauseSteps o.delay) ++
      sendSteps o count total ⟨at_.chunk + 1, sent⟩ rest)

/-- The plan of a transmission. -/
def sendPlan (o : SendOptions) (size : Int) (data : Bytes) : Plan :=
  match chunks size data with
  | .error e => .stop e
  | .ok blocks => .ofSteps (sendSteps o blocks.length data.length ⟨0, 0⟩ blocks)

@[simp] theorem blocks_reportSteps (listener : Option (Float → Report)) (part : Float) :
    (reportSteps listener part).filterMap Step.block? = [] := by
  cases listener <;> rfl

@[simp] theorem blocks_pauseSteps (last : Prop) [Decidable last] (seconds : Float) :
    (if last then [] else pauseSteps seconds).filterMap Step.block? = [] := by
  unfold pauseSteps
  split
  · rfl
  · split <;> rfl

@[simp] theorem blocks_sendSteps (o : SendOptions) (count total : Nat) (at_ : Position)
    (chunks : List Bytes) :
    (sendSteps o count total at_ chunks).filterMap Step.block? = chunks := by
  induction chunks generalizing at_ with
  | nil => rfl
  | cons chunk rest ih =>
    simp only [sendSteps, List.filterMap_cons, List.filterMap_append, Step.block?, ih,
      blocks_reportSteps, blocks_pauseSteps, List.nil_append]

theorem perform_reportSteps (name : List Char) (listener : Option (Float → Report))
    (part : Float) : perform name (reportSteps listener part) = Job.report listener part := by
  cases listener with
  | none => rfl
  | some f => exact perform_singleton ..

theorem perform_pauseSteps (name : List Char) (seconds : Float) :
    perform name (pauseSteps seconds) = Job.pause seconds := by
  unfold pauseSteps Job.pause
  split
  · exact perform_singleton ..
  · rfl

theorem sendFrom_eq (o : SendOptions) (count total : Nat) (at_ : Position) (blocks : List Bytes) :
    sendFrom o count total at_ blocks = perform o.name (sendSteps o count total at_ blocks) := by
  induction blocks generalizing at_ with
  | nil => rfl
  | cons chunk rest ih =>
    have hstep : (Step.send at_ count chunk).job o.name = sendChunk o at_ count chunk := rfl
    simp only [sendFrom, sendSteps, perform, perform_append, perform_reportSteps, hstep, ih]
    cases rest with
    | nil => simp [perform]
    | cons c rest => simp [perform_pauseSteps]

/-- **A transmission is its plan.** -/
theorem sendChunked_eq (o : SendOptions) (size : Int) (data : Bytes) :
    sendChunked o size data = (sendPlan o size data).job o.name := by
  unfold sendChunked sendPlan
  cases h : chunks size data with
  | error e => rfl
  | ok blocks =>
    rw [Plan.job_ofSteps, ← sendFrom_eq]
    rfl

namespace Printer

/-- The plan of a label. -/
def labelPlan (p : Printer) (bitmap : Bytes) (width height : Int)
    (listener : Option (Float → Report)) : Plan :=
  match Wire.encodeLabel bitmap width height p.feedMm with
  | .error e => .stop (.encoding e)
  | .ok data =>
    (Plan.ofSteps (reportSteps listener 0)).andThen
      ((sendPlan ⟨p.name, p.chunkDelay, listener⟩ p.chunkSize data).andThen
        (Plan.ofSteps (reportSteps listener 1)))

/-- The plan of copies `index + 1` to `index + n` of `total`. -/
def copiesPlan (p : Printer) (bitmap : Bytes) (width height : Int) (total : Nat)
    (listener : Option (Nat → Nat → Float → Report)) : Nat → Nat → Plan
  | _, 0 => .ofSteps []
  | index, n + 1 =>
    (p.labelPlan bitmap width height (listener.map fun f => f (index + 1) total)).andThen
      ((Plan.ofSteps (if n = 0 then [] else pauseSteps p.copyDelay)).andThen
        (p.copiesPlan bitmap width height total listener (index + 1) n))

theorem sendLabel_eq (p : Printer) (bitmap : Bytes) (width height : Int)
    (listener : Option (Float → Report)) :
    p.sendLabel bitmap width height listener =
      (p.labelPlan bitmap width height listener).job p.name := by
  unfold sendLabel labelPlan
  cases h : Wire.encodeLabel bitmap width height p.feedMm with
  | error e => rfl
  | ok data =>
    simp only [Plan.job_andThen, Plan.job_ofSteps, perform_reportSteps, sendChunked_eq]
    rfl

/-- **Copies are their plan.** -/
theorem sendCopies_eq (p : Printer) (bitmap : Bytes) (width height : Int) (total : Nat)
    (listener : Option (Nat → Nat → Float → Report)) (index n : Nat) :
    p.sendCopies bitmap width height total listener index n =
      (p.copiesPlan bitmap width height total listener index n).job p.name := by
  induction n generalizing index with
  | zero => rfl
  | succ n ih =>
    simp only [sendCopies, copiesPlan, Plan.job_andThen, Plan.job_ofSteps, sendLabel_eq, ih]
    by_cases hn : n = 0
    · simp [hn, perform]
    · simp [hn, perform_pauseSteps]

end Printer

end LabelPress.Transmission
