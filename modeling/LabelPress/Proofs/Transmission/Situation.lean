import LabelPress.Proofs.Transmission.Request

/-!
# Situations

Calls reach a printer at any time, also while others wait. A call that is resumed runs on until it
ends, or until it writes or pauses; then it waits for its answer, and meanwhile further calls may be
made, answers to other calls may come, and the connection may be lost or found again.

* `Situation`, `Move`: a printer, the calls to it, and what comes next.
* `remains`: what is left of a job when some of its steps are done.
* `proceed_remains`: how far a job runs on; `move_call`: what becomes of a call.
* `foldl_move_proceed`: a call that is not disturbed does what it does over a port.
-/

namespace LabelPress.Transmission

open Wire (Bytes)

/-! ### Situations -/

/-- A note of what call `n` did: it told that a job is running, or that none is, or something
happened at the port, when a job was running or not. -/
inductive Note where
  | entered (n : Nat)
  | left (n : Nat)
  | happened (n : Nat) (busy : Bool) (x : Happening)

/-- The bytes that the port took. -/
def Note.bytes : Note → Bytes
  | happened _ _ x => x.block?.getD []
  | _ => []

/-- A printer and the calls to it, numbered as they were made: those that wait for an answer, with
what they do next, what happened, and how calls ended. -/
structure Situation where
  connected : Bool
  busy : Bool := false
  calls : List Request := []
  waiting : List (Nat × Program (Except Failure Unit)) := []
  log : List Note := []
  outcomes : List (Nat × Except Failure Unit) := []

/-- What comes next: a call is made, the write or pause of call `n` is over or fails, or the
connection is lost or found again. -/
inductive Move where
  | call (request : Request)
  | answer (n : Nat) (failure : Option Failure)
  | link (connected : Bool)

namespace Situation

def tell (n : Nat) (busy : Bool) (s : Situation) : Situation :=
  { s with busy := busy, log := s.log ++ [if busy then .entered n else .left n] }

/-- Things happen at the port, for call `n`. -/
def happen (n : Nat) (log : List Happening) (s : Situation) : Situation :=
  { s with log := s.log ++ log.map (.happened n s.busy) }

def finish (n : Nat) (r : Except Failure Unit) (s : Situation) : Situation :=
  { s with outcomes := s.outcomes ++ [(n, r)] }

def suspend (n : Nat) (next : Program (Except Failure Unit)) (s : Situation) : Situation :=
  { s with waiting := s.waiting ++ [(n, next)] }

def wake (n : Nat) (s : Situation) : Situation :=
  { s with waiting := s.waiting.filter fun w => w.1 != n }

/-- **A call runs on** until it ends or waits. -/
def proceed (n : Nat) : Program (Except Failure Unit) → Situation → Situation
  | .done r, s => s.finish n r
  | .askConnected k, s => proceed n (k s.connected) s
  | .askBusy k, s => proceed n (k s.busy) s
  | .setBusy busy k, s => proceed n k (s.tell n busy)
  | .report r k, s => proceed n k (s.happen n [.reported r])
  | .write block k, s => s.suspend n (.write block k)
  | .pause seconds k, s => s.suspend n (.pause seconds k)

/-- An answer reaches call `n`, if it waits. -/
def answer (n : Nat) (failure : Option Failure) (s : Situation) : Situation :=
  match s.waiting.lookup n with
  | some (.write block k) => proceed n (k failure) ((s.wake n).happen n [.wrote block failure])
  | some (.pause seconds k) => proceed n (k failure) ((s.wake n).happen n [.paused seconds failure])
  | _ => s

/-- **One move.** -/
def move (p : Printer) (s : Situation) : Move → Situation
  | .call request =>
    proceed s.calls.length (request.job p).run { s with calls := s.calls ++ [request] }
  | .answer n failure => s.answer n failure
  | .link connected => { s with connected := connected }

/-- **Any moves, one after the other**, at a printer to which no call was made before. -/
def after (p : Printer) (connected : Bool) (moves : List Move) : Situation :=
  moves.foldl (move p) { connected := connected }

/-- The bytes that the port took. -/
def bytes (s : Situation) : Bytes := s.log.flatMap Note.bytes

/-- A call ends at once. -/
def refuse (request : Request) (e : Failure) (s : Situation) : Situation :=
  { s with
    calls := s.calls ++ [request]
    outcomes := s.outcomes ++ [(s.calls.length, .error e)] }

/-- A call that has the printer to itself ends. -/
def close (n : Nat) (r : Except Failure Unit) (s : Situation) : Situation :=
  (s.tell n false).finish n r

end Situation

/-! ### What is left of a job -/

/-- How a job fails when the port fails in a step. -/
def Step.failure : Step → Failure → Failure
  | send at_ count _, e => e.inChunk at_ count
  | _, e => e

def Step.answered : Step → Option Failure → Happening
  | send _ _ block, failure => .wrote block failure
  | pause seconds, failure => .paused seconds failure
  | report r, _ => .reported r

section Remains
variable (name : List Char) (ending : Except Failure Unit)

/-- What is left of a job of its own when these steps are left of its plan. -/
def remains (steps : List Step) : Program (Except Failure Unit) :=
  ((Plan.mk steps ending).job name).run.bind fun r => .setBusy false (.done r)

/-- What is left once the port answered in a step. -/
def resume (step : Step) (steps : List Step) : Option Failure → Program (Except Failure Unit)
  | none => remains name ending steps
  | some e => .setBusy false (.done (.error (step.failure e)))

/-- **A job that waits in a step**, with these steps left after it. -/
inductive Suspended (steps : List Step) : Step → Program (Except Failure Unit) → Prop
  | send {at_ : Position} {count : Nat} {block : Bytes} :
    Suspended steps (.send at_ count block)
      (.write block (resume name ending (.send at_ count block) steps))
  | pause {seconds : Float} :
    Suspended steps (.pause seconds) (.pause seconds (resume name ending (.pause seconds) steps))

theorem Step.answered_none (step : Step) : step.answered none = step.happening := by
  cases step <;> rfl

variable {name ending} in
theorem Suspended.stops {steps : List Step} {step : Step} {next : Program (Except Failure Unit)}
    (h : Suspended name ending steps step next) (connected : Bool) (e : Failure) :
    Stops name connected step [step.answered (some e)] (step.failure e) := by
  cases h with
  | send => exact .refused e
  | pause => exact .interrupted e

theorem remains_nil : remains name ending [] = .setBusy false (.done ending) := rfl

theorem remains_cons (step : Step) (steps : List Step) :
    remains name ending (step :: steps) = (step.job name).run.bind fun
      | .ok () => remains name ending steps
      | .error e => .setBusy false (.done (.error e)) := by
  have h : ((Plan.mk (step :: steps) ending).job name).run = (step.job name).run.bind fun
      | .ok () => ((Plan.mk steps ending).job name).run
      | .error e => .done (.error e) := by
    simp only [Plan.job, perform, bind_assoc, ExceptT.run_bind]
    refine congrArg _ (funext fun r => ?_)
    cases r <;> rfl
  rw [remains, h, Program.bind_assoc]
  refine congrArg _ (funext fun r => ?_)
  cases r <;> rfl

theorem remains_send (at_ : Position) (count : Nat) (block : Bytes) (steps : List Step) :
    remains name ending (.send at_ count block :: steps) = .askConnected fun connected =>
      if connected then .write block (resume name ending (.send at_ count block) steps)
      else .setBusy false (.done (.error (.transport (.lost name at_)))) := by
  rw [remains_cons, Step.job, run_sendChunk]
  refine congrArg Program.askConnected (funext fun connected => ?_)
  cases connected with
  | false => rfl
  | true =>
    refine congrArg (Program.write block) (funext fun failure => ?_)
    cases failure <;> rfl

theorem remains_pause (seconds : Float) (steps : List Step) :
    remains name ending (.pause seconds :: steps) =
      .pause seconds (resume name ending (.pause seconds) steps) := by
  rw [remains_cons]
  refine congrArg (Program.pause seconds) (funext fun failure => ?_)
  cases failure <;> rfl

theorem remains_report (r : Report) (steps : List Step) :
    remains name ending (.report r :: steps) = .report r (remains name ending steps) := by
  rw [remains_cons]
  rfl

end Remains

namespace Situation

theorem happen_nil (n : Nat) (s : Situation) : s.happen n [] = s := by
  simp [happen]

theorem happen_happen (n : Nat) (a b : List Happening) (s : Situation) :
    (s.happen n a).happen n b = s.happen n (a ++ b) := by
  simp [happen, List.append_assoc]

/-- **A call that has the printer to itself runs on** until it ends, and the printer is free again,
or until it waits in one of its steps. -/
theorem proceed_remains (n : Nat) (name : List Char) (ending : Except Failure Unit)
    (steps : List Step) (s : Situation) :
    (∃ r log, Performed name s.connected steps r log ∧
      proceed n (remains name ending steps) s = (s.happen n log).close n (afterSteps r ending)) ∨
    ∃ done step rest next, steps = done ++ step :: rest ∧ Suspended name ending rest step next ∧
      proceed n (remains name ending steps) s =
        (s.happen n (done.map Step.happening)).suspend n next := by
  induction steps generalizing s with
  | nil => exact .inl ⟨_, _, .nil, by rw [remains_nil, happen_nil]; rfl⟩
  | cons step steps ih =>
    cases step with
    | send at_ count block =>
      simp only [remains_send, proceed]
      cases hc : s.connected with
      | false => exact .inl ⟨_, _, .stop (.lost rfl), by rw [happen_nil]; rfl⟩
      | true => exact .inr ⟨[], _, steps, _, rfl, .send, by rw [List.map_nil, happen_nil]; rfl⟩
    | pause seconds =>
      rw [remains_pause]
      exact .inr ⟨[], _, steps, _, rfl, .pause, by rw [List.map_nil, happen_nil]; rfl⟩
    | report r =>
      rw [remains_report]
      obtain ⟨r', log, hp, h⟩ | ⟨done, step, rest, next, rfl, hs, h⟩ :=
        ih (s.happen n [.reported r])
      · exact .inl ⟨r', _, .cons hp, by rw [proceed, h, happen_happen]; rfl⟩
      · exact .inr ⟨.report r :: done, step, rest, next, rfl, hs, by
          rw [proceed, h, happen_happen]; rfl⟩

/-- An answer reaches the one call that waits. -/
theorem answer_suspended {n : Nat} {name : List Char} {ending : Except Failure Unit}
    {step : Step} {rest : List Step} {next : Program (Except Failure Unit)} {s : Situation}
    (hs : Suspended name ending rest step next) (hw : s.waiting = [(n, next)])
    (failure : Option Failure) :
    s.answer n failure = proceed n (resume name ending step rest failure)
      ((s.wake n).happen n [step.answered failure]) := by
  have hlookup : s.waiting.lookup n = some next := by simp [hw]
  cases hs with
  | send => simp only [answer, hlookup, Step.answered]
  | pause => simp only [answer, hlookup, Step.answered]

/-- **A call is turned away**, or it has the printer to itself. -/
theorem move_call (p : Printer) (s : Situation) (request : Request) :
    s.move p (.call request) =
      if request.count < 1 then s.refuse request (.copies request.count)
      else if s.busy then s.refuse request (.busy p.name)
      else if s.connected then
        proceed s.calls.length (remains p.name (request.plan p).ending (request.plan p).steps)
          ({ s with calls := s.calls ++ [request] }.tell s.calls.length true)
      else s.refuse request (.transport .printerNotConnected) := by
  rw [move, request.job_eq]
  split
  · rfl
  · rw [run_exclusively]
    cases hb : s.busy with
    | true => simp only [proceed, hb, refuse, finish, if_true]
    | false =>
      cases hc : s.connected with
      | true => simp only [proceed, Bool.false_eq_true, if_false, if_true, remains]
      | false => simp only [proceed, hb, hc, Bool.false_eq_true, if_false, refuse, finish]

/-! ### Calls that are not disturbed -/

/-- **The port of call `n`**, if nothing else happens in the situation: in each write and pause the
connection is left as `reply` tells, and so is the answer. -/
def port (n : Nat) (reply : Situation → Bool × Option Failure) : Port Situation where
  isConnected s := s.connected
  isBusy s := s.busy
  setBusy busy s := s.tell n busy
  write block s :=
    ((reply s).2, { s with connected := (reply s).1 }.happen n [.wrote block (reply s).2])
  pause seconds s :=
    ((reply s).2, { s with connected := (reply s).1 }.happen n [.paused seconds (reply s).2])
  report r s := s.happen n [.reported r]

section Answer
variable {n : Nat} {s : Situation} (hn : ∀ w ∈ s.waiting, w.1 ≠ n)
include hn

theorem wake_suspend (next : Program (Except Failure Unit)) : (s.suspend n next).wake n = s := by
  have hfilter : s.waiting.filter (fun w => w.1 != n) = s.waiting :=
    List.filter_eq_self.2 fun w hw => bne_iff_ne.2 (hn w hw)
  simp [suspend, wake, hfilter]

theorem lookup_suspend (next : Program (Except Failure Unit)) :
    (s.suspend n next).waiting.lookup n = some next := by
  have hnone : s.waiting.lookup n = none := List.lookup_eq_none_iff.2 fun w hw => by
    simpa using (hn w hw).symm
  simp [suspend, List.lookup_append, hnone]

theorem answer_write (block : Bytes) (k : Option Failure → Program (Except Failure Unit))
    (failure : Option Failure) : (s.suspend n (.write block k)).answer n failure =
      proceed n (k failure) (s.happen n [.wrote block failure]) := by
  simp only [answer, lookup_suspend hn, wake_suspend hn]

theorem answer_pause (seconds : Float) (k : Option Failure → Program (Except Failure Unit))
    (failure : Option Failure) : (s.suspend n (.pause seconds k)).answer n failure =
      proceed n (k failure) (s.happen n [.paused seconds failure]) := by
  simp only [answer, lookup_suspend hn, wake_suspend hn]

end Answer

/-- **A call that is not disturbed** does what it does over its port. -/
theorem foldl_move_proceed (p : Printer) (n : Nat) (reply : Situation → Bool × Option Failure)
    (x : Program (Except Failure Unit)) (s : Situation) (hn : ∀ w ∈ s.waiting, w.1 ≠ n) :
    ∃ moves : List Move, moves.foldl (move p) (proceed n x s) =
      (x.run (port n reply) s).2.finish n (x.run (port n reply) s).1 := by
  induction x generalizing s with
  | done r => exact ⟨[], rfl⟩
  | askConnected k ih => exact ih _ s hn
  | askBusy k ih => exact ih _ s hn
  | setBusy busy k ih => exact ih (s.tell n busy) hn
  | report r k ih => exact ih (s.happen n [.reported r]) hn
  | write block k ih =>
    let t : Situation := { s with connected := (reply s).1 }
    have ht : ∀ w ∈ t.waiting, w.1 ≠ n := hn
    obtain ⟨moves, h⟩ := ih (reply s).2 (t.happen n [.wrote block (reply s).2]) ht
    refine ⟨.link (reply s).1 :: .answer n (reply s).2 :: moves, ?_⟩
    change moves.foldl (move p) ((t.suspend n (.write block k)).answer n (reply s).2) = _
    rw [answer_write ht, h]
    rfl
  | pause seconds k ih =>
    let t : Situation := { s with connected := (reply s).1 }
    have ht : ∀ w ∈ t.waiting, w.1 ≠ n := hn
    obtain ⟨moves, h⟩ := ih (reply s).2 (t.happen n [.paused seconds (reply s).2]) ht
    refine ⟨.link (reply s).1 :: .answer n (reply s).2 :: moves, ?_⟩
    change moves.foldl (move p) ((t.suspend n (.pause seconds k)).answer n (reply s).2) = _
    rw [answer_pause ht, h]
    rfl

end Situation

end LabelPress.Transmission
