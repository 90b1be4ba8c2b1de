import LabelPress.Transmission.Failure

/-!
# Programs that talk to a port

What a job does is written down as a tree: at each node it asks or tells its surroundings one thing,
and each answer has a branch of its own. What the surroundings do is a `Port` over some state. A job
is suspended only while it writes and while it pauses, and what happens meanwhile is the port's
affair: it may run other programs over the same state.

* `Program`: the trees, a monad.
* `Job`: programs that may fail.
* `Program.run`: a program over a port.
* `run_bind`: to run two programs in turn is to run the second from where the first ended.
-/

namespace LabelPress.Transmission

open Wire (Bytes)

/-- A report of progress. -/
inductive Report where
  /-- The part of a stream that was sent. -/
  | fraction (part : Float)
  /-- The part of the stream of copy `index` of `total`. -/
  | copy (index total : Nat) (part : Float)
deriving Repr

/-- A program that talks to a port and ends with a value. -/
inductive Program (α : Type) : Type where
  /-- End. -/
  | done (a : α)
  /-- Ask whether the port is connected. -/
  | askConnected (k : Bool → Program α)
  /-- Ask whether a job is running. -/
  | askBusy (k : Bool → Program α)
  /-- Tell that a job is running, or that none is. -/
  | setBusy (busy : Bool) (k : Program α)
  /-- Write a block; the answer is a failure, if there was one. -/
  | write (block : Bytes) (k : Option Failure → Program α)
  /-- Pause; the answer is a failure, if there was one. -/
  | pause (seconds : Float) (k : Option Failure → Program α)
  /-- Report progress. -/
  | report (r : Report) (k : Program α)

namespace Program

/-- Continue with the value of a program. -/
def bind {α β : Type} : Program α → (α → Program β) → Program β
  | done a, f => f a
  | askConnected k, f => askConnected fun b => (k b).bind f
  | askBusy k, f => askBusy fun b => (k b).bind f
  | setBusy b k, f => setBusy b (k.bind f)
  | write block k, f => write block fun e => (k e).bind f
  | pause seconds k, f => pause seconds fun e => (k e).bind f
  | report r k, f => report r (k.bind f)

instance : Monad Program where
  pure := done
  bind := bind

end Program

/-! ## Jobs -/

/-- A program that may end early. -/
abbrev Job := ExceptT Failure Program

namespace Job

/-- Is the port connected? -/
def isConnected : Job Bool := ExceptT.lift (.askConnected .done)

/-- Is a job running? -/
def isBusy : Job Bool := ExceptT.lift (.askBusy .done)

/-- Tell that a job is running, or that none is. -/
def setBusy (busy : Bool) : Job Unit := ExceptT.lift (.setBusy busy (.done ()))

/-- An answer as a result. -/
def ofAnswer : Option Failure → Except Failure Unit
  | none => .ok ()
  | some e => .error e

/-- Write a block. -/
def write (block : Bytes) : Job Unit := ExceptT.mk (.write block fun e => .done (ofAnswer e))

/-- Pause, if the time is positive. -/
def pause (seconds : Float) : Job Unit :=
  if 0 < seconds then ExceptT.mk (.pause seconds fun e => .done (ofAnswer e)) else pure ()

/-- Report progress, if anyone listens. -/
def report (listener : Option (Float → Report)) (part : Float) : Job Unit :=
  match listener with
  | none => pure ()
  | some f => ExceptT.lift (.report (f part) (.done ()))

/-- The value, or a failure of another kind as one of a job. -/
def ofExcept {ε α : Type} (f : ε → Failure) (r : Except ε α) : Job α :=
  ExceptT.mk (.done (r.mapError f))

end Job

/-! ## Ports -/

/-- The surroundings of a program, over a state of their own. -/
structure Port (σ : Type) where
  /-- Is there a connection? -/
  isConnected : σ → Bool
  /-- Is a job running? -/
  isBusy : σ → Bool
  /-- Note whether a job is running. -/
  setBusy : Bool → σ → σ
  /-- Take a block. -/
  write : Bytes → σ → Option Failure × σ
  /-- Let time pass. -/
  pause : Float → σ → Option Failure × σ
  /-- Hear of progress. -/
  report : Report → σ → σ

/-- **Run a program over a port.** -/
def Program.run {σ α : Type} (p : Port σ) : Program α → σ → α × σ
  | done a, s => (a, s)
  | askConnected k, s => (k (p.isConnected s)).run p s
  | askBusy k, s => (k (p.isBusy s)).run p s
  | setBusy b k, s => k.run p (p.setBusy b s)
  | write block k, s =>
    let (e, s) := p.write block s
    (k e).run p s
  | pause seconds k, s =>
    let (e, s) := p.pause seconds s
    (k e).run p s
  | report r k, s => k.run p (p.report r s)

/-- Run a job over a port. -/
def Job.runOn {σ α : Type} (job : Job α) (p : Port σ) (s : σ) : Except Failure α × σ :=
  Program.run p job.run s

theorem Program.run_bind {σ α β : Type} (p : Port σ) (x : Program α) (f : α → Program β) (s : σ) :
    (x.bind f).run p s = (f (x.run p s).1).run p (x.run p s).2 := by
  induction x generalizing s with
  | done a => rfl
  | askConnected k ih => exact ih _ _
  | askBusy k ih => exact ih _ _
  | setBusy b k ih => exact ih _
  | write block k ih => exact ih _ _
  | pause seconds k ih => exact ih _ _
  | report r k ih => exact ih _

end LabelPress.Transmission
