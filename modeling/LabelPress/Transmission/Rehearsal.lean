import LabelPress.Transmission.Printer

/-!
# Rehearsals

A rehearsal runs jobs over a port that keeps a record of what happens and misbehaves as a script
says: it refuses certain writes, drops the connection after some of them or during a pause, cancels
a pause, or lets another call reach the printer while a block is being written.

* `Script`: how the port misbehaves.
* `Script.port`: the port.
* `Script.rehearse`: calls to the printer, each with its outcome and the printer's state after it.
-/

namespace LabelPress.Transmission

open Wire (Bytes)

/-- A call to the printer or to its port. -/
inductive Call where
  /-- Connect the port. -/
  | connect
  /-- Disconnect the port. -/
  | disconnect
  /-- Do a job, called by a name, or fail to make one. -/
  | job (name : List Char) (job : Except Failure (Job Unit))

/-- The name of a call. -/
def Call.name : Call → List Char
  | connect => "connect".toList
  | disconnect => "disconnect".toList
  | job name _ => name

/-- What is recorded. -/
inductive Event where
  /-- A call begins. -/
  | call (name : List Char)
  /-- The port was connected. -/
  | connected
  /-- The port was disconnected. -/
  | disconnected
  /-- A block was taken. -/
  | written (block : Bytes)
  /-- A pause began. -/
  | paused (seconds : Float)
  /-- Progress was reported. -/
  | reported (r : Report)
  /-- How a call ended. -/
  | outcome (r : Except Failure Unit)
  /-- Whether a job was running and the port connected after a call. -/
  | status (busy connected : Bool)

/-- How a port misbehaves. Writes and pauses are counted from zero, refused ones too. -/
structure Script where
  /-- The port's name. -/
  name : List Char := "mock".toList
  /-- Is it connected at first? -/
  connected : Bool := true
  /-- The writes that fail. -/
  failAt : List Int := []
  /-- The writes that find the port unplugged. -/
  unplugAt : List Int := []
  /-- The writes that the system refuses. -/
  refuseAt : List Int := []
  /-- The connection is gone after so many writes. -/
  dropAfter : Option Int := none
  /-- The pause during which the connection is lost. -/
  dropAtPause : Option Int := none
  /-- The pause that is cancelled. -/
  cancelAtPause : Option Int := none
  /-- Calls that reach the printer during a write. -/
  calls : List (Int × Call) := []

/-- The state of a rehearsal. -/
structure Stage where
  /-- Is the port connected? -/
  connected : Bool
  /-- Is a job running? -/
  busy : Bool := false
  /-- How many writes were begun. -/
  writes : Nat := 0
  /-- How many pauses were begun. -/
  pauses : Nat := 0
  /-- What happened, the last first. -/
  record : List Event := []

namespace Stage

/-- Record an event. -/
def note (s : Stage) (e : Event) : Stage := { s with record := e :: s.record }

/-- What happened, in order. -/
def events (s : Stage) : List Event := s.record.reverse

end Stage

/-- A failure of the port. -/
def portFailure (fault : PortFault) : Failure := .transport (.port fault)

namespace Script

/-- The stage at the beginning. -/
def stage (script : Script) : Stage := { connected := script.connected }

/-- What becomes of a block once the calls that reach the printer meanwhile are done. -/
def settle (script : Script) (index : Nat) (block : Bytes) (s : Stage) : Option Failure × Stage :=
  let i : Int := index
  if i ∈ script.failAt then
    (some (portFailure (.failed "simulated write failure".toList)), s)
  else if i ∈ script.unplugAt then
    (some (portFailure (.notConnected "unplugged".toList)), s)
  else if i ∈ script.refuseAt then (some (.system "raw os error".toList), s)
  else
    let s := s.note (.written block)
    let dropped := script.dropAfter.any fun n => decide (n ≤ (s.writes : Int))
    (none, if dropped then { s with connected := false } else s)

/-- What a call answers to whatever it is part of: a failure, if it was never made. -/
abbrev Response := Option Failure × Stage

/-- Take a block, with `respond` for the calls that reach the printer meanwhile. -/
def write (script : Script) (respond : Call → Stage → Response) (block : Bytes) (s : Stage) :
    Option Failure × Stage :=
  if !s.connected then
    (some (portFailure (.notConnected "mock not connected".toList)), s)
  else
    let index := s.writes
    let s := { s with writes := index + 1 }
    let (fault, s) := match script.calls.lookup (index : Int) with
      | some call => respond call s
      | none => (none, s)
    match fault with
    | some e => (some e, s)
    | none => script.settle index block s

/-- Let time pass. -/
def pause (script : Script) (seconds : Float) (s : Stage) : Option Failure × Stage :=
  let index : Int := s.pauses
  let s := { s.note (.paused seconds) with pauses := s.pauses + 1 }
  let s := if script.dropAtPause = some index then { s with connected := false } else s
  (if script.cancelAtPause = some index then some .cancelled else none, s)

/-- The port, with `respond` for the calls that reach the printer during a write. -/
def portWith (script : Script) (respond : Call → Stage → Response) : Port Stage where
  isConnected s := s.connected
  isBusy s := s.busy
  setBusy b s := { s with busy := b }
  write := script.write respond
  pause := script.pause
  report r s := s.note (.reported r)

/-- What a call asks for, if it can be made. -/
def act (port : Port Stage) : Call → Except Failure (Stage → Except Failure Unit × Stage)
  | .connect => .ok fun s => (.ok (), { s.note .connected with connected := true })
  | .disconnect => .ok fun s => (.ok (), { s.note .disconnected with connected := false })
  | .job _ job => job.map fun job => job.runOn port

/-- A call over a port, recorded. One that cannot be made has no outcome of its own. -/
def performOn (port : Port Stage) (call : Call) (s : Stage) : Response :=
  let s := s.note (.call call.name)
  match act port call with
  | .error e => (some e, s)
  | .ok work =>
    let (r, s) := work s
    let s := s.note (.outcome r)
    (none, s.note (.status s.busy s.connected))

/-- The port; calls during a write may be nested `depth` times. -/
def portTo (script : Script) : Nat → Port Stage
  | 0 => script.portWith fun _ s => (none, s)
  | depth + 1 => script.portWith (performOn (script.portTo depth))

/-- **The port of a script.** Each write is counted once, so calls nest no deeper than there are. -/
def port (script : Script) : Port Stage := script.portTo script.calls.length

/-- **Calls to the printer in turn**, each recorded with its outcome; one that cannot be made ends
the rehearsal. -/
def rehearse (script : Script) : List Call → Stage → Except Failure Stage
  | [], s => .ok s
  | call :: calls, s =>
    match performOn script.port call s with
    | (some e, _) => .error e
    | (none, s) => script.rehearse calls s

end Script

end LabelPress.Transmission
