import LabelPress.Config.Printer

/-!
# Links

A link is the program's end of a connection: whether it counts as connected, and whether it holds a
handle that it still has to give back. A handle outlives a failed write, and a Bluetooth device may
go away without a word, so these are separate. How the other end answers is a script, and what is
asked of it is recorded. Nobody comes back from a pause without end: the link is left as it is then.

* `Link`: the state, with `Link.connect`, `Link.disconnect` and `Link.write`.
* `Link.port`: the link as the surroundings of a job.
* `Link.whileConnected`: a job between connecting and disconnecting.
* `whileConnected_of_refused`, `whileConnected_of_connected`: what comes of such a job.
* `connect_of_isConnected`, `write_of_not_isConnected`: what is asked of the other end, if anything.
-/

namespace LabelPress

open Transmission
open Wire (Bytes)

/-- How an attempt to connect goes. -/
inductive OpenOutcome where
  /-- There is a connection. -/
  | opened
  /-- It is refused. -/
  | refused
  /-- Nobody answers in time. -/
  | timedOut
  /-- The target is nothing that can be asked for a connection. -/
  | unaskable (what : List Char)
deriving Repr, DecidableEq

/-- How a block is received. -/
inductive WriteOutcome where
  /-- It is taken. -/
  | taken
  /-- It is not taken. -/
  | refused
  /-- It is not taken, and the device goes away. -/
  | lost
deriving Repr, DecidableEq

/-- How it goes to give a handle back. -/
inductive CloseOutcome where
  /-- It is taken back. -/
  | closed
  /-- It is not, or not in good order. -/
  | failed (what : List Char)
deriving Repr, DecidableEq

/-- How a block is handed to the other end. -/
inductive Handover where
  /-- As it is. -/
  | stream
  /-- To a characteristic, with or without a response. -/
  | characteristic (id : List Char) (response : Bool)
deriving Repr, DecidableEq

/-- What is recorded. -/
inductive LinkEvent where
  /-- A step of a session begins. -/
  | step (name : List Char)
  /-- A client for a Bluetooth device was made. -/
  | client (address : List Char) (timeout : Float)
  /-- The other end was asked for a connection. -/
  | opening (target : Connection) (outcome : OpenOutcome)
  /-- A block was handed over. -/
  | written (block : Bytes) (how : Handover) (outcome : WriteOutcome)
  /-- The handle was given back. -/
  | closed
  /-- The handle was to be given back, but is still held. -/
  | retained
  /-- A pause. -/
  | paused (seconds : Float)
  /-- Progress was reported. -/
  | reported (r : Report)
  /-- How a step ended. -/
  | outcome (r : Except Failure Unit)
  /-- Whether the link is connected after a step. -/
  | status (connected : Bool)

/-- The program's end of a connection. -/
structure Link where
  /-- What it leads to. -/
  target : Connection
  /-- Does it count as connected? -/
  marked : Bool := false
  /-- Does it hold a handle? -/
  handle : Bool := false
  /-- Is the device behind the handle still there? -/
  alive : Bool := false
  /-- Is a job running? -/
  busy : Bool := false
  /-- How attempts to connect will go; after these, well. -/
  openings : List OpenOutcome := []
  /-- How blocks will be received; after these, well. -/
  receptions : List WriteOutcome := []
  /-- How it will go to give handles back; after these, well. -/
  closings : List CloseOutcome := []
  /-- Is a pause over at once, however long it is? -/
  timeless : Bool := false
  /-- Does somebody wait here for ever? -/
  waiting : Bool := false
  /-- What happened, the last first. -/
  record : List LinkEvent := []

namespace Link

/-- Record an event. -/
def note (l : Link) (e : LinkEvent) : Link := { l with record := e :: l.record }

/-- What happened, in order. -/
def events (l : Link) : List LinkEvent := l.record.reverse

/-- Is the link connected? A Bluetooth device has to be there, too. -/
def isConnected (l : Link) : Bool :=
  match l.target with
  | .bluetooth _ => l.marked && l.handle && l.alive
  | _ => l.marked

/-! ## Connecting -/

/-- Ask for a connection. -/
def knock (l : Link) : OpenOutcome × Link :=
  let outcome := l.openings.headD .opened
  let l := match l.target with
    | .bluetooth c => l.note (.client c.address c.timeout)
    | _ => l
  (outcome, { l.note (.opening l.target outcome) with openings := l.openings.tail })

/-- What comes of an attempt to connect, if there is no connection after it. -/
def openFault? : Connection → OpenOutcome → Option Failure
  | _, .opened => none
  | _, .unaskable what => some (.unaskable what)
  | .serial c, _ => some <| .transport <| .port <| .failed <|
    "Failed to open serial port ".toList ++ c.device ++ ": could not open port".toList
  | .tcp c, outcome =>
    let place := c.host ++ ':' :: (toString c.port).toList
    some <| .transport <| .port <| .failed <|
      if outcome = .timedOut then "Timeout connecting to ".toList ++ place
      else "Failed to connect to ".toList ++ place ++ ": refused".toList
  | .bluetooth c, outcome =>
    let why := if outcome = .timedOut then ": timed out" else ": device not found"
    some <| .transport <| .port <| .failed <|
      "Failed to connect to ".toList ++ c.address ++ why.toList

/-- **Connect**, unless the link is connected. -/
def connect (l : Link) : Except Failure Unit × Link :=
  if l.isConnected then (.ok (), l)
  else
    let (outcome, l) := l.knock
    match openFault? l.target outcome with
    | some e => (.error e, l)
    | none => (.ok (), { l with marked := true, handle := true, alive := true })

/-- The link without a handle. -/
def free (l : Link) : Link := { l with marked := false, handle := false, alive := false }

/-- Give the handle back. A serial port that is not closed in good order is kept; whether the others
are does not matter. -/
def release (l : Link) : Except Failure Unit × Link :=
  let outcome := l.closings.headD .closed
  let l := { l with closings := l.closings.tail }
  match l.target, outcome with
  | .serial _, .failed what => (.error (.system what), l.note .retained)
  | _, _ => (.ok (), (l.note .closed).free)

/-- **Disconnect**: give the handle back, if there is one. -/
def disconnect (l : Link) : Except Failure Unit × Link :=
  if l.handle then l.release else (.ok (), l.free)

/-- The device goes away without a word. -/
def lose (l : Link) : Link := { l with alive := false }

/-! ## Writing -/

/-- Hand a block over. -/
def hand (block : Bytes) (how : Handover) (l : Link) : WriteOutcome × Link :=
  let outcome := l.receptions.headD .taken
  let l := { l.note (.written block how outcome) with receptions := l.receptions.tail }
  (outcome, if outcome = .lost then { l with alive := false } else l)

/-- Hand a block to a stream; if it is not taken the link no longer counts as connected. -/
def writeStream (absent refusal : String) (block : Bytes) (l : Link) : Option PortFault × Link :=
  if l.marked && l.handle then
    let (outcome, l) := l.hand block .stream
    if outcome = .taken then (none, l)
    else (some (.failed refusal.toList), { l with marked := false })
  else (some (.notConnected absent.toList), l)

/-- Hand a block to a characteristic; if it is not taken without a response, then with one. -/
def writeCharacteristic (id : List Char) (block : Bytes) (l : Link) : Option PortFault × Link :=
  if l.isConnected then
    let (outcome, l) := l.hand block (.characteristic id false)
    if outcome = .taken then (none, l)
    else
      let (outcome, l) := l.hand block (.characteristic id true)
      (if outcome = .taken then none
        else some (.failed "Bluetooth write failed: not permitted".toList), l)
  else (some (.notConnected "Bluetooth device not connected".toList), l)

/-- **Write a block.** -/
def write (block : Bytes) (l : Link) : Option PortFault × Link :=
  match l.target with
  | .serial _ =>
    l.writeStream "Serial port not open" "Serial write failed: device reports readiness" block
  | .tcp _ => l.writeStream "TCP connection not open" "TCP write failed: reset" block
  | .bluetooth c => l.writeCharacteristic c.characteristic block

/-! ## Jobs -/

/-- Let time pass. -/
def pause (seconds : Float) (l : Link) : Option Failure × Link :=
  let l := l.note (.paused seconds)
  if l.timeless || (Binary64.ofFloat? seconds).isSome then (none, l)
  else (some .endless, { l with waiting := true })

/-- **The link as the surroundings of a job.** A job that waits for ever changes nothing more. -/
def port : Port Link where
  isConnected := isConnected
  isBusy l := l.busy
  setBusy b l := if l.waiting then l else { l with busy := b }
  write block l :=
    let (fault, l) := l.write block
    (fault.map fun e => .transport (.port e), l)
  pause := pause
  report r l := l.note (.reported r)

/-- **Something done while connected**; the link is disconnected at its end, however it ends. A
failure to disconnect is what is told then. -/
def whileConnected (work : Link → Except Failure Unit × Link) (l : Link) :
    Except Failure Unit × Link :=
  match l.connect with
  | (.error e, l) => (.error e, l)
  | (.ok (), l) =>
    let (r, l) := work l
    if l.waiting then (r, l)
    else
      match l.disconnect with
      | (.error e, l) => (.error e, l)
      | (.ok (), l) => (r, l)

/-- Without a connection nothing is done. -/
theorem whileConnected_of_refused {work : Link → Except Failure Unit × Link} {l k : Link}
    {e : Failure} (h : l.connect = (.error e, k)) : l.whileConnected work = (.error e, k) := by
  rw [whileConnected, h]

/-- With a connection it is done, and unless it waits for ever the link is disconnected. -/
theorem whileConnected_of_connected {work : Link → Except Failure Unit × Link} {l k : Link}
    (h : l.connect = (.ok (), k)) :
    l.whileConnected work =
      if (work k).2.waiting then work k
      else ((work k).2.disconnect.1.bind fun _ => (work k).1, (work k).2.disconnect.2) := by
  rw [whileConnected, h]
  dsimp only
  split
  · rfl
  · rcases (work k).2.disconnect with ⟨r, m⟩
    cases r <;> rfl

/-- Connecting a connected link asks nothing of the other end. -/
theorem connect_of_isConnected {l : Link} (h : l.isConnected = true) :
    l.connect = (.ok (), l) := by
  simp [connect, h]

end Link

end LabelPress
