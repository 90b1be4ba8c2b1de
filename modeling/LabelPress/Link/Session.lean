import LabelPress.Link.Basic

/-!
# Sessions

A session is a list of steps at a link: connecting, writing, sending a stream in chunks, and steps
done while connected. Each step is recorded with how it ended and whether the link is connected
afterwards. A step that never ends is the last one.

* `LinkStep`: the steps.
* `Link.perform`: a step, recorded.
-/

namespace LabelPress

open Transmission
open Wire (Bytes)

/-- A step of a session. -/
inductive LinkStep where
  /-- Connect. -/
  | connect
  /-- Disconnect. -/
  | disconnect
  /-- Write a block. -/
  | write (block : Bytes)
  /-- Send a stream in chunks of a size, with a delay between them. -/
  | send (data : Bytes) (size : Int) (delay : Float) (listener : Option (Float → Report))
  /-- Connect, do steps, and disconnect. -/
  | within (steps : List LinkStep)
  /-- The device goes away. -/
  | lose

/-- The name of a step. -/
def LinkStep.name : LinkStep → List Char
  | connect => "connect".toList
  | disconnect => "disconnect".toList
  | write _ => "write".toList
  | send .. => "send".toList
  | within _ => "with".toList
  | lose => "lose".toList

namespace Link

/-- Record how a step ended, if it did. -/
def conclude (r : Except Failure Unit) (l : Link) : Link :=
  if l.waiting then l
  else
    let l := l.note (.outcome r)
    l.note (.status l.isConnected)

mutual

/-- **A step**, recorded. `name` is what the link is called in failures. -/
def perform (name : List Char) : LinkStep → Link → Link
  | .connect, l =>
    let (r, l) := (l.note (.step LinkStep.connect.name)).connect
    l.conclude r
  | .disconnect, l =>
    let (r, l) := (l.note (.step LinkStep.disconnect.name)).disconnect
    l.conclude r
  | .write block, l =>
    let (r, l) := (Job.write block).runOn port (l.note (.step (LinkStep.write block).name))
    l.conclude r
  | .send data size delay listener, l =>
    let (r, l) := (sendChunked ⟨name, delay, listener⟩ size data).runOn port
      (l.note (.step (LinkStep.send data size delay listener).name))
    l.conclude r
  | .within steps, l =>
    let (r, l) := (l.note (.step (LinkStep.within steps).name)).whileConnected fun l =>
      (.ok (), performAll name steps l)
    l.conclude r
  | .lose, l =>
    let l := (l.note (.step LinkStep.lose.name)).lose
    l.note (.status l.isConnected)

/-- Steps in turn, until one does not end. -/
def performAll (name : List Char) : List LinkStep → Link → Link
  | [], l => l
  | step :: steps, l =>
    let l := perform name step l
    if l.waiting then l else performAll name steps l

end

end Link

end LabelPress
