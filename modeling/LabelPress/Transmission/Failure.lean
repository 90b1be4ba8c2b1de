import LabelPress.Config.Verdict
import LabelPress.Label.Render
import LabelPress.Wire.Raster

/-!
# What goes wrong on the way to the printer

A port refuses a block or loses its connection; a job adds where in the stream that was. Other
failures concern the job itself.

* `PortFault`: what a port says.
* `TransportError`: what a job says about its port, with `TransportError.position?`.
* `Failure`: every way in which a job ends early.
-/

namespace LabelPress.Transmission

/-- What a port says when it does not take a block or does not open. -/
inductive PortFault where
  /-- There is no connection. -/
  | notConnected (what : List Char)
  /-- The operation failed. -/
  | failed (what : List Char)
deriving Repr, DecidableEq

/-- The wording of a port. -/
def PortFault.message : PortFault → List Char
  | notConnected what => what
  | failed what => what

/-- Where a stream was cut: the number of its chunk and of its byte. -/
structure Position where
  /-- How many chunks were sent before. -/
  chunk : Nat
  /-- How many bytes were sent before. -/
  offset : Nat
deriving Repr, DecidableEq

/-- What a job says about its port. -/
inductive TransportError where
  /-- What the port said. -/
  | port (fault : PortFault)
  /-- The printer was not connected when the job began. -/
  | printerNotConnected
  /-- The connection was gone before a chunk. -/
  | lost (name : List Char) (at_ : Position)
  /-- The port did not take a chunk, one of `count`. -/
  | refused (at_ : Position) (count : Nat) (cause : List Char)
deriving Repr, DecidableEq

namespace TransportError

/-- The wording of a failure. -/
def message : TransportError → List Char
  | port fault => fault.message
  | printerNotConnected => "Printer not connected".toList
  | lost name p =>
    "Transport ".toList ++ name ++ s!" disconnected at chunk {p.chunk} (byte {p.offset})".toList
  | refused p count cause =>
    s!"Write failed at chunk {p.chunk + 1}/{count} (byte {p.offset}): ".toList ++ cause

/-- Is it a missing connection? -/
def isNotConnected : TransportError → Bool
  | port (.notConnected _) | printerNotConnected | lost .. => true
  | _ => false

/-- Where the stream was cut, if a stream was. -/
def position? : TransportError → Option Position
  | lost _ p | refused p .. => some p
  | _ => none

end TransportError

/-- Why a job ends early. -/
inductive Failure where
  /-- The port. -/
  | transport (e : TransportError)
  /-- The system, in its own words. -/
  | system (what : List Char)
  /-- The target is nothing that can be asked for a connection. -/
  | unaskable (what : List Char)
  /-- The job paused and never goes on. -/
  | endless
  /-- The job was cancelled while it paused. -/
  | cancelled
  /-- Another job is running. -/
  | busy (name : List Char)
  /-- Fewer than one copy. -/
  | copies (n : Int)
  /-- Chunks of no bytes. -/
  | chunkSize (n : Int)
  /-- The label has no stream. -/
  | encoding (e : Wire.WireError)
  /-- The distance cannot be reckoned. -/
  | distance (e : ArithmeticError)
  /-- The label has no dimensions. -/
  | dimensions (issues : List Config.Issue)
  /-- The label cannot be rendered. -/
  | rendering (e : RenderError)
deriving Repr, DecidableEq

/-- The wording of a failure. -/
def Failure.message : Failure → List Char
  | transport e => e.message
  | system what | unaskable what => what
  | endless | cancelled | dimensions _ => []
  | busy name => "Printer ".toList ++ name ++ " is busy".toList
  | copies n => s!"copies must be at least 1, got {n}".toList
  | chunkSize n => s!"chunk_size must be positive, got {n}".toList
  | encoding e => e.message.toList
  | distance e => e.message.toList
  | rendering e => e.message.toList

end LabelPress.Transmission
