import LabelPress.Transmission.Chunk
import LabelPress.Wire.TestPattern

/-!
# Print jobs

A printer does one job at a time: a job that begins while another runs is refused and leaves the
other alone. A job needs a connection, and however it ends the printer is free again.

* `exclusively`: a job of its own.
* `printBitmap`, `printCopies`, `printLabel`, `feedPaper`, `printTest`: the jobs.
-/

namespace LabelPress.Transmission

open Wire (Bytes)

/-- The seconds between two copies, if nothing else is said. -/
def defaultCopyDelay : Float := 0.5

/-- The millimetres of a feed, if nothing else is said. -/
def defaultFeed : Measure := .real 5

/-- How a printer is addressed and how fast it is fed. -/
structure Printer where
  /-- The name of its port. -/
  name : List Char
  /-- The bytes of a chunk. -/
  chunkSize : Int := defaultChunkSize
  /-- The seconds between two chunks. -/
  chunkDelay : Float := defaultChunkDelay
  /-- The seconds between two copies. -/
  copyDelay : Float := defaultCopyDelay
  /-- The millimetres to feed after a label. -/
  feedMm : Measure := .real Wire.defaultFeedMm
deriving Repr

namespace Printer

/-- Do something, and then, whether it failed or not, tell that no job is running. -/
def releasing {α : Type} (job : Job α) : Job α :=
  ExceptT.mk do
    let r ← job.run
    .setBusy false (.done r)

/-- **A job of its own**: refused while another one runs, and free again at its end. -/
def exclusively {α : Type} (p : Printer) (job : Job α) : Job α := do
  if ← Job.isBusy then
    throw (.busy p.name)
  if !(← Job.isConnected) then
    throw (.transport .printerNotConnected)
  Job.setBusy true
  releasing job

/-- Send a bitmap as a label. -/
def sendLabel (p : Printer) (bitmap : Bytes) (width height : Int)
    (listener : Option (Float → Report)) : Job Unit := do
  let data ← Job.ofExcept .encoding (Wire.encodeLabel bitmap width height p.feedMm)
  Job.report listener 0
  sendChunked ⟨p.name, p.chunkDelay, listener⟩ p.chunkSize data
  Job.report listener 1

/-- **Print a bitmap.** -/
def printBitmap (p : Printer) (bitmap : Bytes) (width height : Int)
    (listener : Option (Float → Report)) : Job Unit :=
  p.exclusively (p.sendLabel bitmap width height listener)

/-- Send copies `index + 1` to `index + n` of `total`, with a pause after each but the last. -/
def sendCopies (p : Printer) (bitmap : Bytes) (width height : Int) (total : Nat)
    (listener : Option (Nat → Nat → Float → Report)) : Nat → Nat → Job Unit
  | _, 0 => pure ()
  | index, n + 1 => do
    p.sendLabel bitmap width height (listener.map fun f => f (index + 1) total)
    if n ≠ 0 then
      Job.pause p.copyDelay
    p.sendCopies bitmap width height total listener (index + 1) n

/-- **Print copies of a bitmap**, at least one. -/
def printCopies (p : Printer) (bitmap : Bytes) (width height copies : Int)
    (listener : Option (Nat → Nat → Float → Report)) : Job Unit :=
  if copies < 1 then throw (.copies copies)
  else p.exclusively (p.sendCopies bitmap width height copies.toNat listener 0 copies.toNat)

/-- Print copies of a rendered label. -/
def printLabel (p : Printer) (label : RenderedLabel) (copies : Int)
    (listener : Option (Nat → Nat → Float → Report)) : Job Unit :=
  p.printCopies label.bitmap label.width label.height copies listener

/-- **Feed paper** by millimetres. -/
def feedPaper (p : Printer) (mm : Measure) : Job Unit :=
  p.exclusively do
    let data ← Job.ofExcept .distance (Wire.encodeFeed mm)
    sendChunked ⟨p.name, 0, none⟩ p.chunkSize data

/-- **Print the test pattern** over the whole width. -/
def printTest (p : Printer) : Job Unit :=
  p.printBitmap (Wire.testPattern maxWidth Wire.testPatternHeight) maxWidth Wire.testPatternHeight
    none

end Printer

end LabelPress.Transmission
