import LabelPress.Proofs.Transmission.Transcript

/-!
# Requests

A request is a call to a printer that has not been made yet. Each has a plan that it carries out
once it has the printer to itself, and a stream that the plan sends.

* `Request.job_eq`: a request that can be made is its plan, as a job of its own.
* `Plan.Sends`: a plan sends the beginning of a stream, and all of it if it can succeed.
* `Request.sends`: the plan of a request sends the stream of the request.
-/

namespace LabelPress.Transmission

open Wire (Bytes)

/-- A call to a printer. -/
inductive Request where
  /-- Print a bitmap. -/
  | bitmap (bitmap : Bytes) (width height : Int) (listener : Option (Float → Report))
  /-- Print copies of a bitmap. -/
  | copies (bitmap : Bytes) (width height copies : Int)
    (listener : Option (Nat → Nat → Float → Report))
  /-- Print copies of a rendered label. -/
  | label (label : RenderedLabel) (copies : Int) (listener : Option (Nat → Nat → Float → Report))
  /-- Feed paper. -/
  | feed (mm : Measure)
  /-- Print the test pattern. -/
  | test

namespace Printer

/-- The plan of a feed. -/
def feedPlan (p : Printer) (mm : Measure) : Plan :=
  match Wire.encodeFeed mm with
  | .error e => .stop (.distance e)
  | .ok data => sendPlan ⟨p.name, 0, none⟩ p.chunkSize data

/-- The stream of a label, empty if it has none. -/
def labelStream (p : Printer) (bitmap : Bytes) (width height : Int) : Bytes :=
  match Wire.encodeLabel bitmap width height p.feedMm with
  | .error _ => []
  | .ok data => data

end Printer

namespace Request

/-- The job of a request. -/
def job (p : Printer) : Request → Job Unit
  | bitmap b width height listener => p.printBitmap b width height listener
  | copies b width height n listener => p.printCopies b width height n listener
  | label l n listener => p.printLabel l n listener
  | feed mm => p.feedPaper mm
  | test => p.printTest

/-- How many copies a request asks for. -/
def count : Request → Int
  | copies _ _ _ n _ | label _ n _ => n
  | _ => 1

/-- What a request is going to do once it has the printer to itself. -/
def plan (p : Printer) : Request → Plan
  | bitmap b width height listener => p.labelPlan b width height listener
  | copies b width height n listener => p.copiesPlan b width height n.toNat listener 0 n.toNat
  | label l n listener => p.copiesPlan l.bitmap l.width l.height n.toNat listener 0 n.toNat
  | feed mm => p.feedPlan mm
  | test => p.labelPlan (Wire.testPattern maxWidth Wire.testPatternHeight) maxWidth
      Wire.testPatternHeight none

/-- **The stream of a request**: that of its label as often as it asks for, or the command to
feed. -/
def stream (p : Printer) : Request → Bytes
  | bitmap b width height _ => p.labelStream b width height
  | copies b width height n _ => (List.replicate n.toNat (p.labelStream b width height)).flatten
  | label l n _ => (List.replicate n.toNat (p.labelStream l.bitmap l.width l.height)).flatten
  | feed mm =>
    match Wire.encodeFeed mm with
    | .error _ => []
    | .ok data => data
  | test => p.labelStream (Wire.testPattern maxWidth Wire.testPatternHeight) maxWidth
      Wire.testPatternHeight

end Request

/-! ### Plans of requests -/

theorem Printer.feedPaper_eq (p : Printer) (mm : Measure) :
    p.feedPaper mm = p.exclusively ((p.feedPlan mm).job p.name) := by
  unfold Printer.feedPaper Printer.feedPlan
  cases Wire.encodeFeed mm with
  | error e => rfl
  | ok data => exact congrArg p.exclusively (sendChunked_eq ⟨p.name, 0, none⟩ p.chunkSize data)

/-- A request for copies, but fewer than one, is turned away. -/
theorem Request.job_eq (p : Printer) (request : Request) :
    request.job p =
      if request.count < 1 then throw (.copies request.count)
      else p.exclusively ((request.plan p).job p.name) := by
  cases request with
  | bitmap b width height listener =>
    exact congrArg p.exclusively (p.sendLabel_eq b width height listener)
  | copies b width height n listener =>
    simp only [job, plan, Printer.printCopies, p.sendCopies_eq]
    rfl
  | label l n listener =>
    simp only [job, plan, Printer.printLabel, Printer.printCopies, p.sendCopies_eq]
    rfl
  | feed mm => exact p.feedPaper_eq mm
  | test => exact congrArg p.exclusively (p.sendLabel_eq ..)

/-! ### The bytes of a plan -/

/-- **A plan sends a stream**: the beginning of it, and all if no step fails and it ends well. -/
structure Plan.Sends (plan : Plan) (data : Bytes) : Prop where
  isPrefix : plan.blocks.flatten <+: data
  complete : plan.ending = .ok () → plan.blocks.flatten = data

namespace Plan

theorem sends_stop (e : Failure) (data : Bytes) : (stop e).Sends data :=
  ⟨List.nil_prefix, by simp [stop]⟩

theorem sends_ofSteps (steps : List Step) :
    (ofSteps steps).Sends (steps.filterMap Step.block?).flatten :=
  ⟨List.prefix_rfl, fun _ => rfl⟩

theorem Sends.andThen {a b : Plan} {x y : Bytes} (ha : a.Sends x) (hb : b.Sends y) :
    (a.andThen b).Sends (x ++ y) := by
  obtain ⟨steps, ending⟩ := a
  cases ending with
  | ok u =>
    have hx : (steps.filterMap Step.block?).flatten = x := ha.complete rfl
    have hblocks : ((Plan.mk steps (.ok u)).andThen b).blocks.flatten = x ++ b.blocks.flatten := by
      rw [← hx]
      simp [Plan.andThen, blocks, List.filterMap_append]
    constructor
    · rw [hblocks]
      exact (List.prefix_append_right_inj x).2 hb.isPrefix
    · intro h
      rw [hblocks, hb.complete h]
  | error e =>
    constructor
    · exact ha.isPrefix.trans (List.prefix_append x y)
    · intro h
      cases h

end Plan

theorem sends_sendPlan (o : SendOptions) (size : Int) (data : Bytes) :
    (sendPlan o size data).Sends data := by
  unfold sendPlan chunks
  split_ifs with hs
  · exact Plan.sends_stop ..
  · have h := Plan.sends_ofSteps
      (sendSteps o (chunksOf size.toNat data).length data.length ⟨0, 0⟩ (chunksOf size.toNat data))
    rwa [blocks_sendSteps, flatten_chunksOf (by omega)] at h

/-- A plan that was carried out sent the beginning of its bytes. -/
theorem Performed.bytes_prefix {name : List Char} {connected : Bool} {plan : Plan}
    {r : Except Failure Unit} {log : List Happening}
    (h : Performed name connected plan.steps r log) :
    (taken log).flatten <+: plan.blocks.flatten := by
  unfold Plan.blocks
  generalize plan.steps = steps at h
  induction h with
  | nil => exact List.prefix_rfl
  | stop h => cases h <;> exact List.nil_prefix
  | @cons step steps r log h ih =>
    cases step with
    | send at_ count block => exact (List.prefix_append_right_inj block).2 ih
    | pause seconds => exact ih
    | report r => exact ih

theorem Performed.bytes_eq {name : List Char} {connected : Bool} {plan : Plan}
    {log : List Happening} (h : Performed name connected plan.steps (.ok ()) log) :
    (taken log).flatten = plan.blocks.flatten := by
  rw [h.of_ok, taken_happening, Plan.blocks]

namespace Printer
variable (p : Printer) (bitmap : Bytes) (width height : Int)

theorem sends_labelPlan (listener : Option (Float → Report)) :
    (p.labelPlan bitmap width height listener).Sends (p.labelStream bitmap width height) := by
  unfold labelPlan labelStream
  cases Wire.encodeLabel bitmap width height p.feedMm with
  | error e => exact Plan.sends_stop ..
  | ok data =>
    have h := (Plan.sends_ofSteps (reportSteps listener 0)).andThen
      ((sends_sendPlan ⟨p.name, p.chunkDelay, listener⟩ p.chunkSize data).andThen
        (Plan.sends_ofSteps (reportSteps listener 1)))
    simpa using h

theorem sends_copiesPlan (total : Nat) (listener : Option (Nat → Nat → Float → Report))
    (index n : Nat) :
    (p.copiesPlan bitmap width height total listener index n).Sends
      (List.replicate n (p.labelStream bitmap width height)).flatten := by
  induction n generalizing index with
  | zero => exact Plan.sends_ofSteps []
  | succ n ih =>
    have hpause := Plan.sends_ofSteps (if n = 0 then [] else pauseSteps p.copyDelay)
    rw [blocks_pauseSteps] at hpause
    exact (p.sends_labelPlan bitmap width height _).andThen (hpause.andThen (ih (index + 1)))

end Printer

/-- **The plan of a request sends its stream.** -/
theorem Request.sends (p : Printer) (request : Request) :
    (request.plan p).Sends (request.stream p) := by
  cases request with
  | bitmap b width height listener => exact p.sends_labelPlan ..
  | copies b width height n listener => exact p.sends_copiesPlan ..
  | label l n listener => exact p.sends_copiesPlan ..
  | feed mm =>
    simp only [plan, stream, Printer.feedPlan]
    cases Wire.encodeFeed mm with
    | error e => exact Plan.sends_stop ..
    | ok data => exact sends_sendPlan ..
  | test =>
    simp only [plan, stream]
    exact p.sends_labelPlan _ _ _ none

end LabelPress.Transmission
