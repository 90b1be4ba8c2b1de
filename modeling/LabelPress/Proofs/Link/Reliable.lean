import LabelPress.Link.Basic
import LabelPress.Proofs.Transmission.Transcript

/-! # Reliable links

A link is reliable if its other end answers every attempt to connect, takes every block, and takes
back every handle. Over such a link nothing but a pause without end keeps a job from its end, so the
record of a job is the list of its steps up to such a pause, and otherwise of all of them, between
one opening and one closing.

* `Passing`: a time that passes; `Step.ends` and `begun` tell which steps of a list are begun.
* `Link.Reliable`, `Link.Serving`: a new link of this kind, and what it is while it is connected.
* `Step.event`: what a step leaves in the record.
* `perform_runOn_serving`: what steps leave.
* `Reliable.whileConnected_exclusively`: a job of its own, from the opening to the closing.
* `visit`: the record of such a job; it holds one opening, one closing if the job ends, and the
  blocks of the steps that were begun. -/

namespace LabelPress

open Transmission
open Wire (Bytes)

/-! ### Pauses -/

/-- A time that passes. -/
def Passing (seconds : Float) : Prop := ∃ q, Binary64.ofFloat? seconds = some q

theorem isSome_ofFloat?_iff {seconds : Float} :
    (Binary64.ofFloat? seconds).isSome = true ↔ Passing seconds := Option.isSome_iff_exists

namespace Transmission

/-- Does a step end, if nothing fails? -/
def Step.ends : Step → Bool
  | pause seconds => (Binary64.ofFloat? seconds).isSome
  | _ => true

/-- **The steps that are begun**: those up to the first one that does not end. -/
def begun : List Step → List Step
  | [] => []
  | step :: steps => step :: if step.ends then begun steps else []

theorem begun_eq_self {steps : List Step} (h : steps.all Step.ends = true) :
    begun steps = steps := by
  induction steps with
  | nil => rfl
  | cons step steps ih =>
    rw [List.all_cons, Bool.and_eq_true] at h
    rw [begun, if_pos h.1, ih h.2]

/-- All steps end exactly if all their pauses pass. -/
theorem all_ends_iff {steps : List Step} :
    steps.all Step.ends = true ↔ ∀ seconds, .pause seconds ∈ steps → Passing seconds := by
  rw [List.all_eq_true]
  constructor
  · exact fun h seconds hmem => isSome_ofFloat?_iff.1 (h _ hmem)
  · intro h step hmem
    cases step with
    | send at_ count block => rfl
    | pause seconds => exact isSome_ofFloat?_iff.2 (h seconds hmem)
    | report r => rfl

end Transmission

/-! ### Events -/

namespace LinkEvent

/-- Was the handle given back? -/
def isClosing : LinkEvent → Bool
  | closed => true
  | _ => false

/-- The block that was handed over. -/
def block? : LinkEvent → Option Bytes
  | written block _ _ => some block
  | _ => none

end LinkEvent

namespace Link

/-- **A new link on which every operation succeeds.** -/
structure Reliable (l : Link) : Prop where
  marked : l.marked = false
  handle : l.handle = false
  busy : l.busy = false
  record : l.record = []
  timeless : l.timeless = false
  waiting : l.waiting = false
  openings : ∀ outcome ∈ l.openings, outcome = .opened
  receptions : ∀ outcome ∈ l.receptions, outcome = .taken
  closings : ∀ outcome ∈ l.closings, outcome = .closed

/-- A connected link that takes every block, and its handle back. -/
structure Serving (l : Link) : Prop where
  marked : l.marked = true
  handle : l.handle = true
  alive : l.alive = true
  timeless : l.timeless = false
  waiting : l.waiting = false
  receptions : ∀ outcome ∈ l.receptions, outcome = .taken
  closings : ∀ outcome ∈ l.closings, outcome = .closed

/-- How blocks are handed to the other end of a connection, at first. -/
def handover : Connection → Handover
  | .bluetooth c => .characteristic c.characteristic false
  | _ => .stream

/-- What connecting leaves in the record, if it succeeds. -/
def arrival : Connection → List LinkEvent
  | .bluetooth c => [.client c.address c.timeout, .opening (.bluetooth c) .opened]
  | target => [.opening target .opened]

end Link

namespace Transmission

/-- What a step leaves in the record, if it succeeds. -/
def Step.event (target : Connection) : Step → LinkEvent
  | send _ _ block => .written block (Link.handover target) .taken
  | pause seconds => .paused seconds
  | report r => .reported r

end Transmission

namespace Link

theorem headD_eq_of_forall {α : Type} {a : α} {as : List α} (h : ∀ x ∈ as, x = a) :
    as.headD a = a := by
  cases as with
  | nil => rfl
  | cons x as => exact h x List.mem_cons_self

section Serving
variable {l : Link} (h : l.Serving)
include h

theorem Serving.isConnected : l.isConnected = true := by
  unfold Link.isConnected
  split
  · simp [h.marked, h.handle, h.alive]
  · exact h.marked

/-- Only the receptions that are left and the record change. -/
theorem Serving.note_tail (e : LinkEvent) :
    ({ l.note e with receptions := l.receptions.tail } : Link).Serving :=
  { h with receptions := fun outcome hmem => h.receptions outcome (List.mem_of_mem_tail hmem) }

theorem Serving.hand_eq (block : Bytes) (how : Handover) :
    l.hand block how =
      (.taken, { l.note (.written block how .taken) with receptions := l.receptions.tail }) := by
  have htaken := headD_eq_of_forall h.receptions
  unfold hand
  rw [htaken]
  rfl

/-- A block is taken at the first attempt. -/
theorem Serving.write_eq (block : Bytes) :
    l.write block = (none, { l.note (.written block (handover l.target) .taken) with
      receptions := l.receptions.tail }) := by
  unfold write
  cases htarget : l.target with
  | serial c => simp [writeStream, h.marked, h.handle, h.hand_eq, handover]
  | tcp c => simp [writeStream, h.marked, h.handle, h.hand_eq, handover]
  | bluetooth c => simp [writeCharacteristic, h.isConnected, h.hand_eq, handover]

/-- Only what a serving link is not asked about changes. -/
theorem Serving.note (e : LinkEvent) : (l.note e).Serving := { h with }

theorem Serving.setBusy (busy : Bool) : (port.setBusy busy l).Serving ∧
    (port.setBusy busy l).target = l.target ∧ (port.setBusy busy l).record = l.record := by
  have hset : port.setBusy busy l = { l with busy } := if_neg (by simp [h.waiting])
  rw [hset]
  exact ⟨{ h with }, rfl, rfl⟩

/-- How a step ends over a link that takes every block. -/
theorem Serving.pause_eq (seconds : Float) :
    l.pause seconds = if (Binary64.ofFloat? seconds).isSome then (none, l.note (.paused seconds))
      else (some .endless, { l.note (.paused seconds) with waiting := true }) := by
  have htimeless : (l.note (.paused seconds)).timeless = false := h.timeless
  simp only [pause, htimeless, Bool.false_or]

/-- **A step succeeds** and leaves its event, unless it is a pause without end. -/
theorem Serving.step_runOn (name : List Char) (step : Step) :
    ∃ t, (step.job name).runOn port l = (if step.ends then .ok () else .error .endless, t) ∧
      (if step.ends then t.Serving else t.waiting = true) ∧ t.target = l.target ∧
      t.record = step.event l.target :: l.record := by
  cases step with
  | send at_ count block =>
    have hconnected : port.isConnected l = true := h.isConnected
    have hwrite : port.write block l = (none, { l.note (.written block (handover l.target) .taken)
        with receptions := l.receptions.tail }) := by
      simp only [port, h.write_eq block, Option.map_none]
    refine ⟨_, ?_, h.note_tail (.written block (handover l.target) .taken), rfl, rfl⟩
    simp only [Job.runOn, Step.job, run_sendChunk, Program.run, hconnected, if_true, hwrite]
    rfl
  | pause seconds =>
    have hrun : (Step.job name (.pause seconds)).runOn port l =
        (Job.ofAnswer (l.pause seconds).1, (l.pause seconds).2) := rfl
    rw [hrun, h.pause_eq]
    unfold Step.ends
    split_ifs
    · exact ⟨_, rfl, h.note _, rfl, rfl⟩
    · exact ⟨_, rfl, rfl, rfl, rfl⟩
  | report r => exact ⟨l.note (.reported r), rfl, h.note _, rfl, rfl⟩

end Serving

/-- How steps end over a link that takes every block. -/
def endOf (steps : List Step) : Except Failure Unit :=
  if steps.all Step.ends then .ok () else .error .endless

/-- **Steps are carried out** at a link that takes every block, until one of them does not end. -/
theorem perform_runOn_serving (name : List Char) (steps : List Step) {l : Link} (h : l.Serving) :
    ∃ t, (Transmission.perform name steps).runOn port l = (endOf steps, t) ∧
      (if steps.all Step.ends then t.Serving else t.waiting = true) ∧
      t.target = l.target ∧
      t.record = ((begun steps).map (Step.event l.target)).reverse ++ l.record := by
  induction steps generalizing l with
  | nil => exact ⟨l, rfl, h, rfl, rfl⟩
  | cons step steps ih =>
    obtain ⟨t, hstep, ht, htarget, hrecord⟩ := h.step_runOn name step
    rw [begun]
    cases hends : step.ends with
    | false =>
      simp only [hends, Bool.false_eq_true, if_false] at hstep ht
      refine ⟨t, ?_, by simp [hends, ht], htarget, by rw [hrecord]; rfl⟩
      simp only [Transmission.perform, runOn_bind, hstep, endOf, List.all_cons, hends,
        Bool.false_and, Bool.false_eq_true, if_false]
    | true =>
      simp only [hends, if_true] at hstep ht
      obtain ⟨u, hsteps, hu, hutarget, hurecord⟩ := ih ht
      refine ⟨u, ?_, by simpa [hends] using hu, hutarget.trans htarget, ?_⟩
      · simp only [Transmission.perform, runOn_bind, hstep, hsteps, endOf, List.all_cons, hends,
          Bool.true_and]
      · rw [hurecord, htarget, hrecord, if_pos rfl, List.map_cons, List.reverse_cons,
          List.append_assoc]
        rfl

/-! ### From the opening to the closing -/

/-- **What steps leave in the record**, from the opening to the closing, if they end. -/
def visit (target : Connection) (steps : List Step) : List LinkEvent :=
  arrival target ++ (begun steps).map (Step.event target) ++
    if steps.all Step.ends then [.closed] else []

/-- A serving link takes its handle back. -/
theorem Serving.disconnect_eq {l : Link} (h : l.Serving) :
    ∃ t, l.disconnect = (.ok (), t) ∧ t.record = .closed :: l.record := by
  have hcloses := headD_eq_of_forall h.closings
  unfold disconnect release
  rw [if_pos h.handle, hcloses]
  cases l.target <;> exact ⟨_, rfl, rfl⟩

section Reliable
variable {l : Link} (h : l.Reliable)
include h

/-- The other end answers, and only the record tells. -/
theorem Reliable.knock_eq :
    ∃ t, l.knock = (.opened, t) ∧ t.target = l.target ∧ t.busy = false ∧ t.timeless = false ∧
      t.waiting = false ∧ t.receptions = l.receptions ∧ t.closings = l.closings ∧
      t.record = (arrival l.target).reverse := by
  have hopen := headD_eq_of_forall h.openings
  unfold knock
  rw [hopen]
  refine ⟨_, rfl, ?_, ?_, ?_, ?_, ?_, ?_, ?_⟩ <;> cases htarget : l.target <;>
    simp [note, htarget, h.busy, h.record, h.timeless, h.waiting, arrival]

theorem Reliable.connect_eq :
    ∃ t, l.connect = (.ok (), t) ∧ t.Serving ∧ t.busy = false ∧ t.target = l.target ∧
      t.record = (arrival l.target).reverse := by
  have hconnected : l.isConnected = false := by
    unfold Link.isConnected
    split <;> simp [h.marked]
  have hfault (target : Connection) : openFault? target .opened = none := by
    cases target <;> rfl
  obtain ⟨t, hknock, htarget, hbusy, htimeless, hwaiting, hreceptions, hclosings, hrecord⟩ :=
    h.knock_eq
  refine ⟨{ t with marked := true, handle := true, alive := true }, ?_, ?_, hbusy, htarget, hrecord⟩
  · simp [connect, hconnected, hknock, hfault]
  · exact ⟨rfl, rfl, rfl, htimeless, hwaiting, hreceptions ▸ h.receptions, hclosings ▸ h.closings⟩

/-- **A job of its own over a reliable link** ends well, unless one of its steps does not end, and
its visit is what is recorded. -/
theorem Reliable.whileConnected_exclusively (p : Printer) (steps : List Step) :
    ∃ t, l.whileConnected ((p.exclusively (Transmission.perform p.name steps)).runOn port) =
      (endOf steps, t) ∧ t.events = visit l.target steps := by
  obtain ⟨t, hconnect, ht, hbusy, htarget, hrecord⟩ := h.connect_eq
  obtain ⟨hset, hsettarget, hsetrecord⟩ := ht.setBusy true
  obtain ⟨u, hsteps, hu, -, hurecord⟩ := perform_runOn_serving p.name steps hset
  have hjob : (p.exclusively (Transmission.perform p.name steps)).runOn port t =
      (endOf steps, port.setBusy false u) := by
    rw [exclusively_runOn p port hbusy ht.isConnected, hsteps]
  rw [hsettarget, htarget, hsetrecord, hrecord] at hurecord
  rw [whileConnected_of_connected hconnect, hjob]
  dsimp only
  by_cases hends : steps.all Step.ends = true
  · rw [if_pos hends] at hu
    obtain ⟨hfree, -, hfreerecord⟩ := hu.setBusy false
    obtain ⟨v, hclose, hvrecord⟩ := hfree.disconnect_eq
    rw [hfree.waiting, if_neg Bool.false_ne_true, hclose]
    refine ⟨v, rfl, ?_⟩
    rw [events, hvrecord, hfreerecord, hurecord]
    simp [visit, hends]
  · rw [if_neg hends] at hu
    have hwaits : port.setBusy false u = u := if_pos hu
    rw [hwaits, if_pos hu]
    refine ⟨u, rfl, ?_⟩
    rw [events, hurecord]
    simp [visit, hends]

end Reliable

end Link

end LabelPress
