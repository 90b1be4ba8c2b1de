import LabelPress.Proofs.Link.Exchange
import LabelPress.Proofs.Transmission.Copies
import LabelPress.Proofs.Transmission.Request

/-!
# Requests over an unused link

A request that is made while a link is connected goes in one of four ways: it asks for fewer than
one copy, it has no stream, it is cut on the way, or its stream was taken to the last byte. The
first two are decided before anything is sent. What comes of it is told only if there is a
connection, if no pause lasts for ever, and if the link takes its handle back.

* `Request.encoded`: the stream of a request, or why it has none.
* `Request.plan_of_error`, `Request.ending_plan_of_ok`: what the plan of the request makes of it.
* `Attempt`: how a request goes at a link that is connected, and `Link.attempt_job`.
* `Link.Told`: the record tells whether somebody waits for ever.
* `Link.Errand`: how a request ends over a link, from connecting to disconnecting.
* `Link.Unused.errand`: there is no other way.
-/

namespace LabelPress

open Wire (Bytes)

namespace Transmission

/-! ### Streams of requests -/

section mapError
variable {ε ε' α : Type} {f : ε → ε'} {x : Except ε α}

theorem mapError_eq_ok_iff {a : α} : x.mapError f = .ok a ↔ x = .ok a := by
  cases x <;> simp [Except.mapError]

theorem mapError_eq_error_iff {e : ε'} :
    x.mapError f = .error e ↔ ∃ e', x = .error e' ∧ f e' = e := by
  cases x <;> simp [Except.mapError]

end mapError

namespace Printer
variable {p : Printer} {bitmap : Bytes} {width height : Int}

theorem labelPlan_of_error {e : Wire.WireError}
    (h : Wire.encodeLabel bitmap width height p.feedMm = .error e)
    (listener : Option (Float → Report)) :
    p.labelPlan bitmap width height listener = .stop (.encoding e) := by
  rw [labelPlan, h]

theorem copiesPlan_of_error_of_pos {e : Wire.WireError} {n : Int}
    (h : Wire.encodeLabel bitmap width height p.feedMm = .error e) (hn : 1 ≤ n)
    (listener : Option (Nat → Nat → Float → Report)) :
    p.copiesPlan bitmap width height n.toNat listener 0 n.toNat = .stop (.encoding e) := by
  obtain ⟨k, hk⟩ := Nat.exists_eq_succ_of_ne_zero (show n.toNat ≠ 0 by omega)
  rw [hk]
  exact p.copiesPlan_of_error h ..

theorem labelStream_of_ok {data : Bytes}
    (h : Wire.encodeLabel bitmap width height p.feedMm = .ok data) :
    p.labelStream bitmap width height = data := by
  rw [labelStream, h]

end Printer

namespace Request

/-- **The stream of one copy** of what a request asks for, or why there is none. -/
def encoded (p : Printer) : Request → Except Failure Bytes
  | bitmap b width height _ | copies b width height _ _ =>
    (Wire.encodeLabel b width height p.feedMm).mapError .encoding
  | label l _ _ => (Wire.encodeLabel l.bitmap l.width l.height p.feedMm).mapError .encoding
  | feed mm => (Wire.encodeFeed mm).mapError .distance
  | test => (Wire.encodeLabel (Wire.testPattern maxWidth Wire.testPatternHeight) maxWidth
      Wire.testPatternHeight p.feedMm).mapError .encoding

variable {p : Printer} {request : Request}

theorem plan_of_error {e : Failure} (hcount : 1 ≤ request.count)
    (h : request.encoded p = .error e) : request.plan p = .stop e := by
  cases request with
  | bitmap b width height listener =>
    obtain ⟨e, he, rfl⟩ := mapError_eq_error_iff.1 h
    exact Printer.labelPlan_of_error he listener
  | copies b width height n listener =>
    obtain ⟨e, he, rfl⟩ := mapError_eq_error_iff.1 h
    exact Printer.copiesPlan_of_error_of_pos he hcount listener
  | label l n listener =>
    obtain ⟨e, he, rfl⟩ := mapError_eq_error_iff.1 h
    exact Printer.copiesPlan_of_error_of_pos he hcount listener
  | feed mm =>
    obtain ⟨e, he, rfl⟩ := mapError_eq_error_iff.1 h
    rw [plan, Printer.feedPlan, he]
  | test =>
    rw [encoded, mapError_eq_error_iff] at h
    obtain ⟨e, he, rfl⟩ := h
    rw [plan, Printer.labelPlan_of_error he]

theorem ending_plan_of_ok {data : Bytes} (hs : 0 < p.chunkSize)
    (h : request.encoded p = .ok data) : (request.plan p).ending = .ok () := by
  cases request with
  | bitmap b width height listener =>
    rw [plan, p.labelPlan_eq hs (mapError_eq_ok_iff.1 h)]
    rfl
  | copies b width height n listener =>
    rw [plan, p.copiesPlan_eq hs (mapError_eq_ok_iff.1 h)]
    rfl
  | label l n listener =>
    rw [plan, p.copiesPlan_eq hs (mapError_eq_ok_iff.1 h)]
    rfl
  | feed mm =>
    rw [plan, Printer.feedPlan, mapError_eq_ok_iff.1 h]
    exact congrArg Plan.ending (sendPlan_eq hs data)
  | test =>
    rw [encoded, mapError_eq_ok_iff] at h
    rw [plan, p.labelPlan_eq hs h]
    rfl

/-- The stream of a request is that of one copy, as often as it asks for. -/
theorem stream_of_ok {data : Bytes} (h : request.encoded p = .ok data) :
    request.stream p = (List.replicate request.count.toNat data).flatten := by
  have hone : (List.replicate (1 : Int).toNat data).flatten = data := by simp
  cases request with
  | bitmap b width height listener =>
    exact (Printer.labelStream_of_ok (mapError_eq_ok_iff.1 h)).trans hone.symm
  | copies b width height n listener =>
    rw [stream, Printer.labelStream_of_ok (mapError_eq_ok_iff.1 h)]
    rfl
  | label l n listener =>
    rw [stream, Printer.labelStream_of_ok (mapError_eq_ok_iff.1 h)]
    rfl
  | feed mm =>
    rw [stream, mapError_eq_ok_iff.1 h]
    exact hone.symm
  | test =>
    rw [encoded, mapError_eq_ok_iff] at h
    rw [stream, Printer.labelStream_of_ok h]
    exact hone.symm

end Request

/-! ### Requests at a connected link -/

/-- **How a request goes** at a link that is connected, and the blocks that are taken. -/
inductive Attempt (p : Printer) (request : Request) : Except Failure Unit → List Bytes → Prop
  /-- It asks for fewer than one copy. -/
  | tooFew (hcount : request.count < 1) : Attempt p request (.error (.copies request.count)) []
  /-- It has no stream. -/
  | unencoded {e : Failure} (hcount : 1 ≤ request.count) (he : request.encoded p = .error e) :
    Attempt p request (.error e) []
  /-- The link fails on the way, or a pause does not end. -/
  | cut {e : Failure} {data : Bytes} {blocks : List Bytes} (hcount : 1 ≤ request.count)
    (hdata : request.encoded p = .ok data) (he : Link.Breaks (request.plan p).steps e) :
    Attempt p request (.error e) blocks
  /-- Every byte is taken. -/
  | delivered {data : Bytes} {blocks : List Bytes} (hcount : 1 ≤ request.count)
    (hdata : request.encoded p = .ok data)
    (htaken : blocks.flatten = (List.replicate request.count.toNat data).flatten) :
    Attempt p request (.ok ()) blocks

theorem Request.encoded_ne_endless (p : Printer) (request : Request) :
    request.encoded p ≠ .error .endless := by
  cases request <;> simp [Request.encoded, mapError_eq_error_iff]

end Transmission

namespace Link

open Transmission

/-- The plan of a request, at a link. -/
theorem attempt_plan (l : Link) {p : Printer} (request : Request) (hs : 0 < p.chunkSize)
    (hcount : 1 ≤ request.count) :
    ∃ r m log, ((request.plan p).job p.name).runOn port l = (r, m) ∧ l.Agrees log m ∧
      Attempt p request r (taken log) ∧ (r = .error .endless ↔ Waits log) := by
  obtain ⟨r, m, log, hrecorded, hrun, hagrees⟩ :=
    runOn_recorded_port ((request.plan p).job p.name) l
  obtain ⟨steps, m', log', hplan, hperformed⟩ := Plan.job_runOn port p.name (request.plan p) l []
  rw [hrecorded, List.nil_append] at hplan
  cases hplan
  refine ⟨_, m, log, hrun, hagrees, ?_⟩
  cases hencoded : request.encoded p with
  | error e =>
    have hends : e ≠ .endless := fun h => request.encoded_ne_endless p (h ▸ hencoded)
    rw [Request.plan_of_error hcount hencoded] at hperformed ⊢
    cases hperformed
    exact ⟨.unencoded hcount hencoded, by simp [Waits, Plan.stop, afterSteps, hends]⟩
  | ok data =>
    obtain ⟨hbreaks, hwaits⟩ := breaks_of_performed hperformed hagrees.happens
    rw [Request.ending_plan_of_ok hs hencoded, afterSteps_ok]
    refine ⟨?_, hwaits⟩
    cases steps with
    | error e => exact .cut hcount hencoded (hbreaks e rfl)
    | ok u =>
      refine .delivered hcount hencoded ?_
      rw [hperformed.bytes_eq, (Request.sends p request).complete
        (Request.ending_plan_of_ok hs hencoded), Request.stream_of_ok hencoded]

/-- **A request at a connected link** that nobody else is at. -/
theorem attempt_job {l : Link} {p : Printer} (request : Request) (hs : 0 < p.chunkSize)
    (hconnected : l.isConnected = true) (hbusy : l.busy = false) :
    ∃ r m log, (request.job p).runOn port l = (r, m) ∧ l.Agrees log m ∧
      Attempt p request r (taken log) ∧ (r = .error .endless ↔ Waits log) := by
  rw [Request.job_eq]
  by_cases hcount : request.count < 1
  · rw [if_pos hcount]
    exact ⟨_, l, [], rfl, .refl l, .tooFew hcount, by simp [Waits]⟩
  · obtain ⟨r, m, log, hrun, hagrees, hattempt⟩ :=
      attempt_plan (port.setBusy true l) request hs (not_lt.1 hcount)
    rw [if_neg hcount, exclusively_runOn p port hbusy hconnected, hrun]
    have htaken := (agrees_setBusy true l).trans (hagrees.trans (agrees_setBusy false m))
    rw [List.nil_append, List.append_nil] at htaken
    exact ⟨r, _, log, rfl, htaken, hattempt⟩

/-! ### From connecting to disconnecting -/

/-- **The record tells whether somebody waits for ever.** -/
structure Told (l : Link) : Prop where
  timeless : l.timeless = false
  waiting : l.waiting = true ↔ Endless l.events

theorem Unused.told {l : Link} (h : l.Unused) : l.Told :=
  ⟨h.timeless, by simp [h.waiting, events, h.record, not_endless_nil]⟩

theorem Told.passes {l m : Link} {blocks : List Bytes} (h : l.Told) (hpasses : l.Passes blocks m) :
    m.Told := by
  obtain ⟨new, hnew, -, -, hwaiting⟩ := hpasses.record
  refine ⟨hpasses.timeless.trans h.timeless, ?_⟩
  rw [hwaiting, h.waiting, events, events, endless_reverse, endless_reverse, hnew, endless_append,
    and_iff_right h.timeless, or_comm]

theorem Told.opened {l : Link} {past : List LinkEvent}
    (h : ({ l with record := past } : Link).Told) : (l.opened past).Told := by
  refine ⟨h.timeless, ?_⟩
  have hsame : (l.opened past).waiting = true ↔ Endless past.reverse := h.waiting
  rw [hsame, events, endless_reverse, endless_reverse]
  exact (endless_cons (by simp)).symm

/-- **The ways in which a request ends** over a link: how, and what happened there. -/
inductive Errand (l : Link) (p : Printer) (request : Request) :
    Except Failure Unit → List LinkEvent → Prop
  /-- There is no connection. -/
  | closed {e : Failure} {events : List LinkEvent}
    (he : openFault? l.target (l.openings.headD .opened) = some e) :
    Errand l p request (.error e) events
  /-- It waits for ever, and the link is left as it is. -/
  | waiting {events : List LinkEvent} (h : l.Answers)
    (hattempt : Attempt p request (.error .endless) (blocksTaken events)) :
    Errand l p request (.error .endless) events
  /-- It ends somehow, but the handle of the link is not taken back. -/
  | retained {r : Except Failure Unit} {what : List Char} {events : List LinkEvent}
    (h : l.Answers) (hfails : ¬l.Closes) (hr : r ≠ .error .endless)
    (hattempt : Attempt p request r (blocksTaken events)) :
    Errand l p request (.error (.system what)) events
  /-- It ends as it went. -/
  | done {r : Except Failure Unit} {events : List LinkEvent} (h : l.Answers) (hcloses : l.Closes)
    (hr : r ≠ .error .endless) (hattempt : Attempt p request r (blocksTaken events)) :
    Errand l p request r events

/-- A request that went at a link to its end: the link is disconnected then. -/
theorem errand_disconnect {l m : Link} {p : Printer} {request : Request}
    {r : Except Failure Unit} (hanswers : l.Answers) (hhandle : m.handle = true)
    (hcloses : m.Closes ↔ l.Closes) (hattempt : Attempt p request r (blocksTaken m.events))
    (hr : r ≠ .error .endless) (hends : ¬Endless m.events) :
    l.Errand p request (m.disconnect.1.bind fun _ => r) m.disconnect.2.events ∧
      ((m.disconnect.1.bind fun _ => r) = .error .endless ↔ Endless m.disconnect.2.events) := by
  have hdisconnects := m.disconnect_disconnects
  obtain ⟨hblocks, hendless⟩ := hdisconnects.events_eq
  rw [← hendless] at hends
  rw [← hblocks] at hattempt
  cases hdisconnect : m.disconnect with
  | mk r' n =>
    rw [hdisconnect] at hdisconnects hends hattempt
    cases hdisconnects with
    | free hfree =>
      rw [hhandle] at hfree
      cases hfree
    | closed _ hback =>
      exact ⟨.done hanswers (hcloses.1 hback) hr hattempt, iff_of_false hr hends⟩
    | @retained c what _ htarget hfails =>
      have hkept : ¬l.Closes := fun hback => hcloses.2 hback c what htarget hfails
      exact ⟨.retained hanswers hkept hr hattempt,
        iff_of_false (by simp [Except.bind]) hends⟩

/-- Nothing is handed over while a link is opened. -/
theorem Unused.blocksTaken_opened {l : Link} (h : l.Unused) {past : List LinkEvent}
    (hpasses : l.Passes [] { l with record := past }) :
    blocksTaken (l.opened past).events = [] := by
  have hpast := hpasses.blocksTaken_events
  rw [events, events, h.record] at hpast
  rw [events, Link.opened, List.reverse_cons, blocksTaken_append, hpast]
  rfl

/-- **A request over an unused link** ends in one of four ways, and the record tells whether it
waits for ever. -/
theorem Unused.errand {l : Link} (h : l.Unused) {p : Printer} (hs : 0 < p.chunkSize)
    (request : Request) :
    ∃ r m, l.whileConnected ((request.job p).runOn port) = (r, m) ∧
      l.Errand p request r m.events ∧ (r = .error .endless ↔ Endless m.events) := by
  have hconnects := l.connect_connects
  rcases hconnect : l.connect with ⟨r, k⟩
  rw [hconnect] at hconnects
  dsimp only at hconnects
  cases hconnects with
  | already hl =>
    rw [h.isConnected] at hl
    cases hl
  | @refused k e hl he hpasses hk hwaiting =>
    refine ⟨_, k, whileConnected_of_refused hconnect, .closed he, ?_⟩
    rw [← (h.told.passes hpasses).waiting, hwaiting, h.waiting]
    refine iff_of_false (fun hends => ?_) Bool.false_ne_true
    obtain ⟨⟨t, rfl⟩, -⟩ | ⟨⟨what, rfl⟩, -⟩ := eq_of_openFault? he <;> cases hends
  | @opened past hl hanswers hpasses =>
    -- Nobody else is at the link, since it was not used.
    obtain ⟨r, m, log, hrun, hagrees, hattempt, hwaits⟩ :=
      attempt_job request hs (isConnected_opened l past) h.busy
    have htaken : blocksTaken m.events = taken log := by
      rw [hagrees.passes.blocksTaken_events, h.blocksTaken_opened hpasses, List.nil_append]
    have hm : m.waiting = true ↔ r = .error .endless := by
      rw [hagrees.waiting, hwaits]
      exact or_iff_right (by simp [Link.opened, h.waiting])
    have htold : m.waiting = true ↔ Endless m.events :=
      ((h.told.passes hpasses).opened.passes hagrees.passes).waiting
    have hcloses : m.Closes ↔ l.Closes := by
      rw [Closes, hagrees.passes.target, hagrees.passes.closings]
      rfl
    rw [← htaken] at hattempt
    rw [whileConnected_of_connected hconnect, hrun]
    by_cases hwaiting : m.waiting = true
    · obtain rfl := hm.1 hwaiting
      rw [if_pos hwaiting]
      exact ⟨_, m, rfl, .waiting hanswers hattempt, iff_of_true rfl (htold.1 hwaiting)⟩
    · rw [if_neg hwaiting]
      exact ⟨_, _, rfl, errand_disconnect hanswers hagrees.passes.handle hcloses hattempt
        (mt hm.2 hwaiting) (mt htold.2 hwaiting)⟩

end Link

end LabelPress
