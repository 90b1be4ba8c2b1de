import LabelPress.Link.Session
import LabelPress.Proofs.Link.Exchange

/-!
# Sessions, step by step

Every step of a session is made of three operations: connecting, disconnecting, and an exchange that
neither opens nor closes the link. So what these keep, the session keeps, at each of its moments.

* `Link.Reaches`: a session comes to a step, perhaps inside another one, at a state of the link.
* `Kept`: what exchanges and closings keep.
* `performAll_keeps`, `Reaches.keeps`: what a session keeps if it keeps it each time it connects.
* `Reaches.record_suffix`: nothing is struck from the record.
-/

namespace LabelPress

open Transmission
open Wire (Bytes)

/-- Does a step begin by connecting? -/
def LinkStep.seeks : LinkStep → Bool
  | connect | within _ => true
  | _ => false

namespace Link

/-! ### Sessions -/

theorem passes_conclude (r : Except Failure Unit) (l : Link) : l.Passes [] (l.conclude r) := by
  unfold conclude
  split_ifs
  · exact .refl l
  · exact (Passes.note l (e := .outcome r) rfl rfl nofun).trans (Passes.note _ rfl rfl nofun)

theorem passes_begin (step : LinkStep) (l : Link) : l.Passes [] (l.note (.step step.name)) :=
  .note l rfl rfl nofun

theorem passes_lose (l : Link) : l.Passes [] l.lose := { Passes.refl l with }

/-- Steps inside another one do not fail it, since each is recorded with its failure. -/
theorem perform_within (name : List Char) (inside : List LinkStep) (l : Link) :
    perform name (.within inside) l =
      ((l.note (.step (LinkStep.within inside).name)).whileConnected fun k =>
        (.ok (), performAll name inside k)).2.conclude
      ((l.note (.step (LinkStep.within inside).name)).whileConnected fun k =>
        (.ok (), performAll name inside k)).1 := by
  rw [perform]

/-- A session goes on after a step that ends. -/
theorem performAll_cons (name : List Char) (step : LinkStep) (steps : List LinkStep) (l : Link) :
    performAll name (step :: steps) l =
      if (perform name step l).waiting then perform name step l
      else performAll name steps (perform name step l) := by
  rw [performAll]

/-- **A session comes to a step**, perhaps inside another one, at a state of the link. -/
inductive Reaches (name : List Char) : List LinkStep → Link → LinkStep → Link → Prop
  | now {step : LinkStep} {steps : List LinkStep} {l : Link} :
    Reaches name (step :: steps) l step l
  | inside {inner steps : List LinkStep} {l k m : Link} {step : LinkStep}
    (hconnect : (l.note (.step (LinkStep.within inner).name)).connect = (.ok (), k))
    (h : Reaches name inner k step m) : Reaches name (.within inner :: steps) l step m
  | later {first step : LinkStep} {steps : List LinkStep} {l m : Link}
    (hends : (perform name first l).waiting = false)
    (h : Reaches name steps (perform name first l) step m) : Reaches name (first :: steps) l step m

/-- **What exchanges and closings keep.** -/
structure Kept (P : Link → Prop) : Prop where
  passes : ∀ {l m : Link} {blocks : List Bytes}, P l → l.Passes blocks m → P m
  disconnect : ∀ {l : Link}, P l → P l.disconnect.2

/-- A session keeps it, too, each time that it connects. -/
def KeptConnecting (P : Link → Prop) (name : List Char) (steps : List LinkStep) (l : Link) : Prop :=
  ∀ step m, Reaches name steps l step m → step.seeks = true → P m →
    P (m.note (.step step.name)).connect.2

section Kept
variable {P : Link → Prop} {name : List Char} {step : LinkStep} {steps : List LinkStep}
variable {l : Link}

theorem KeptConnecting.first (h : KeptConnecting P name (step :: steps) l) :
    KeptConnecting P name [step] l := by
  intro found m hreach hseeks
  refine h found m ?_ hseeks
  cases hreach with
  | now => exact .now
  | inside hconnect hreach => exact .inside hconnect hreach
  | later hends hreach => cases hreach

theorem KeptConnecting.rest (h : KeptConnecting P name (step :: steps) l)
    (hends : (perform name step l).waiting = false) :
    KeptConnecting P name steps (perform name step l) :=
  fun found m hreach => h found m (.later hends hreach)

theorem KeptConnecting.inner {k : Link} {inside : List LinkStep}
    (h : KeptConnecting P name (.within inside :: steps) l)
    (hconnect : (l.note (.step (LinkStep.within inside).name)).connect = (.ok (), k)) :
    KeptConnecting P name inside k :=
  fun found m hreach => h found m (.inside hconnect hreach)

theorem KeptConnecting.now (h : KeptConnecting P name (step :: steps) l)
    (hseeks : step.seeks = true) (hl : P l) : P (l.note (.step step.name)).connect.2 :=
  h step l .now hseeks hl

theorem Kept.conclude (hP : Kept P) (r : Except Failure Unit) (hl : P l) : P (l.conclude r) :=
  hP.passes hl (passes_conclude r l)

theorem Kept.begin (hP : Kept P) (step : LinkStep) (hl : P l) : P (l.note (.step step.name)) :=
  hP.passes hl (passes_begin step l)

/-- What is done while connected keeps it, if connecting does, and what is done. -/
theorem Kept.whileConnected (hP : Kept P) {work : Link → Except Failure Unit × Link}
    (hk : P l.connect.2) (hwork : ∀ k, l.connect = (.ok (), k) → P k → P (work k).2) :
    P (l.whileConnected work).2 := by
  rcases h : l.connect with ⟨r, k⟩
  rw [h] at hk
  cases r with
  | error e =>
    rw [whileConnected_of_refused h]
    exact hk
  | ok u =>
    have hm := hwork k h hk
    rw [whileConnected_of_connected h]
    split_ifs
    · exact hm
    · exact hP.disconnect hm

theorem Kept.runOn {α : Type} (hP : Kept P) (job : Job α) (hl : P l) : P (job.runOn port l).2 := by
  obtain ⟨r, m, log, -, hrun, hagrees⟩ := runOn_recorded_port job l
  rw [hrun]
  exact hP.passes hl hagrees.passes

-- A step can hold a session, so the two inductions are one: on the step, and on the list of steps.
mutual

theorem perform_keeps (hP : Kept P) (name : List Char) (step : LinkStep) (l : Link) (hl : P l)
    (hconnecting : KeptConnecting P name [step] l) : P (perform name step l) := by
  match step with
  | .connect => exact hP.conclude _ (hconnecting.now rfl hl)
  | .disconnect => exact hP.conclude _ (hP.disconnect (hP.begin .disconnect hl))
  | .write block => exact hP.conclude _ (hP.runOn (Job.write block) (hP.begin (.write block) hl))
  | .send data size delay listener =>
    exact hP.conclude _ (hP.runOn _ (hP.begin (.send data size delay listener) hl))
  | .lose =>
    have hlost := (passes_begin .lose l).trans (passes_lose _)
    exact hP.passes hl (hlost.trans (.note _ rfl rfl nofun))
  | .within inner =>
    -- The steps inside begin where the connecting has left the link, and only if it did not fail.
    rw [perform_within]
    exact hP.conclude _ (hP.whileConnected (hconnecting.now rfl hl) fun k h hk =>
      performAll_keeps hP name inner k hk (hconnecting.inner h))

/-- **What a session keeps**, if it keeps it each time that it connects. -/
theorem performAll_keeps (hP : Kept P) (name : List Char) (steps : List LinkStep) (l : Link)
    (hl : P l) (hconnecting : KeptConnecting P name steps l) : P (performAll name steps l) := by
  match steps with
  | [] => exact hl
  | step :: steps =>
    have hfirst := perform_keeps hP name step l hl hconnecting.first
    rw [performAll_cons]
    split_ifs with hends
    · exact hfirst
    · exact performAll_keeps hP name steps _ hfirst
        (hconnecting.rest (Bool.eq_false_of_not_eq_true hends))

end

/-- It holds at each step that the session comes to. -/
theorem Reaches.keeps (hP : Kept P) {found : LinkStep} {m : Link}
    (hreach : Reaches name steps l found m) (hl : P l)
    (hconnecting : KeptConnecting P name steps l) : P m := by
  induction hreach with
  | now => exact hl
  | inside hconnect hreach ih =>
    have hk := hconnecting.now rfl hl
    rw [hconnect] at hk
    exact ih hk (hconnecting.inner hconnect)
  | later hends hreach ih =>
    exact ih (perform_keeps hP _ _ _ hl hconnecting.first) (hconnecting.rest hends)

end Kept

/-! ### The record -/

/-- A record is only added to. -/
theorem kept_record (past : List LinkEvent) : Kept fun l => past <:+ l.record where
  passes hl h := by
    obtain ⟨new, hnew, -⟩ := h.record
    exact hnew ▸ hl.trans (List.suffix_append ..)
  disconnect {l} hl := by
    obtain ⟨new, hnew, -⟩ := l.disconnect_disconnects.record_eq
    exact hnew ▸ hl.trans (List.suffix_append ..)

theorem Connects.record_suffix {l m : Link} {r : Except Failure Unit} (h : l.Connects r m) :
    l.record <:+ m.record := by
  cases h with
  | already h => exact List.suffix_rfl
  | refused h he hpasses hm => exact (kept_record _).passes List.suffix_rfl hpasses
  | opened h hanswers hpasses =>
    exact ((kept_record _).passes List.suffix_rfl hpasses).trans (List.suffix_cons ..)

theorem keptConnecting_record (past : List LinkEvent) (name : List Char) (steps : List LinkStep)
    (l : Link) : KeptConnecting (fun l => past <:+ l.record) name steps l :=
  fun _ m _ _ hm => hm.trans ((List.suffix_cons ..).trans
    (m.note _).connect_connects.record_suffix)

theorem record_suffix_performAll (name : List Char) (steps : List LinkStep) (l : Link) :
    l.record <:+ (performAll name steps l).record :=
  performAll_keeps (kept_record l.record) name steps l List.suffix_rfl
    (keptConnecting_record _ _ _ _)

/-- What a step records of connecting stays in its record. -/
theorem record_suffix_perform (name : List Char) {step : LinkStep} (hseeks : step.seeks = true)
    (l : Link) :
    (l.note (.step step.name)).connect.2.record <:+ (perform name step l).record := by
  match step with
  | .connect => exact (kept_record _).conclude _ List.suffix_rfl
  | .within inside =>
    rw [perform_within]
    exact (kept_record _).conclude _ ((kept_record _).whileConnected List.suffix_rfl
      fun k h hk => hk.trans (record_suffix_performAll ..))

/-- What is recorded of a step stays in the record. -/
theorem perform_record_suffix (name : List Char) (step : LinkStep) (steps : List LinkStep)
    (l : Link) : (perform name step l).record <:+ (performAll name (step :: steps) l).record := by
  rw [performAll_cons]
  split_ifs
  · exact List.suffix_rfl
  · exact record_suffix_performAll ..

/-- What is recorded of what is done while connected stays in the record. -/
theorem whileConnected_record_suffix {l k : Link} (work : Link → Except Failure Unit × Link)
    (h : l.connect = (.ok (), k)) : (work k).2.record <:+ (l.whileConnected work).2.record := by
  rw [whileConnected_of_connected h]
  split_ifs
  · exact List.suffix_rfl
  · exact (kept_record _).disconnect List.suffix_rfl

/-- What is recorded of connecting, at any step that a session comes to, stays in its record. -/
theorem Reaches.record_suffix {name : List Char} {steps : List LinkStep} {l m : Link}
    {step : LinkStep} (h : Reaches name steps l step m) (hseeks : step.seeks = true) :
    (m.note (.step step.name)).connect.2.record <:+ (performAll name steps l).record := by
  induction h with
  | now => exact (record_suffix_perform name hseeks _).trans (perform_record_suffix ..)
  | @inside inner steps l k m step hconnect h ih =>
    refine (ih hseeks).trans (.trans ?_ (perform_record_suffix ..))
    rw [perform_within]
    exact (kept_record _).conclude _
      (whileConnected_record_suffix (fun k => (.ok (), performAll name inner k)) hconnect)
  | @later first step steps l m hends h ih =>
    rw [performAll_cons, if_neg (by simp [hends])]
    exact ih hseeks

end Link

end LabelPress
