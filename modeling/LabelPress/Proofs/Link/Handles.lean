import LabelPress.Proofs.Link.Sessions

/-!
# How many connections are open

A link holds one handle at most, and gives it back when it is disconnected, unless it is that of a
serial port that cannot be closed. But a link also stops being connected when a stream refuses a
block or a device goes away, and then it still holds its handle. If it connects in that state, the
new handle takes the place of the old one, which nobody can give back any more.

* `unclosed`: how many more connections were opened than closed.
* `AtMostOneOpen`: at every moment of a record, there was one open connection at most.
* `Link.IsStale`: a link with a handle that is not connected.
* `atMostOneOpen_performAll_iff`: a session keeps to one open connection at a time exactly if it
  never connects a stale link.
-/

namespace LabelPress

open Transmission
open Wire (Bytes)

/-- How many more connections were opened than closed. -/
def unclosed (record : List LinkEvent) : Int :=
  (record.countP LinkEvent.isOpened : Int) - record.countP LinkEvent.isClosing

/-- **At every moment there was one open connection at most.** The record has the last event first,
so what was recorded at a moment is a suffix of it. -/
def AtMostOneOpen (record : List LinkEvent) : Prop :=
  ∀ past, past <:+ record → unclosed past ≤ 1

theorem unclosed_cons (e : LinkEvent) (record : List LinkEvent) :
    unclosed (e :: record) =
      unclosed record + (if e.isOpened then 1 else 0) - if e.isClosing then 1 else 0 := by
  simp only [unclosed, List.countP_cons]
  split <;> split <;> push_cast <;> omega

theorem unclosed_quiet {new : List LinkEvent} (h : ∀ e ∈ new, e.isQuiet = true)
    (record : List LinkEvent) : unclosed (new ++ record) = unclosed record := by
  induction new with
  | nil => rfl
  | cons e new ih =>
    obtain ⟨he, hnew⟩ := List.forall_mem_cons.1 h
    simp only [LinkEvent.isQuiet, Bool.and_eq_true, Bool.not_eq_true'] at he
    rw [List.cons_append, unclosed_cons, ih hnew, he.1, he.2]
    simp

theorem AtMostOneOpen.cons {e : LinkEvent} {record : List LinkEvent} (h : AtMostOneOpen record)
    (he : unclosed (e :: record) ≤ 1) : AtMostOneOpen (e :: record) := by
  intro past hpast
  rcases List.suffix_cons_iff.1 hpast with rfl | hpast
  · exact he
  · exact h past hpast

theorem AtMostOneOpen.quiet {new record : List LinkEvent} (h : AtMostOneOpen record)
    (hnew : ∀ e ∈ new, e.isQuiet = true) : AtMostOneOpen (new ++ record) := by
  induction new with
  | nil => exact h
  | cons e new ih =>
    refine (ih fun x hx => hnew x (List.mem_cons_of_mem e hx)).cons ?_
    rw [← List.cons_append, unclosed_quiet hnew]
    exact h record List.suffix_rfl

namespace Link

/-- The number of handles that a link holds. -/
def held (l : Link) : Int := if l.handle then 1 else 0

/-- **A stale link** holds a handle, and is not connected. -/
def IsStale (l : Link) : Prop := l.handle = true ∧ l.isConnected = false

theorem Passes.unclosed_eq {l m : Link} {blocks : List Bytes} (h : l.Passes blocks m) :
    m.held = l.held ∧ unclosed m.record = unclosed l.record := by
  obtain ⟨new, hnew, hquiet, -⟩ := h.record
  exact ⟨by rw [held, held, h.handle], by rw [hnew, unclosed_quiet hquiet]⟩

/-- Disconnecting closes the connection of the handle, or keeps both. -/
theorem Disconnects.unclosed_eq {l m : Link} {r : Except Failure Unit} (h : l.Disconnects r m) :
    unclosed m.record - m.held = unclosed l.record - l.held ∧
      unclosed m.record ≤ unclosed l.record := by
  cases h with
  | free h => simp [held, h, Link.free]
  | closed h hcloses =>
    simp [held, h, Link.free, note, unclosed_cons, LinkEvent.isOpened, LinkEvent.isClosing]
  | retained h htarget hfails =>
    simp [held, h, note, unclosed_cons, LinkEvent.isOpened, LinkEvent.isClosing]

/-- A new handle is that of a new connection. -/
theorem unclosed_opened {l : Link} {past : List LinkEvent}
    (hpasses : l.Passes [] { l with record := past }) :
    (l.opened past).held = 1 ∧ unclosed (l.opened past).record = unclosed l.record + 1 := by
  have hpast : unclosed past = unclosed l.record := hpasses.unclosed_eq.2
  refine ⟨rfl, ?_⟩
  rw [opened, unclosed_cons, hpast]
  exact Int.sub_zero _

/-! ### What always holds -/

/-- A handle that is held is that of an open connection. -/
def Covered (l : Link) : Prop := l.held ≤ unclosed l.record

theorem kept_covered : Kept Covered where
  passes hl h := by
    obtain ⟨hheld, hunclosed⟩ := h.unclosed_eq
    rw [Covered, hheld, hunclosed]
    exact hl
  disconnect {l} hl := by
    obtain ⟨hunclosed, -⟩ := l.disconnect_disconnects.unclosed_eq
    have hcovered : l.held ≤ unclosed l.record := hl
    rw [Covered]
    omega

theorem Covered.connects {l m : Link} {r : Except Failure Unit} (hl : l.Covered)
    (h : l.Connects r m) : m.Covered := by
  cases h with
  | already h => exact hl
  | refused h he hpasses hm => exact kept_covered.passes hl hpasses
  | opened h hanswers hpasses =>
    obtain ⟨hheld, hunclosed⟩ := unclosed_opened hpasses
    have hcovered : l.held ≤ unclosed l.record := hl
    have hnone : 0 ≤ l.held := by
      unfold held
      split <;> decide
    rw [Covered, hheld, hunclosed]
    omega

/-- A stale link that is connected leaves two connections open. -/
theorem Covered.two_le {l m : Link} {r : Except Failure Unit} (hl : l.Covered)
    (h : l.Connects r m) (hstale : l.IsStale) (hanswers : l.Answers) :
    2 ≤ unclosed m.record := by
  obtain ⟨hhandle, hconnected⟩ := hstale
  cases h with
  | already h =>
    rw [h] at hconnected
    cases hconnected
  | refused h he hpasses hm =>
    rw [openFault?_eq_none_iff.2 hanswers] at he
    cases he
  | opened h _ hpasses =>
    have hcovered : l.held ≤ unclosed l.record := hl
    rw [held, if_pos hhandle] at hcovered
    rw [(unclosed_opened hpasses).2]
    omega

theorem keptConnecting_covered (name : List Char) (steps : List LinkStep) (l : Link) :
    KeptConnecting Covered name steps l :=
  fun step _ _ _ hm => (kept_covered.begin step hm).connects (connect_connects _)

/-! ### What holds unless a stale link connects -/

/-- The one connection that is open is that of the handle, and there never was another one. -/
structure Tidy (l : Link) : Prop where
  record : AtMostOneOpen l.record
  unclosed : unclosed l.record = l.held

theorem kept_tidy : Kept Tidy where
  passes hl h := by
    obtain ⟨hheld, hunclosed⟩ := h.unclosed_eq
    obtain ⟨new, hnew, hquiet, -⟩ := h.record
    exact ⟨hnew ▸ hl.record.quiet hquiet, by rw [hheld, hunclosed, hl.unclosed]⟩
  disconnect {l} hl := by
    have hdone := l.disconnect_disconnects
    obtain ⟨hunclosed, hle⟩ := hdone.unclosed_eq
    have hone := hl.record l.record List.suffix_rfl
    refine ⟨?_, by rw [hl.unclosed, Int.sub_self] at hunclosed; exact Int.sub_eq_zero.1 hunclosed⟩
    obtain ⟨new, hrecord, hnew⟩ := hdone.record_eq
    rw [hrecord] at hle ⊢
    rcases hnew with rfl | rfl | rfl
    · exact hl.record
    · exact hl.record.cons (hle.trans hone)
    · exact hl.record.cons (hle.trans hone)

/-- A link that is not connected can be connected, if it is not stale. -/
theorem Tidy.connects {l m : Link} {r : Except Failure Unit} (hl : l.Tidy) (h : l.Connects r m)
    (hstale : l.IsStale → ¬l.Answers) : m.Tidy := by
  cases h with
  | already h => exact hl
  | refused h he hpasses hm => exact kept_tidy.passes hl hpasses
  | @opened past h hanswers hpasses =>
    obtain ⟨hheld, hunclosed⟩ := unclosed_opened hpasses
    have hfree : l.held = 0 := by
      have hfree : ¬ l.handle = true := fun hhandle => hstale ⟨hhandle, h⟩ hanswers
      rw [held, if_neg hfree]
    have hone : LabelPress.unclosed (l.opened past).record = 1 := by
      rw [hunclosed, hl.unclosed, hfree]
      rfl
    exact ⟨(kept_tidy.passes hl hpasses).record.cons hone.le, by rw [hone, hheld]⟩

theorem Unused.tidy {l : Link} (h : l.Unused) : l.Tidy := by
  refine ⟨?_, ?_⟩
  · intro past hpast
    rw [h.record, List.suffix_nil] at hpast
    rw [hpast]
    decide
  · rw [h.record, held, h.handle]
    rfl

/-! ### Sessions -/

/-- **A session keeps to one open connection at a time exactly if it never connects a stale link.**
-/
theorem atMostOneOpen_performAll_iff (name : List Char) (steps : List LinkStep) {l : Link}
    (h : l.Unused) :
    AtMostOneOpen (performAll name steps l).record ↔
      ∀ step m, Reaches name steps l step m → step.seeks = true → m.IsStale → ¬m.Answers := by
  constructor
  · -- The handle of a stale link is open, and once it is overwritten it stays so in the record.
    intro hone step m hreach hseeks hstale hanswers
    have hcovered : m.Covered :=
      hreach.keeps kept_covered h.tidy.unclosed.ge (keptConnecting_covered name steps l)
    have htwo := (kept_covered.begin step hcovered).two_le (connect_connects _) hstale hanswers
    have hle := hone _ (hreach.record_suffix hseeks)
    omega
  · -- Otherwise nothing but the handle is ever open.
    intro hnever
    refine (performAll_keeps kept_tidy name steps l h.tidy fun step m hreach hseeks hm => ?_).record
    exact (kept_tidy.begin step hm).connects (connect_connects _) (hnever step m hreach hseeks)

/-- A link to a press over the network that takes no block at first. -/
def reluctant : Link := { target := .tcp { host := "press".toList }, receptions := [.refused] }

/-- Such a link is left stale by a block, and connecting it again opens a second connection. -/
theorem not_atMostOneOpen_reconnected : reluctant.Unused ∧
    ¬ AtMostOneOpen
      (performAll "press".toList [.connect, .write [0], .connect] reluctant).record := by
  refine ⟨⟨rfl, rfl, rfl, rfl, rfl, rfl⟩, fun h => ?_⟩
  have hone := h _ List.suffix_rfl
  revert hone
  decide

/-- If it is disconnected in between, there is one open connection at a time. -/
theorem atMostOneOpen_performAll_iff_reluctant : reluctant.Unused ∧
    AtMostOneOpen (performAll "press".toList
      [.connect, .write [0], .disconnect, .connect] reluctant).record := by
  refine ⟨⟨rfl, rfl, rfl, rfl, rfl, rfl⟩, (atMostOneOpen_performAll_iff "press".toList _
    ⟨rfl, rfl, rfl, rfl, rfl, rfl⟩).2 fun step m hreach hseeks hstale => ?_⟩
  cases hreach with
  | now => exact absurd hstale.1 (by decide)
  | later hends hreach =>
    cases hreach with
    | now => cases hseeks
    | later hends hreach =>
      cases hreach with
      | now => cases hseeks
      | later hends hreach =>
        cases hreach with
        | now => exact absurd hstale.1 (by decide)
        | later hends hreach => cases hreach

end Link

end LabelPress
