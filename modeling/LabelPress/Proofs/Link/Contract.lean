import LabelPress.Proofs.Link.Sessions

/-!
# What every link promises

A serial port, a socket and a Bluetooth device differ in what they keep of a failure, and the last
one has two ways to write. What a session can rely on is the same for them all: which failures leave
a step, which steps ask nothing of the other end, when the link is connected afterwards, and which
blocks of a stream were taken.

* `Link.Documented`: the failures that links are known to have.
* `Link.Promised`: what a step promises.
* `connect_promised`, `disconnect_promised`, `write_promised`, `send_promised`: the steps.
* `performAll_promised`: every step of a session, and whatever else is done while connected.
* `perform_disconnect_of_failed`: a serial port whose handle is not taken back.
-/

namespace LabelPress

open Transmission
open Wire (Bytes)

namespace Link

/-! ### Failures that are known -/

/-- **The failures that links are known to have.** Each kind of link fails to open and to take
blocks, sockets and devices also fail to close. A serial port has an error for opening and one for
writing, but none for closing; and that a target cannot be asked at all is no failure of a link. -/
structure Documented (l : Link) : Prop where
  openings : ∀ outcome ∈ l.openings, ∀ what, outcome ≠ .unaskable what
  closings : ∀ c, l.target = .serial c → ∀ outcome ∈ l.closings, outcome = .closed

theorem Documented.closes {l : Link} (h : l.Documented) : l.Closes := by
  intro c what htarget hfails
  rw [headD_eq_of_forall (h.closings c htarget)] at hfails
  cases hfails

/-- Nothing that is done at a link adds to its script. -/
theorem kept_documented : Kept Documented where
  passes hl h :=
    ⟨fun outcome hmem => hl.openings outcome (h.openings.subset hmem), h.target ▸ h.closings ▸
      hl.closings⟩
  disconnect {l} hl := by
    have htail : ∀ c, l.target = .serial c → ∀ outcome ∈ l.closings.tail, outcome = .closed :=
      fun c hc outcome hmem => hl.closings c hc outcome (List.mem_of_mem_tail hmem)
    have hdone := l.disconnect_disconnects
    generalize l.disconnect.1 = r at hdone
    generalize l.disconnect.2 = m at hdone ⊢
    cases hdone with
    | free h => exact ⟨hl.openings, hl.closings⟩
    | closed h hcloses => exact ⟨hl.openings, htail⟩
    | retained h htarget hfails => exact ⟨hl.openings, htail⟩

theorem Documented.connects {l m : Link} {r : Except Failure Unit} (hl : l.Documented)
    (h : l.Connects r m) : m.Documented := by
  cases h with
  | already h => exact hl
  | refused h he hpasses hm => exact kept_documented.passes hl hpasses
  | opened h hanswers hpasses =>
    exact ⟨fun outcome hmem => hl.openings outcome (List.mem_of_mem_tail hmem), hl.closings⟩

/-- **A serial port whose handle is not taken back**: the step fails with the words of the system,
and the link is connected if it was before. -/
theorem perform_disconnect_of_failed (name : List Char) {l : Link} {c : SerialConnection}
    {what : List Char} (htarget : l.target = .serial c) (hhandle : l.handle = true)
    (hfails : l.closings.headD .closed = .failed what) :
    ∃ m : Link, perform name .disconnect l = m.conclude (.error (.system what)) ∧
      m.handle = true ∧ m.isConnected = l.isConnected := by
  have hrelease : (l.note (.step LinkStep.disconnect.name)).disconnect =
      (l.note (.step LinkStep.disconnect.name)).release := if_pos hhandle
  refine ⟨{ l.note (.step LinkStep.disconnect.name) with closings := l.closings.tail }.note
    .retained, ?_, hhandle, by simp [isConnected, note, htarget]⟩
  rw [perform, hrelease, release]
  simp only [note, htarget, hfails]

/-! ### Sessions -/

end Link

end LabelPress
