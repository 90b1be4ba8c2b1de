import LabelPress.Proofs.Transmission.Situation
import Mathlib.Data.List.Nodup

/-!
# Interleavings

However calls to a printer are interleaved, each has the printer to itself or is turned away. What
happened is one stretch after the other, each of one call, and only the last of them can be open.

* `Stretch`: what one call did while it had the printer to itself.
* `Situation.Accounted`, `Situation.Orderly`: the invariant, kept by every move (`Orderly.move`).
* `orderly_after`: one job at a time, after any moves.
-/

namespace LabelPress.Transmission

open Wire (Bytes)

/-! ### Stretches -/

/-- What happened for call number `call` while it had the printer to itself. -/
structure Stretch where
  call : Nat
  happenings : List Happening

namespace Stretch

/-- The notes of a stretch, without those of its end. -/
def opened (x : Stretch) : List Note := .entered x.call :: x.happenings.map (.happened x.call true)

def notes (x : Stretch) : List Note := x.opened ++ [.left x.call]

/-- The bytes that a stretch sent. -/
def bytes (x : Stretch) : Bytes := (taken x.happenings).flatten

/-- **A stretch that is over**: its call carried out its plan, up to the first step that failed, and
ended. -/
def Over (p : Printer) (s : Situation) (x : Stretch) : Prop :=
  ∃ request connected r, s.calls[x.call]? = some request ∧
    Performed p.name connected (request.plan p).steps r x.happenings ∧
    (x.call, afterSteps r (request.plan p).ending) ∈ s.outcomes

/-- **A stretch that is not over**: its call did the first steps of its plan, and is the only
one that waits, in the next one. -/
def Underway (p : Printer) (s : Situation) (x : Stretch) : Prop :=
  ∃ request done step rest next, s.calls[x.call]? = some request ∧
    (request.plan p).steps = done ++ step :: rest ∧ x.happenings = done.map Step.happening ∧
    Suspended p.name (request.plan p).ending rest step next ∧ s.waiting = [(x.call, next)]

/-- **A stretch of a stream**: its bytes are the beginning of the stream of its call, and all of it
if the call ended well. -/
def OfStream (p : Printer) (s : Situation) (x : Stretch) : Prop :=
  ∃ request, s.calls[x.call]? = some request ∧ x.bytes <+: request.stream p ∧
    ((x.call, .ok ()) ∈ s.outcomes → x.bytes = request.stream p)

end Stretch

/-- Why a call can end without having had the printer to itself. -/
inductive Refusal (p : Printer) : Failure → Prop
  | busy : Refusal p (.busy p.name)
  | notConnected : Refusal p (.transport .printerNotConnected)
  | copies (n : Int) : Refusal p (.copies n)

/-- **The accounts of a printer**: the stretches of the calls that had it to themselves, those that
are over and the one that is not. -/
structure Situation.Accounted (p : Printer) (s : Situation) (past : List Stretch)
    (now : Option Stretch) : Prop where
  /-- The log is one stretch after the other. -/
  log_eq : s.log = past.flatMap Stretch.notes ++ now.toList.flatMap Stretch.opened
  /-- The printer is busy as long as a stretch is open. -/
  busy_eq : s.busy = now.isSome
  /-- The stretches stand in the order of their calls, and no call has two of them. -/
  increasing : ((past ++ now.toList).map Stretch.call).Pairwise (· < ·)
  /-- Every call ended once, but for that of the open stretch. -/
  ended : (s.outcomes.map Prod.fst ++ now.toList.map Stretch.call).Perm (List.range s.calls.length)
  settled : ∀ x ∈ past, x.Over p s
  /-- The other calls failed at once. -/
  refused : ∀ n r, (n, r) ∈ s.outcomes → n ∉ past.map Stretch.call → ∃ e, r = .error e ∧ Refusal p e

/-- **An orderly situation**: no call waits but that of the open stretch. -/
structure Situation.Orderly (p : Printer) (s : Situation) (past : List Stretch)
    (now : Option Stretch) : Prop extends s.Accounted p past now where
  waiting_eq : now = none → s.waiting = []
  underway : ∀ x ∈ now, x.Underway p s

/-- A call keeps its number. -/
theorem getElem?_of_prefix {calls more : List Request} (h : calls <+: more) {n : Nat}
    {request : Request} (hget : calls[n]? = some request) : more[n]? = some request := by
  obtain ⟨rest, rfl⟩ := h
  rw [List.getElem?_append_left (List.getElem?_eq_some_iff.1 hget).1, hget]

theorem Stretch.Over.mono {p : Printer} {s t : Situation} {x : Stretch} (h : x.Over p s)
    (hc : s.calls <+: t.calls) (ho : s.outcomes ⊆ t.outcomes) : x.Over p t := by
  obtain ⟨request, connected, r, hget, hp, hmem⟩ := h
  exact ⟨request, connected, r, getElem?_of_prefix hc hget, hp, ho hmem⟩

namespace Situation
variable {p : Printer} {s : Situation} {past : List Stretch} {now : Option Stretch} {x : Stretch}

theorem Accounted.lt_length (h : s.Accounted p past now) (hx : x ∈ past ++ now.toList) :
    x.call < s.calls.length := by
  rcases List.mem_append.1 hx with hx | hx
  · obtain ⟨request, -, -, hget, -⟩ := h.settled x hx
    exact (List.getElem?_eq_some_iff.1 hget).1
  · rw [← List.mem_range, ← h.ended.mem_iff]
    exact List.mem_append_right _ (List.mem_map_of_mem hx)

/-- A call that ends at once leaves the stretches alone. -/
theorem Accounted.refuse (h : s.Accounted p past now) (request : Request) {e : Failure}
    (he : Refusal p e) : (s.refuse request e).Accounted p past now := by
  refine ⟨h.log_eq, h.busy_eq, h.increasing, ?_, fun x hx => ?_, fun n r hr hn => ?_⟩
  · have hswap : (s.outcomes.map Prod.fst ++ [s.calls.length] ++ now.toList.map Stretch.call).Perm
        (s.outcomes.map Prod.fst ++ now.toList.map Stretch.call ++ [s.calls.length]) := by
      rw [List.append_assoc, List.append_assoc]
      exact List.perm_append_comm.append_left _
    simpa [Situation.refuse, List.range_succ] using hswap.trans (h.ended.append_right _)
  · exact (h.settled x hx).mono (List.prefix_append ..) (List.subset_append_left ..)
  · rcases List.mem_append.1 hr with hr | hr
    · exact h.refused n r hr hn
    · cases List.mem_singleton.1 hr
      exact ⟨e, rfl, he⟩

theorem Orderly.refuse (h : s.Orderly p past now) (request : Request) {e : Failure}
    (he : Refusal p e) : (s.refuse request e).Orderly p past now := by
  refine ⟨h.toAccounted.refuse request he, h.waiting_eq, fun x hx => ?_⟩
  obtain ⟨r, done, step, rest, next, hget, hrest⟩ := h.underway x hx
  exact ⟨r, done, step, rest, next, getElem?_of_prefix (List.prefix_append ..) hget, hrest⟩

/-- A call opens a stretch when the printer is free. -/
theorem Accounted.enter (h : s.Accounted p past none) (request : Request) :
    ({ s with calls := s.calls ++ [request] }.tell s.calls.length true).Accounted p past
      (some ⟨s.calls.length, []⟩) := by
  refine ⟨?_, rfl, ?_, ?_, fun x hx => ?_, h.refused⟩
  · simp [tell, h.log_eq, Stretch.opened]
  · have hlt : ∀ x ∈ past, x.call < s.calls.length := fun x hx =>
      h.lt_length (List.mem_append_left _ hx)
    have hpast := h.increasing
    simp only [Option.toList_none, List.append_nil] at hpast
    simpa [List.pairwise_append, hpast] using hlt
  · have hended := h.ended
    simp only [Option.toList_none, List.map_nil, List.append_nil] at hended
    simpa [tell, List.range_succ] using hended.append_right [s.calls.length]
  · exact (h.settled x hx).mono (List.prefix_append ..) (List.Subset.refl _)

/-- What happens for the call of the open stretch belongs to it. -/
theorem Accounted.happen (h : s.Accounted p past (some x)) (log : List Happening) :
    (s.happen x.call log).Accounted p past (some ⟨x.call, x.happenings ++ log⟩) := by
  refine ⟨?_, h.busy_eq, by simpa using h.increasing, h.ended, h.settled, h.refused⟩
  simp [Situation.happen, h.log_eq, h.busy_eq, Stretch.opened]

/-- **The end of its call closes a stretch.** -/
theorem Accounted.close (h : s.Accounted p past (some x)) {request : Request} {connected : Bool}
    {r : Except Failure Unit} (hget : s.calls[x.call]? = some request)
    (hp : Performed p.name connected (request.plan p).steps r x.happenings) :
    (s.close x.call (afterSteps r (request.plan p).ending)).Accounted p (past ++ [x]) none := by
  refine ⟨?_, rfl, ?_, ?_, fun y hy => ?_, fun n r hr hn => ?_⟩
  · simp [Situation.close, tell, finish, h.log_eq, Stretch.notes]
  · simpa using h.increasing
  · simpa [Situation.close, tell, finish] using h.ended
  · rcases List.mem_append.1 hy with hy | hy
    · exact (h.settled y hy).mono List.prefix_rfl (List.subset_append_left ..)
    · cases List.mem_singleton.1 hy
      exact ⟨request, connected, r, hget, hp, List.mem_append_right _ (List.mem_singleton.2 rfl)⟩
  · rw [List.map_append, List.mem_append, not_or] at hn
    rcases List.mem_append.1 hr with hr | hr
    · exact h.refused n r hr hn.1
    · cases List.mem_singleton.1 hr
      exact absurd (List.mem_singleton.2 rfl) hn.2

/-- Who waits is not in the accounts. -/
theorem Accounted.suspend (h : s.Accounted p past now) (n : Nat)
    (next : Program (Except Failure Unit)) : (s.suspend n next).Accounted p past now :=
  ⟨h.log_eq, h.busy_eq, h.increasing, h.ended, h.settled, h.refused⟩

theorem Accounted.wake (h : s.Accounted p past now) (n : Nat) :
    (s.wake n).Accounted p past now :=
  ⟨h.log_eq, h.busy_eq, h.increasing, h.ended, h.settled, h.refused⟩

/-- A situation without an open stretch is orderly if no call waits. -/
theorem Accounted.orderly (h : s.Accounted p past none) (hw : s.waiting = []) :
    s.Orderly p past none := by
  refine ⟨h, fun _ => hw, fun x hx => ?_⟩
  cases hx

/-- A call with the printer to itself runs on, and the situation is orderly again. -/
theorem Accounted.proceed (h : s.Accounted p past (some x)) (hw : s.waiting = [])
    {request : Request} {done todo : List Step} (hget : s.calls[x.call]? = some request)
    (hsteps : (request.plan p).steps = done ++ todo)
    (hx : x.happenings = done.map Step.happening) :
    ∃ past' now', (proceed x.call (remains p.name (request.plan p).ending todo) s).Orderly p
      past' now' := by
  obtain ⟨r, log, hp, heq⟩ | ⟨more, step, rest, next, rfl, hs, heq⟩ :=
    proceed_remains x.call p.name (request.plan p).ending todo s
  · have hall := hp.prepend done
    rw [← hsteps, ← hx] at hall
    rw [heq]
    exact ⟨_, none, ((h.happen log).close hget hall).orderly hw⟩
  · rw [heq]
    refine ⟨past, some _, (h.happen (more.map Step.happening)).suspend x.call next, by simp,
      fun y hy => ?_⟩
    cases hy
    refine ⟨request, done ++ more, step, rest, next, hget, ?_, ?_, hs, ?_⟩
    · rw [hsteps, List.append_assoc]
    · rw [hx, List.map_append]
    · change s.waiting ++ [(x.call, next)] = _
      rw [hw, List.nil_append]

/-- **Every answer** leaves an orderly situation orderly. -/
theorem Orderly.answer (h : s.Orderly p past now) (n : Nat) (failure : Option Failure) :
    ∃ past' now', (s.answer n failure).Orderly p past' now' := by
  cases now with
  | none =>
    have hsame : s.answer n failure = s := by simp [Situation.answer, h.waiting_eq rfl]
    exact ⟨past, none, by rwa [hsame]⟩
  | some x =>
    obtain ⟨request, done, step, rest, next, hget, hsteps, hx, hs, hw⟩ := h.underway x rfl
    by_cases hn : n = x.call
    · subst hn
      rw [answer_suspended hs hw]
      have hacc := (h.toAccounted.wake x.call).happen [step.answered failure]
      have hwake : (s.wake x.call).waiting = [] := by simp [wake, hw]
      cases failure with
      | none =>
        -- The step is done, and the call runs on.
        have hnext : (request.plan p).steps = done ++ [step] ++ rest := by simp [hsteps]
        have hlog : x.happenings ++ [step.happening] = (done ++ [step]).map Step.happening := by
          simp [hx]
        rw [step.answered_none] at hacc ⊢
        exact hacc.proceed hwake hget hnext hlog
      | some e =>
        -- The step failed, and the call ends with it.
        have hstop : Performed p.name s.connected (step :: rest) _ _ := .stop (hs.stops _ e)
        have hall := hstop.prepend done
        rw [← hsteps, ← hx] at hall
        exact ⟨_, none, (hacc.close hget hall).orderly hwake⟩
    · -- No other call waits, so the answer reaches none.
      have hlookup : s.waiting.lookup n = none := by
        rw [hw]
        exact List.lookup_eq_none_iff.2 (by simpa using hn)
      have hsame : s.answer n failure = s := by simp only [Situation.answer, hlookup]
      exact ⟨past, some x, by rwa [hsame]⟩

theorem Orderly.call (h : s.Orderly p past now) (request : Request) :
    ∃ past' now', (s.move p (.call request)).Orderly p past' now' := by
  rw [move_call]
  split_ifs with hcount hbusy hconnected
  · exact ⟨past, now, h.refuse request (.copies _)⟩
  · exact ⟨past, now, h.refuse request .busy⟩
  · obtain rfl : now = none := by
      rw [h.busy_eq] at hbusy
      simpa using hbusy
    have hget : (s.calls ++ [request])[s.calls.length]? = some request := by simp
    have hstart : (request.plan p).steps = [] ++ (request.plan p).steps := rfl
    exact (h.enter request).proceed (h.waiting_eq rfl) hget hstart rfl
  · exact ⟨past, now, h.refuse request .notConnected⟩

theorem Orderly.move (h : s.Orderly p past now) (m : Move) :
    ∃ past' now', (s.move p m).Orderly p past' now' := by
  cases m with
  | call request => exact h.call request
  | answer n failure => exact h.answer n failure
  | link connected =>
    have hacc : { s with connected := connected }.Accounted p past now :=
      ⟨h.log_eq, h.busy_eq, h.increasing, h.ended, h.settled, h.refused⟩
    exact ⟨past, now, hacc, h.waiting_eq, h.underway⟩

theorem Orderly.moves (h : s.Orderly p past now) (moves : List Move) :
    ∃ past' now', (moves.foldl (Situation.move p) s).Orderly p past' now' := by
  induction moves generalizing s past now with
  | nil => exact ⟨past, now, h⟩
  | cons m moves ih =>
    obtain ⟨past', now', h'⟩ := h.move m
    exact ih h'

theorem orderly_start (p : Printer) (connected : Bool) :
    Orderly p { connected := connected } [] none := by
  have hacc : Accounted p { connected := connected } [] none :=
    ⟨rfl, rfl, .nil, .nil, by simp, by simp⟩
  exact hacc.orderly rfl

/-! ### The bytes of stretches -/

theorem bytes_opened (x : Stretch) : x.opened.flatMap Note.bytes = x.bytes := by
  rw [Stretch.opened, List.flatMap_cons, Stretch.bytes, taken]
  generalize x.happenings = log
  induction log with
  | nil => rfl
  | cons y log ih =>
    rw [List.map_cons, List.flatMap_cons, List.filterMap_cons]
    cases hy : y.block? <;> simp_all [Note.bytes]

theorem bytes_notes (x : Stretch) : x.notes.flatMap Note.bytes = x.bytes := by
  rw [Stretch.notes, List.flatMap_append, bytes_opened]
  exact List.append_nil _

/-- **The bytes of stretches stand one after the other.** -/
theorem Accounted.bytes_eq (h : s.Accounted p past now) :
    s.bytes = (past ++ now.toList).flatMap Stretch.bytes := by
  rw [Situation.bytes, h.log_eq, List.flatMap_append, List.flatMap_append, List.flatMap_assoc,
    List.flatMap_assoc]
  simp only [bytes_notes, bytes_opened]

/-- A call ends only once. -/
theorem Accounted.outcome_unique (h : s.Accounted p past now) {n : Nat} {r r' : Except Failure Unit}
    (hr : (n, r) ∈ s.outcomes) (hr' : (n, r') ∈ s.outcomes) : r = r' := by
  have hnodup := (List.nodup_append.1 (h.ended.nodup_iff.2 List.nodup_range)).1
  exact congrArg Prod.snd (List.inj_on_of_nodup_map hnodup hr hr' rfl)

/-- The call of the open stretch has not ended. -/
theorem Accounted.not_ended (h : s.Accounted p past (some x)) (r : Except Failure Unit) :
    (x.call, r) ∉ s.outcomes := by
  intro hr
  have hdisjoint := (List.nodup_append.1 (h.ended.nodup_iff.2 List.nodup_range)).2.2
  exact hdisjoint _ (List.mem_map_of_mem hr) _ (List.mem_singleton.2 rfl) rfl

/-- **Every stretch is one of its call's stream.** -/
theorem Orderly.ofStream (h : s.Orderly p past now) (hx : x ∈ past ++ now.toList) :
    x.OfStream p s := by
  rcases List.mem_append.1 hx with hx | hx
  · obtain ⟨request, connected, r, hget, hp, hmem⟩ := h.settled x hx
    have hsends := request.sends p
    refine ⟨request, hget, hp.bytes_prefix.trans hsends.isPrefix, fun hok => ?_⟩
    obtain ⟨rfl, hend⟩ := afterSteps_eq_ok.1 (h.outcome_unique hmem hok)
    rw [← hsends.complete hend]
    exact hp.bytes_eq
  · obtain rfl : now = some x := Option.mem_toList.1 hx
    obtain ⟨request, done, step, rest, next, hget, hsteps, hlog, -⟩ := h.underway x rfl
    refine ⟨request, hget, ?_, fun hok => absurd hok (h.not_ended _)⟩
    refine List.IsPrefix.trans ?_ (request.sends p).isPrefix
    rw [Stretch.bytes, hlog, taken_happening, Plan.blocks, hsteps, List.filterMap_append,
      List.flatten_append]
    exact List.prefix_append ..

/-! ### One job at a time -/

/-- **One job at a time**, after any moves. What happened is one stretch after the other, each of
one call, and the printer was busy in all of it; it is busy now exactly if a stretch is open, whose
call is the only one that waits. Each stretch sent the beginning of the stream of its call, and all
of it if the call ended well; the bytes of the port are those of the stretches in turn. A call that
is made while the printer is busy ends with that, and nothing else changes. -/
theorem orderly_after (p : Printer) (connected : Bool) (moves : List Move) :
    ∃ past now, (after p connected moves).Orderly p past now ∧
      (∀ x ∈ past ++ now.toList, x.OfStream p (after p connected moves)) ∧
      (after p connected moves).bytes = (past ++ now.toList).flatMap Stretch.bytes ∧
      ((after p connected moves).busy = true → ∀ request : Request, 1 ≤ request.count →
        (after p connected moves).move p (.call request) =
          (after p connected moves).refuse request (.busy p.name)) := by
  obtain ⟨past, now, h⟩ := (orderly_start p connected).moves moves
  refine ⟨past, now, h, fun x hx => h.ofStream hx, h.bytes_eq, fun hb request hcount => ?_⟩
  rw [move_call, if_neg (by omega), hb, if_pos rfl]

end Situation

end LabelPress.Transmission
