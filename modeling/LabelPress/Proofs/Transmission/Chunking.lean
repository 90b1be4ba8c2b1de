import LabelPress.Proofs.Transmission.Transcript
import Mathlib.Algebra.Order.Floor.Div
import Mathlib.Tactic

/-!
# Transmission in chunks

What a port sees of a transmission, whatever it answers: a first part of the chunks, each taken
once and in order, with a pause after each of them but the last chunk of the stream; then, unless
the stream is complete, the one thing that failed.

* `chunksOf_eq_slices`: the chunks are the consecutive slices of the stream.
* `paced`: the signals of a transmission, chunk by chunk.
* `Performed.sendSteps`: what a transmission leaves.
* `sendChunked_runOn`: the same over any port, with the failure told by its position.
-/

namespace LabelPress.Transmission

open Wire (Bytes)

/-! ### Slices -/

/-- The slice of a stream that is its chunk number `i`. -/
def slice (size : Nat) (data : Bytes) (i : Nat) : Bytes := (data.drop (i * size)).take size

theorem slice_drop (size : Nat) (data : Bytes) (i : Nat) :
    slice size (data.drop size) i = slice size data (i + 1) := by
  rw [slice, slice, List.drop_drop, Nat.succ_mul, Nat.add_comm]

theorem ceilDiv_eq_succ {size n : Nat} (hs : 0 < size) (hn : 0 < n) :
    n ⌈/⌉ size = (n - size) ⌈/⌉ size + 1 := by
  simp only [Nat.ceilDiv_eq_add_pred_div]
  rcases Nat.lt_or_ge n size with h | h
  · rw [Nat.sub_eq_zero_of_le h.le, Nat.div_eq_of_lt (by omega : 0 + size - 1 < size),
      Nat.div_eq_of_lt_le (k := 1) (by omega) (by omega)]
  · rw [show n + size - 1 = (n - size + size - 1) + size by omega, Nat.add_div_right _ hs]

/-- **The chunks of a stream are its consecutive slices**, as many as fill it. -/
theorem chunksOf_eq_slices {size : Nat} (hs : 0 < size) (data : Bytes) :
    chunksOf size data = (List.range (data.length ⌈/⌉ size)).map (slice size data) := by
  by_cases hd : data = []
  · simp [hd, chunksOf_nil]
  · have hlen : 0 < data.length := List.length_pos_iff.2 hd
    rw [chunksOf_of_ne_nil hs hd, chunksOf_eq_slices hs (data.drop size), ceilDiv_eq_succ hs hlen,
      List.length_drop, List.range_succ_eq_map, List.map_cons, List.map_map]
    refine congrArg₂ List.cons (by simp [slice]) (List.map_congr_left fun i _ => ?_)
    exact slice_drop size data i
termination_by data.length
decreasing_by
  simp only [List.length_drop]
  omega

theorem length_chunksOf {size : Nat} (hs : 0 < size) (data : Bytes) :
    (chunksOf size data).length = data.length ⌈/⌉ size := by
  rw [chunksOf_eq_slices hs, List.length_map, List.length_range]

/-- A number below the count of slices is that of a byte of the stream. -/
theorem lt_ceilDiv_iff {size : Nat} (hs : 0 < size) {n i : Nat} :
    i < n ⌈/⌉ size ↔ i * size < n := by
  rw [← not_le, ceilDiv_le_iff_le_mul hs, not_le, Nat.mul_comm]

/-- **Every slice but the last one is full**, and the last one is not empty. -/
theorem length_slice {size : Nat} (hs : 0 < size) {data : Bytes} {i : Nat}
    (hi : i < data.length ⌈/⌉ size) :
    0 < (slice size data i).length ∧ (slice size data i).length ≤ size ∧
      (i + 1 < data.length ⌈/⌉ size → (slice size data i).length = size) := by
  rw [lt_ceilDiv_iff hs] at hi
  rw [lt_ceilDiv_iff hs, Nat.succ_mul]
  simp only [slice, List.length_take, List.length_drop]
  omega

/-- The first `k` slices are the first `k * size` bytes, unless they are all. -/
theorem length_slices {size : Nat} (hs : 0 < size) {data : Bytes} {k : Nat}
    (hk : k < data.length ⌈/⌉ size) :
    ((List.range k).map (slice size data)).flatten.length = k * size := by
  induction k with
  | zero => simp
  | succ k ih =>
    have hfull := (length_slice hs (Nat.lt_of_succ_lt hk)).2.2 hk
    rw [List.range_succ, List.map_append, List.flatten_append, List.length_append,
      ih (Nat.lt_of_succ_lt hk)]
    simp [hfull, Nat.succ_mul]

/-! ### What a transmission leaves -/

/-- **The signals of a transmission**, chunk by chunk: each chunk, and a pause after each but the
last. -/
def paced (delay : Float) : List Bytes → List (List Signal)
  | [] => []
  | chunk :: rest =>
    (.block chunk :: if rest.isEmpty then [] else pauseSignals delay) :: paced delay rest

theorem length_paced (delay : Float) (chunks : List Bytes) :
    (paced delay chunks).length = chunks.length := by
  induction chunks with
  | nil => rfl
  | cons chunk rest ih => exact congrArg (· + 1) ih

/-- A transmission in `count` chunks, of which `chunks` were left from `at_` on, went as far as `k`
of them. -/
structure SentUpTo (o : SendOptions) (connected : Bool) (count : Nat) (at_ : Position)
    (chunks : List Bytes) (k : Nat) (r : Except Failure Unit) (log : List Happening) : Prop where
  taken_eq : taken log = chunks.take k
  signals_eq : signals log = ((paced o.delay chunks).take k).flatten
  length_eq : r = .ok () → k = chunks.length
  cut : ∀ e, r = .error e → ∃ chunk, chunks[k]? = some chunk ∧
    (FailsAt o.name connected
        (.send ⟨at_.chunk + k, at_.offset + (chunks.take k).flatten.length⟩ count chunk) log e ∨
      FailsAt o.name connected (.pause o.delay) log e)

section Steps
variable {o : SendOptions} {connected : Bool} {count total : Nat} {at_ : Position}
variable {chunk : Bytes} {rest chunks : List Bytes} {r : Except Failure Unit} {log : List Happening}

/-- The steps between the taking of a chunk and the next one. -/
def afterChunk (o : SendOptions) (sent total : Nat) (rest : List Bytes) : List Step :=
  reportSteps o.listener (fractionOf sent total) ++
    if rest.isEmpty then [] else pauseSteps o.delay

theorem sendSteps_cons :
    sendSteps o count total at_ (chunk :: rest) =
      .send at_ count chunk :: (afterChunk o (at_.offset + chunk.length) total rest ++
        sendSteps o count total ⟨at_.chunk + 1, at_.offset + chunk.length⟩ rest) := rfl

theorem taken_afterChunk (sent : Nat) :
    taken ((afterChunk o sent total rest).map Step.happening) = [] := by
  rw [afterChunk, List.map_append, taken_append, taken_reports, taken_pauses, List.append_nil]

theorem signals_afterChunk (sent : Nat) :
    signals ((afterChunk o sent total rest).map Step.happening) =
      if rest.isEmpty then [] else pauseSignals o.delay := by
  rw [afterChunk, List.map_append, signals_append, signals_reports, signals_pauses, List.nil_append]

/-- After a chunk only the pause can fail, and then more chunks were left. -/
theorem Performed.afterChunk {sent : Nat} {e : Failure}
    (h : Performed o.name connected (afterChunk o sent total rest) (.error e) log) :
    rest ≠ [] ∧ taken log = [] ∧ signals log = pauseSignals o.delay ∧
      FailsAt o.name connected (.pause o.delay) log e := by
  obtain ⟨tail, rfl, hp⟩ := h.after_reports
  obtain ⟨hlast, ht, hs, hf⟩ := hp.pauses
  refine ⟨by simpa using hlast, ?_, ?_, hf.prepend _⟩
  · rw [taken_append, taken_reports, ht]
    rfl
  · rw [signals_append, signals_reports, hs]
    rfl

theorem SentUpTo.cons {k sent : Nat}
    (h : SentUpTo o connected count ⟨at_.chunk + 1, at_.offset + chunk.length⟩ rest k r log) :
    SentUpTo o connected count at_ (chunk :: rest) (k + 1) r
      ((Step.send at_ count chunk :: Transmission.afterChunk o sent total rest).map
        Step.happening ++ log) := by
  refine ⟨?_, ?_, fun hr => congrArg (· + 1) (h.length_eq hr), fun e he => ?_⟩
  · rw [taken_append, h.taken_eq, List.map_cons, List.take_succ_cons]
    exact congrArg (chunk :: · ++ _) (taken_afterChunk sent)
  · rw [signals_append, h.signals_eq, List.map_cons, paced, List.take_succ_cons, List.flatten_cons]
    exact congrArg (Signal.block chunk :: · ++ _) (signals_afterChunk sent)
  · obtain ⟨c, hc, hf⟩ := h.cut e he
    refine ⟨c, hc, hf.imp (fun hf => ?_) fun hf => hf.prepend _⟩
    have hpos :
        (⟨at_.chunk + (k + 1), at_.offset + ((chunk :: rest).take (k + 1)).flatten.length⟩ :
          Position) =
        ⟨at_.chunk + 1 + k, at_.offset + chunk.length + (rest.take k).flatten.length⟩ := by
      simp only [List.take_succ_cons, List.flatten_cons, List.length_append, Position.mk.injEq]
      omega
    rw [hpos]
    exact hf.prepend _

/-- **A transmission goes as far as some chunk**, whatever the port answers. -/
theorem Performed.sendSteps
    (h : Performed o.name connected (sendSteps o count total at_ chunks) r log) :
    ∃ k, SentUpTo o connected count at_ chunks k r log := by
  induction chunks generalizing at_ log with
  | nil =>
    cases h
    exact ⟨0, rfl, rfl, fun _ => rfl, by simp⟩
  | cons chunk rest ih =>
    rw [sendSteps_cons] at h
    cases h with
    | stop h =>
      -- The chunk itself failed, so nothing was taken.
      refine ⟨0, by cases h <;> rfl, by cases h <;> rfl, by simp, fun e he => ?_⟩
      cases he
      exact ⟨chunk, rfl, .inl h.failsAt⟩
    | cons h =>
      obtain ⟨e, rfl, hpause⟩ | ⟨tail, rfl, hrest⟩ := h.append
      · -- The pause after the chunk was broken off, so the next chunk was not begun.
        obtain ⟨hne, ht, hs, hf⟩ := hpause.afterChunk
        obtain ⟨next, rest, rfl⟩ := List.exists_cons_of_ne_nil hne
        refine ⟨1, ?_, ?_, by simp, fun e he => ?_⟩
        · exact congrArg (chunk :: ·) ht
        · rw [paced, List.take_succ_cons, List.take_zero, List.flatten_cons, List.flatten_nil,
            List.append_nil]
          exact congrArg (Signal.block chunk :: ·) hs
        · cases he
          exact ⟨next, rfl, .inr (hf.prepend [_])⟩
      · obtain ⟨k, hk⟩ := ih hrest
        exact ⟨k + 1, hk.cons⟩

end Steps

/-! ### Transmissions over any port -/

theorem paced_map_range (delay : Float) (n : Nat) (f : Nat → Bytes) :
    paced delay ((List.range n).map f) = (List.range n).map fun i =>
      .block (f i) :: if i + 1 < n then pauseSignals delay else [] := by
  induction n generalizing f with
  | zero => rfl
  | succ n ih =>
    simp only [List.range_succ_eq_map, List.map_cons, List.map_map, paced]
    have hlast : (((List.range n).map (f ∘ Nat.succ)).isEmpty = true) ↔ n = 0 := by simp
    rw [ih]
    refine congrArg₂ List.cons ?_ (List.map_congr_left fun i _ => ?_)
    · simp only [hlast]
      by_cases hn : n = 0
      · simp [hn]
      · simp [hn, Nat.pos_of_ne_zero hn]
    · simp

/-- The first `k` slices are the first `k * size` bytes. -/
theorem flatten_slices (size : Nat) (data : Bytes) (k : Nat) :
    ((List.range k).map (slice size data)).flatten = data.take (k * size) := by
  induction k with
  | zero => simp
  | succ k ih =>
    rw [List.range_succ, List.map_append, List.flatten_append, ih, Nat.succ_mul, List.take_add]
    simp [slice]

/-- The signals of the first `k` chunks of a stream: each chunk, and a pause after it unless it is
the last one of the stream. -/
def chunkSignals (delay : Float) (size : Nat) (data : Bytes) (k : Nat) : List Signal :=
  (List.range k).flatMap fun i => .block (slice size data i) ::
    if i + 1 < data.length ⌈/⌉ size then pauseSignals delay else []

theorem flatten_take_paced {size : Nat} (hs : 0 < size) (delay : Float) (data : Bytes) {k : Nat}
    (hk : k ≤ data.length ⌈/⌉ size) :
    ((paced delay (chunksOf size data)).take k).flatten = chunkSignals delay size data k := by
  rw [chunksOf_eq_slices hs, paced_map_range, ← List.map_take, List.take_range, Nat.min_eq_left hk,
    chunkSignals, List.flatMap_def]

theorem take_chunksOf {size : Nat} (hs : 0 < size) (data : Bytes) {k : Nat}
    (hk : k ≤ data.length ⌈/⌉ size) :
    (chunksOf size data).take k = (List.range k).map (slice size data) := by
  rw [chunksOf_eq_slices hs, ← List.map_take, List.take_range, Nat.min_eq_left hk]

theorem getElem?_chunksOf {size : Nat} (hs : 0 < size) {data chunk : Bytes} {k : Nat}
    (h : (chunksOf size data)[k]? = some chunk) :
    k < data.length ⌈/⌉ size ∧ chunk = slice size data k := by
  have hk := (List.getElem?_eq_some_iff.1 h).1
  rw [length_chunksOf hs] at hk
  refine ⟨hk, ?_⟩
  rw [chunksOf_eq_slices hs, List.getElem?_map, List.getElem?_range hk] at h
  exact (Option.some.inj h).symm

/-- **How a transmission breaks off** before the chunk at `position` was taken: what happened last
at the port, which was left connected or not, and the failure of the job. -/
inductive BreaksOff (block : Bytes) (position : Position) (delay : Float) (connected : Bool) :
    List Happening → Failure → Prop
  /-- The connection was found lost, and the failure tells the position. -/
  | lost {t : TransportError} (h : connected = false) (ht : t.position? = some position) :
    BreaksOff block position delay connected [] (.transport t)
  /-- The port refused the chunk, and the failure tells the position. -/
  | refused {cause t : TransportError} (ht : t.position? = some position) :
    BreaksOff block position delay connected [.wrote block (some (.transport cause))]
      (.transport t)
  /-- Writing the chunk failed in another way, which is passed on. -/
  | passed {e : Failure} (h : ∀ t, e ≠ .transport t) :
    BreaksOff block position delay connected [.wrote block (some e)] e
  /-- The pause before the chunk was broken off, which is passed on. -/
  | interrupted {e : Failure} : BreaksOff block position delay connected [.paused delay (some e)] e

theorem FailsAt.breaksOff {name : List Char} {connected : Bool} {position : Position} {count : Nat}
    {block : Bytes} {delay : Float} {log : List Happening} {e : Failure}
    (h : FailsAt name connected (.send position count block) log e ∨
      FailsAt name connected (.pause delay) log e) :
    ∃ before tail, log = before ++ tail ∧ (∀ x ∈ before, x.failure? = none) ∧
      BreaksOff block position delay connected tail e := by
  rcases h with ⟨before, tail, rfl, hb, h⟩ | ⟨before, tail, rfl, hb, h⟩
  · refine ⟨before, tail, rfl, hb, ?_⟩
    cases h with
    | lost h => exact .lost h rfl
    | refused e =>
      cases e with
      | transport cause => exact .refused rfl
      | _ => exact .passed (by simp)
  · cases h with
    | interrupted => exact ⟨before, _, rfl, hb, .interrupted⟩

theorem sendPlan_eq {o : SendOptions} {size : Int} (hs : 0 < size) (data : Bytes) :
    sendPlan o size data = .ofSteps (sendSteps o (chunksOf size.toNat data).length data.length
      ⟨0, 0⟩ (chunksOf size.toNat data)) := by
  rw [sendPlan, chunks, if_neg (by omega)]

/-- **A transmission over any port.** The blocks that the port takes are the first `k` of the
consecutive slices of the stream, all of them full but perhaps the last, which is not empty. The job
ends well exactly if these are all. Otherwise nothing happens after the one failure, which carries
the number of the chunk and the count of bytes taken if it is the port's, and is passed on if not.
One pause follows each chunk but the last of the stream, if the delay is positive. -/
theorem sendChunked_runOn {σ : Type} (p : Port σ) (s : σ) (o : SendOptions) {size : Int}
    (hs : 0 < size) (data : Bytes) :
    ∃ r t log k, (sendChunked o size data).runOn p.recorded (s, []) = (r, t, log) ∧
      k ≤ data.length ⌈/⌉ size.toNat ∧
      (∀ i < data.length ⌈/⌉ size.toNat, 0 < (slice size.toNat data i).length ∧
        ((slice size.toNat data i).length : Int) ≤ size ∧
        (i + 1 < data.length ⌈/⌉ size.toNat → ((slice size.toNat data i).length : Int) = size)) ∧
      taken log = (List.range k).map (slice size.toNat data) ∧
      (r = .ok () ↔ k = data.length ⌈/⌉ size.toNat) ∧
      (r = .ok () → (taken log).flatten = data) ∧
      (∀ e, r = .error e → (taken log).flatten.length = k * size.toNat ∧
        ∃ before tail, log = before ++ tail ∧ (∀ x ∈ before, x.failure? = none) ∧
          BreaksOff (slice size.toNat data k) ⟨k, k * size.toNat⟩ o.delay (p.isConnected t)
            tail e) ∧
      signals log = chunkSignals o.delay size.toNat data k := by
  have hn : 0 < size.toNat := by omega
  have hlen := length_chunksOf hn data
  obtain ⟨r, t, log, hrun, hp⟩ := Plan.job_runOn p o.name (sendPlan o size data) s []
  rw [← sendChunked_eq] at hrun
  rw [sendPlan_eq hs] at hp hrun
  obtain ⟨k, hk⟩ := hp.sendSteps
  have hcut : ∀ e, r = .error e → k < data.length ⌈/⌉ size.toNat := fun e he => by
    obtain ⟨chunk, hc, -⟩ := hk.cut e he
    exact (getElem?_chunksOf hn hc).1
  have hle : k ≤ data.length ⌈/⌉ size.toNat := by
    cases r with
    | ok u => rw [hk.length_eq rfl, hlen]
    | error e => exact (hcut e rfl).le
  have htaken : taken log = (List.range k).map (slice size.toNat data) := by
    rw [hk.taken_eq, take_chunksOf hn data hle]
  refine ⟨r, t, log, k, ?_, hle, fun i hi => ?_, htaken, ⟨fun hr => ?_, fun hkn => ?_⟩,
    fun hr => ?_, fun e he => ⟨?_, ?_⟩, ?_⟩
  · rw [hrun, Plan.ofSteps, afterSteps_ok, List.nil_append]
  · obtain ⟨h0, h1, h2⟩ := length_slice hn hi
    exact ⟨h0, by omega, fun hi' => by rw [h2 hi']; omega⟩
  · rw [hk.length_eq hr, hlen]
  · cases r with
    | ok u => rfl
    | error e => exact absurd hkn (hcut e rfl).ne
  · rw [hk.taken_eq, hk.length_eq hr, List.take_length, flatten_chunksOf hn]
  · rw [htaken, length_slices hn (hcut e he)]
  · -- The failure is that of the next chunk, or of the pause before it.
    obtain ⟨chunk, hc, hf⟩ := hk.cut e he
    obtain ⟨-, rfl⟩ := getElem?_chunksOf hn hc
    rw [← hk.taken_eq, htaken, length_slices hn (hcut e he), Nat.zero_add, Nat.zero_add] at hf
    exact FailsAt.breaksOff hf
  · rw [hk.signals_eq, flatten_take_paced hn _ _ hle]

/-- A port that takes `n` blocks and refuses the next ones; its state is how many it was given. -/
def Port.accepting (n : Nat) : Port Nat where
  isConnected _ := true
  isBusy _ := false
  setBusy _ s := s
  write _ s := (if s < n then none else some (.transport (.port (.failed []))), s + 1)
  pause _ s := (none, s)
  report _ s := s

/-- Of two chunks, a port takes the first one and refuses the other. -/
theorem sendChunked_runOn_accepting :
    (0 : Int) < 2 ∧ ∃ e t log,
      (sendChunked ⟨[], 0, none⟩ 2 [1, 2, 3]).runOn (Port.accepting 1).recorded (0, []) =
        (.error e, t, log) ∧
      taken log = [[1, 2]] ∧
      ∃ before tail, log = before ++ tail ∧
        BreaksOff [3] ⟨1, 2⟩ 0 ((Port.accepting 1).isConnected t) tail e := by
  have hchunks : chunks 2 [1, 2, 3] = .ok [[1, 2], [3]] := by
    simp [chunks, chunksOf_of_ne_nil, chunksOf_nil]
  obtain ⟨r, t, log, k, hrun, -, -, htaken, -, -, hcut, -⟩ :=
    sendChunked_runOn (Port.accepting 1) 0 ⟨[], 0, none⟩ (by decide : (0 : Int) < 2) [1, 2, 3]
  have heval := hrun
  rw [sendChunked, hchunks] at heval
  simp only [Job.ofExcept] at heval
  cases heval
  obtain rfl : 1 = k := by
    have hlen := congrArg List.length htaken
    rwa [List.length_map, List.length_range] at hlen
  obtain ⟨-, before, tail, hlog, -, hb⟩ := hcut _ rfl
  exact ⟨by decide, _, _, _, hrun, rfl, before, tail, hlog, hb⟩

end LabelPress.Transmission
