import LabelPress.Proofs.Transmission.Chunking
import LabelPress.Proofs.Wire.Codec

/-!
# Copies

Copies are the stream of one label, sent as often as was asked, each time in chunks from its own
beginning, with a pause between two of them. If something fails, whole copies were taken and the
first chunks of one more; nothing is sent again.

* `copySteps`: the steps of copies, if their label has a stream and its chunks a size.
* `copyPaced`: the signals of copies, copy by copy.
* `Performed.copySteps`: what copies leave.
* `printCopies_runOn`: the same over any port.
-/

namespace LabelPress.Transmission

open Wire (Bytes)

/-! ### The steps of copies -/

/-- The steps that send the chunks of a stream as a label. -/
def labelSteps (o : SendOptions) (total : Nat) (chunks : List Bytes) : List Step :=
  reportSteps o.listener 0 ++
    (sendSteps o chunks.length total ⟨0, 0⟩ chunks ++ reportSteps o.listener 1)

/-- The steps that send the chunks of a stream so many times more, `options i` being what the
transmission of copy `i` is told. -/
def copySteps (options : Nat → SendOptions) (copyDelay : Float) (total : Nat)
    (chunks : List Bytes) : Nat → Nat → List Step
  | _, 0 => []
  | index, n + 1 =>
    labelSteps (options index) total chunks ++
      ((if n = 0 then [] else pauseSteps copyDelay) ++
        copySteps options copyDelay total chunks (index + 1) n)

namespace Printer
variable (p : Printer) {bitmap data : Bytes} {width height : Int}

/-- What the transmission of copy `index + 1` of `total` is told. -/
def copyOptions (total : Nat) (listener : Option (Nat → Nat → Float → Report)) (index : Nat) :
    SendOptions :=
  ⟨p.name, p.chunkDelay, listener.map fun f => f (index + 1) total⟩

theorem labelPlan_eq (hs : 0 < p.chunkSize)
    (hd : Wire.encodeLabel bitmap width height p.feedMm = .ok data)
    (listener : Option (Float → Report)) :
    p.labelPlan bitmap width height listener = .ofSteps (labelSteps
      ⟨p.name, p.chunkDelay, listener⟩ data.length (chunksOf p.chunkSize.toNat data)) := by
  simp only [labelPlan, hd, sendPlan_eq hs]
  rfl

/-- **Copies of a label that has a stream** are steps that all can succeed. -/
theorem copiesPlan_eq (hs : 0 < p.chunkSize)
    (hd : Wire.encodeLabel bitmap width height p.feedMm = .ok data) (total : Nat)
    (listener : Option (Nat → Nat → Float → Report)) (index n : Nat) :
    p.copiesPlan bitmap width height total listener index n =
      .ofSteps (copySteps (p.copyOptions total listener) p.copyDelay data.length
        (chunksOf p.chunkSize.toNat data) index n) := by
  induction n generalizing index with
  | zero => rfl
  | succ n ih =>
    rw [copiesPlan, p.labelPlan_eq hs hd, ih]
    rfl

theorem copiesPlan_of_error {e : Wire.WireError}
    (he : Wire.encodeLabel bitmap width height p.feedMm = .error e) (total : Nat)
    (listener : Option (Nat → Nat → Float → Report)) (index n : Nat) :
    p.copiesPlan bitmap width height total listener index (n + 1) = .stop (.encoding e) := by
  rw [copiesPlan, labelPlan, he]
  rfl

end Printer

/-! ### What copies leave -/

/-- **The signals of copies**, copy by copy: the signals of each, and a pause after each but the
last. -/
def copyPaced (chunkDelay copyDelay : Float) (chunks : List Bytes) : Nat → List (List Signal)
  | 0 => []
  | n + 1 => ((paced chunkDelay chunks).flatten ++ if n = 0 then [] else pauseSignals copyDelay) ::
      copyPaced chunkDelay copyDelay chunks n

/-- Copies at a port of this name, of which `n` were left, went as far as `i` chunks of the copy
after the next `c`. -/
structure CopiedUpTo (name : List Char) (chunkDelay copyDelay : Float) (connected : Bool)
    (chunks : List Bytes) (n c i : Nat) (r : Except Failure Unit) (log : List Happening) :
    Prop where
  taken_eq : taken log = (List.replicate c chunks).flatten ++ chunks.take i
  signals_eq : signals log = ((copyPaced chunkDelay copyDelay chunks n).take c).flatten ++
    ((paced chunkDelay chunks).take i).flatten
  complete : r = .ok () → c = n ∧ i = 0
  cut : ∀ e, r = .error e → c < n ∧ ∃ chunk, chunks[i]? = some chunk ∧
    ((FailsAt name connected (.send ⟨i, (chunks.take i).flatten.length⟩ chunks.length chunk) log e ∨
        FailsAt name connected (.pause chunkDelay) log e) ∨
      FailsAt name connected (.pause copyDelay) log e ∧ i = 0)

section Steps
variable {o : SendOptions} {connected : Bool} {total : Nat} {chunks : List Bytes}
variable {r : Except Failure Unit} {log : List Happening}

/-- Reports before a transmission are not seen at the port. -/
theorem SentUpTo.prepend_reports {k : Nat} (part : Float)
    (h : SentUpTo o connected chunks.length ⟨0, 0⟩ chunks k r log) :
    SentUpTo o connected chunks.length ⟨0, 0⟩ chunks k r
      ((reportSteps o.listener part).map Step.happening ++ log) := by
  refine ⟨?_, ?_, h.length_eq, fun e he => ?_⟩
  · rw [taken_append, taken_reports, h.taken_eq]
    rfl
  · rw [signals_append, signals_reports, h.signals_eq]
    rfl
  · obtain ⟨chunk, hc, hf⟩ := h.cut e he
    exact ⟨chunk, hc, hf.imp (·.prepend _) (·.prepend _)⟩

theorem SentUpTo.append_reports {k : Nat} (part : Float)
    (h : SentUpTo o connected chunks.length ⟨0, 0⟩ chunks k (.ok ()) log) :
    SentUpTo o connected chunks.length ⟨0, 0⟩ chunks k (.ok ())
      (log ++ (reportSteps o.listener part).map Step.happening) := by
  refine ⟨?_, ?_, h.length_eq, by simp⟩
  · rw [taken_append, taken_reports, List.append_nil, h.taken_eq]
  · rw [signals_append, signals_reports, List.append_nil, h.signals_eq]

/-- A label leaves what its transmission leaves, reports apart. -/
theorem Performed.labelSteps (h : Performed o.name connected (labelSteps o total chunks) r log) :
    ∃ k, SentUpTo o connected chunks.length ⟨0, 0⟩ chunks k r log := by
  obtain ⟨log, rfl, hafter⟩ := h.after_reports
  obtain ⟨e, rfl, hsend⟩ | ⟨tail, rfl, hend⟩ := hafter.append
  · obtain ⟨k, hk⟩ := hsend.sendSteps
    exact ⟨k, hk.prepend_reports 0⟩
  · cases r with
    | error e => exact absurd hend not_reports
    | ok u =>
      have hall : Performed o.name connected _ _ _ :=
        .all (Transmission.sendSteps o chunks.length total ⟨0, 0⟩ chunks)
      obtain ⟨k, hk⟩ := hall.sendSteps
      rw [hend.of_ok]
      exact ⟨k, (hk.append_reports 1).prepend_reports 0⟩

/-- A label that was sent as a whole is seen as a whole. -/
theorem labelSteps_happening (o : SendOptions) (total : Nat) (chunks : List Bytes) :
    taken ((Transmission.labelSteps o total chunks).map Step.happening) = chunks ∧
      signals ((Transmission.labelSteps o total chunks).map Step.happening) =
        (paced o.delay chunks).flatten := by
  have hall : Performed o.name true _ _ _ := .all (Transmission.labelSteps o total chunks)
  obtain ⟨k, hk⟩ := hall.labelSteps
  obtain rfl := hk.length_eq rfl
  refine ⟨by rw [hk.taken_eq, List.take_length], ?_⟩
  rw [hk.signals_eq, ← length_paced o.delay chunks, List.take_length]

end Steps

section Copies
variable {options : Nat → SendOptions} {name : List Char} {chunkDelay copyDelay : Float}
variable {connected : Bool} {total : Nat} {chunks : List Bytes}
variable {r : Except Failure Unit} {log : List Happening}

/-- The first of `n + 1` copies, broken off after `k` chunks. -/
theorem SentUpTo.copied {o : SendOptions} {k n : Nat} {e : Failure}
    (h : SentUpTo o connected chunks.length ⟨0, 0⟩ chunks k (.error e) log) :
    CopiedUpTo o.name o.delay copyDelay connected chunks (n + 1) 0 k (.error e) log := by
  refine ⟨h.taken_eq, h.signals_eq, by simp, fun e' he => ⟨Nat.succ_pos n, ?_⟩⟩
  obtain ⟨chunk, hc, hf⟩ := h.cut e' he
  rw [Nat.zero_add, Nat.zero_add] at hf
  exact ⟨chunk, hc, .inl hf⟩

/-- One more copy before others, sent as a whole. -/
theorem CopiedUpTo.cons {o : SendOptions} {n c i : Nat}
    (h : CopiedUpTo o.name o.delay copyDelay connected chunks n c i r log) :
    CopiedUpTo o.name o.delay copyDelay connected chunks (n + 1) (c + 1) i r
      ((labelSteps o total chunks ++ if n = 0 then [] else pauseSteps copyDelay).map
        Step.happening ++ log) := by
  obtain ⟨ht, hs⟩ := labelSteps_happening o total chunks
  refine ⟨?_, ?_, fun hr => ?_, fun e he => ?_⟩
  · rw [taken_append, List.map_append, taken_append, ht, taken_pauses, List.append_nil, h.taken_eq,
      List.replicate_succ, List.flatten_cons, List.append_assoc]
  · rw [signals_append, List.map_append, signals_append, hs, signals_pauses, h.signals_eq,
      copyPaced, List.take_succ_cons, List.flatten_cons, List.append_assoc _ (List.flatten _)]
  · obtain ⟨rfl, rfl⟩ := h.complete hr
    exact ⟨rfl, rfl⟩
  · obtain ⟨hc, chunk, hget, hf⟩ := h.cut e he
    exact ⟨Nat.succ_lt_succ hc, chunk, hget,
      hf.imp (·.imp (·.prepend _) (·.prepend _)) fun ⟨hf, hi⟩ => ⟨hf.prepend _, hi⟩⟩

/-- **Copies go as far as some chunk of some copy**, whatever the port answers. -/
theorem Performed.copySteps (hname : ∀ i, (options i).name = name)
    (hdelay : ∀ i, (options i).delay = chunkDelay) (hne : chunks ≠ []) {index n : Nat}
    (h : Performed name connected (copySteps options copyDelay total chunks index n) r log) :
    ∃ c i, CopiedUpTo name chunkDelay copyDelay connected chunks n c i r log := by
  induction n generalizing index log with
  | zero =>
    cases h
    exact ⟨0, 0, rfl, rfl, fun _ => ⟨rfl, rfl⟩, by simp⟩
  | succ n ih =>
    obtain ⟨e, rfl, hlabel⟩ | ⟨tail, rfl, hafter⟩ := h.append
    · -- The first of the copies was not sent as a whole.
      rw [← hname index] at hlabel
      obtain ⟨k, hk⟩ := hlabel.labelSteps
      rw [← hname index, ← hdelay index]
      exact ⟨0, k, hk.copied⟩
    obtain ⟨e, rfl, hpause⟩ | ⟨tail, rfl, hrest⟩ := hafter.append
    · -- The pause after it was broken off.
      obtain ⟨hn, hpt, hps, hf⟩ := hpause.pauses
      obtain ⟨ht, hs⟩ := labelSteps_happening (options index) total chunks
      obtain ⟨first, rest, rfl⟩ := List.exists_cons_of_ne_nil hne
      refine ⟨1, 0, ?_, ?_, by simp, fun e he => ⟨by omega, first, rfl, ?_⟩⟩
      · rw [taken_append, ht, hpt]
        simp
      · rw [signals_append, hs, hps, hdelay, copyPaced, if_neg hn]
        simp
      · cases he
        exact .inr ⟨hf.prepend _, rfl⟩
    · obtain ⟨c, i, hc⟩ := ih hrest
      rw [← hname index, ← hdelay index] at hc ⊢
      rw [← List.append_assoc, ← List.map_append]
      exact ⟨c + 1, i, hc.cons⟩

end Copies

/-! ### Copies over any port -/

theorem copyPaced_eq (chunkDelay copyDelay : Float) (chunks : List Bytes) (n : Nat) :
    copyPaced chunkDelay copyDelay chunks n = (List.range n).map fun j =>
      (paced chunkDelay chunks).flatten ++ if j + 1 < n then pauseSignals copyDelay else [] := by
  induction n with
  | zero => rfl
  | succ n ih =>
    rw [copyPaced, ih, List.range_succ_eq_map, List.map_cons, List.map_map]
    refine congrArg₂ List.cons ?_ (List.map_congr_left fun j _ => ?_)
    · by_cases hn : n = 0
      · simp [hn]
      · simp [hn, Nat.pos_of_ne_zero hn]
    · simp

/-- **Copies of a stream as a port saw them**: `c` whole ones, and `i` chunks of one more. -/
structure Printer.CopiesSeen (p : Printer) (data : Bytes) (copies : Nat) (connected : Bool)
    (c i : Nat) (r : Except Failure Unit) (log : List Happening) : Prop where
  /-- Each copy was cut into chunks from its own beginning. -/
  blocks : taken log = (List.replicate c (chunksOf p.chunkSize.toNat data)).flatten ++
    (List.range i).map (slice p.chunkSize.toNat data)
  bytes : (taken log).flatten = (List.replicate c data).flatten ++
    data.take (i * p.chunkSize.toNat)
  /-- One pause stood between two copies, if its time is positive, and none after the last. -/
  signals : signals log = ((List.range c).flatMap fun j =>
      chunkSignals p.chunkDelay p.chunkSize.toNat data (data.length ⌈/⌉ p.chunkSize.toNat) ++
        if j + 1 < copies then pauseSignals p.copyDelay else []) ++
    chunkSignals p.chunkDelay p.chunkSize.toNat data i
  complete : r = .ok () → c = copies ∧ i = 0
  /-- Nothing happened after the one failure, which tells its position in the current copy if it
  is the port's. -/
  cut : ∀ e, r = .error e → c < copies ∧ i < data.length ⌈/⌉ p.chunkSize.toNat ∧
    (taken log).flatten.length = c * data.length + i * p.chunkSize.toNat ∧
    ∃ before tail, log = before ++ tail ∧ (∀ x ∈ before, x.failure? = none) ∧
      (BreaksOff (slice p.chunkSize.toNat data i) ⟨i, i * p.chunkSize.toNat⟩ p.chunkDelay connected
          tail e ∨
        i = 0 ∧ tail = [.paused p.copyDelay (some e)])

theorem CopiedUpTo.seen {p : Printer} {data : Bytes} {connected : Bool} {n c i : Nat}
    {r : Except Failure Unit} {log : List Happening} (hs : 0 < p.chunkSize.toNat)
    (h : CopiedUpTo p.name p.chunkDelay p.copyDelay connected (chunksOf p.chunkSize.toNat data)
      n c i r log) :
    p.CopiesSeen data n connected c i r log := by
  have hlen := length_chunksOf hs data
  have hi : i ≤ data.length ⌈/⌉ p.chunkSize.toNat := by
    cases r with
    | ok u => rw [(h.complete rfl).2]; exact Nat.zero_le _
    | error e =>
      obtain ⟨-, chunk, hget, -⟩ := h.cut e rfl
      exact (getElem?_chunksOf hs hget).1.le
  have hc : c ≤ n := by
    cases r with
    | ok u => rw [(h.complete rfl).1]
    | error e => exact (h.cut e rfl).1.le
  have hblocks : taken log = (List.replicate c (chunksOf p.chunkSize.toNat data)).flatten ++
      (List.range i).map (slice p.chunkSize.toNat data) := by
    rw [h.taken_eq, take_chunksOf hs data hi]
  have hbytes : (taken log).flatten = (List.replicate c data).flatten ++
      data.take (i * p.chunkSize.toNat) := by
    rw [hblocks, List.flatten_append, flatten_slices, List.flatten_flatten, List.map_replicate,
      flatten_chunksOf hs]
  refine ⟨hblocks, hbytes, ?_, h.complete, fun e he => ?_⟩
  · rw [h.signals_eq, flatten_take_paced hs _ _ hi, copyPaced_eq, ← List.map_take, List.take_range,
      Nat.min_eq_left hc, List.flatMap_def]
    rw [← flatten_take_paced hs _ _ le_rfl, ← hlen, ← length_paced p.chunkDelay, List.take_length]
  · obtain ⟨hlt, chunk, hget, hf⟩ := h.cut e he
    obtain ⟨hi', rfl⟩ := getElem?_chunksOf hs hget
    have hoffset := length_slices hs hi'
    rw [take_chunksOf hs data hi, hoffset] at hf
    refine ⟨hlt, hi', ?_, ?_⟩
    · rw [flatten_slices] at hoffset
      rw [hbytes, List.length_append, hoffset]
      simp
    rcases hf with hf | ⟨⟨before, tail, rfl, hb, hf⟩, hi0⟩
    · obtain ⟨before, tail, hlog, hb, hf⟩ := FailsAt.breaksOff hf
      exact ⟨before, tail, hlog, hb, .inl hf⟩
    · cases hf with
      | interrupted => exact ⟨before, _, rfl, hb, .inr ⟨hi0, rfl⟩⟩

/-- **Copies over any port** that is connected and idle. If the label has no stream, the job fails
as the encoding does, and nothing happens at the port. Otherwise the port saw whole copies of the
stream, all of them if the job ended well, and of one more copy the first chunks. -/
theorem printCopies_runOn {σ : Type} (port : Port σ) {s : σ} (hb : port.isBusy s = false)
    (hc : port.isConnected s = true) (p : Printer) (hs : 0 < p.chunkSize) (bitmap : Bytes)
    (width height : Int) {copies : Int} (hcopies : 1 ≤ copies)
    (listener : Option (Nat → Nat → Float → Report)) :
    ∃ r t log, (p.printCopies bitmap width height copies listener).runOn port.recorded (s, []) =
        (r, port.setBusy false t, log) ∧
      match Wire.encodeLabel bitmap width height p.feedMm with
      | .error e => r = .error (.encoding e) ∧ log = []
      | .ok data => ∃ c i, p.CopiesSeen data copies.toNat (port.isConnected t) c i r log := by
  have hsize : 0 < p.chunkSize.toNat := by omega
  obtain ⟨n, hn⟩ : ∃ n, copies.toNat = n + 1 := ⟨copies.toNat - 1, by omega⟩
  set plan := p.copiesPlan bitmap width height copies.toNat listener 0 copies.toNat with hplan
  obtain ⟨r, t, log, hrun, hp⟩ := plan.job_runOn port p.name (port.setBusy true s) []
  rw [hplan, ← Printer.sendCopies_eq, ← hplan, List.nil_append] at hrun
  refine ⟨afterSteps r plan.ending, t, log, ?_, ?_⟩
  · have hb' : port.recorded.isBusy (s, []) = false := hb
    have hc' : port.recorded.isConnected (s, []) = true := hc
    have hset : port.recorded.setBusy true (s, []) = (port.setBusy true s, []) := rfl
    rw [Printer.printCopies, if_neg (by omega), exclusively_runOn p port.recorded hb' hc', hset,
      hrun]
    rfl
  · cases hd : Wire.encodeLabel bitmap width height p.feedMm with
    | error e =>
      rw [hplan, hn, p.copiesPlan_of_error hd] at hp ⊢
      cases hp
      exact ⟨rfl, rfl⟩
    | ok data =>
      have hne : chunksOf p.chunkSize.toNat data ≠ [] := by
        rw [chunksOf_of_ne_nil hsize (Wire.ne_nil_of_encodeLabel hd)]
        simp
      rw [hplan, p.copiesPlan_eq hs hd] at hp ⊢
      have hname : ∀ i, (p.copyOptions copies.toNat listener i).name = p.name := fun _ => rfl
      have hdelay : ∀ i, (p.copyOptions copies.toNat listener i).delay = p.chunkDelay :=
        fun _ => rfl
      obtain ⟨c, i, hseen⟩ := Performed.copySteps hname hdelay hne hp
      rw [Plan.ofSteps, afterSteps_ok]
      exact ⟨c, i, hseen.seen hsize⟩

/-- Two copies of a label of one row, at a port that takes no more than three blocks. -/
theorem printCopies_runOn_accepting :
    ((Port.accepting 3).isBusy 0 = false ∧ (Port.accepting 3).isConnected 0 = true) ∧
      ((0 : Int) < 10 ∧ (1 : Int) ≤ 2) ∧
      ∃ data r t log c i, Wire.encodeLabel [0] 8 1 (.real 4) = .ok data ∧
        (Printer.printCopies ⟨[], 10, 0, 0, .real 4⟩ [0] 8 1 2 none).runOn
          (Port.accepting 3).recorded (0, []) = (r, t, log) ∧
        Printer.CopiesSeen ⟨[], 10, 0, 0, .real 4⟩ data 2 true c i r log := by
  have hprint : Wire.Printable [0] 8 1 :=
    ⟨by decide, by decide, by decide, by decide, by rw [← Wire.rowBytesOf_eq_ceil]; decide⟩
  obtain ⟨data, hdata⟩ : ∃ data, Wire.encodeLabel [0] 8 1 (.real 4) = .ok data :=
    ⟨_, Wire.encodeLabel_eq_ok_iff.2 ⟨hprint, 32, Wire.dotsOf_four, rfl⟩⟩
  obtain ⟨r, t, log, hrun, hseen⟩ := printCopies_runOn (Port.accepting 3) (s := 0) rfl rfl
    ⟨[], 10, 0, 0, .real 4⟩ (by decide) [0] 8 1 (by decide : (1 : Int) ≤ 2) none
  simp only [hdata] at hseen
  obtain ⟨c, i, hseen⟩ := hseen
  exact ⟨⟨rfl, rfl⟩, ⟨by decide, by decide⟩, data, r, _, log, c, i, hdata, hrun, hseen⟩

end LabelPress.Transmission
