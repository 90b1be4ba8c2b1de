import LabelPress.Proofs.Number.Nearest
import LabelPress.Proofs.Transmission.Copies

/-!
# Progress

What a listener hears of copies is settled beforehand as far as it goes: a job that breaks off tells
a first part of what it tells when it succeeds. Each report names a copy and the part of its stream
that the port has taken by then, rounded to a double. A stream has far fewer bytes than a double
tells apart, so no part but the whole is rounded to one.

* `heard`: the reports of a job, each with the bytes that the port took before it.
* `Performed.heard_prefix`: a job that breaks off tells a first part.
* `heard_sendSteps`, `heard_labelSteps`, `heard_copySteps`: what is told if nothing fails.
* `printCopies_progress`: what copies tell over any port.
-/

namespace LabelPress.Transmission

open Wire (Bytes)
open Binary64 (IsNearest)

/-! ### What a listener hears -/

/-- A report of the progress of copies, and the bytes that the port had taken when it was made. -/
structure Heard where
  sent : Bytes
  copy : Nat
  copies : Nat
  part : Float

/-- **What a listener hears** at a port that has taken these bytes. -/
def heard : Bytes → List Happening → List Heard
  | _, [] => []
  | sent, .reported (.copy copy copies part) :: log =>
    ⟨sent, copy, copies, part⟩ :: heard sent log
  | sent, x :: log => heard (sent ++ x.block?.getD []) log

theorem flatten_taken_cons (x : Happening) (log : List Happening) :
    (taken (x :: log)).flatten = x.block?.getD [] ++ (taken log).flatten := by
  cases hx : x.block? with
  | none =>
    rw [taken, List.filterMap_cons_none hx]
    rfl
  | some block =>
    rw [taken, List.filterMap_cons_some hx]
    rfl

theorem heard_append (sent : Bytes) (a b : List Happening) :
    heard sent (a ++ b) = heard sent a ++ heard (sent ++ (taken a).flatten) b := by
  induction a generalizing sent with
  | nil => simp [heard, taken]
  | cons x a ih =>
    rw [flatten_taken_cons, ← List.append_assoc, List.cons_append]
    cases x with
    | wrote block answer => exact ih _
    | paused seconds answer => exact ih _
    | reported r =>
      cases r with
      | fraction part => exact ih _
      | copy copy copies part =>
        simp only [heard, ih, Happening.block?, Option.getD_none, List.append_nil,
          List.cons_append]

/-- Nothing is heard of a step that fails. -/
theorem Stops.heard_eq {name : List Char} {connected : Bool} {step : Step} {log : List Happening}
    {e : Failure} (h : Stops name connected step log e) (sent : Bytes) : heard sent log = [] := by
  cases h <;> rfl

/-- **A job that breaks off tells a first part.** -/
theorem Performed.heard_prefix {name : List Char} {connected : Bool} {steps : List Step}
    {r : Except Failure Unit} {log : List Happening} (h : Performed name connected steps r log)
    (sent : Bytes) : heard sent log <+: heard sent (steps.map Step.happening) := by
  induction h generalizing sent with
  | nil => exact List.prefix_rfl
  | stop h =>
    rw [h.heard_eq]
    exact List.nil_prefix
  | @cons step steps r log _ ih =>
    have hfirst : ∀ tail : List Happening, heard sent (step.happening :: tail) =
        heard sent [step.happening] ++ heard (sent ++ (taken [step.happening]).flatten) tail :=
      fun tail => heard_append sent [step.happening] tail
    rw [List.map_cons, hfirst log, hfirst (steps.map Step.happening)]
    exact (List.prefix_append_right_inj _).2 (ih _)

theorem heard_pauses (last : Prop) [Decidable last] (seconds : Float) (sent : Bytes) :
    heard sent ((if last then [] else pauseSteps seconds).map Step.happening) = [] := by
  unfold pauseSteps
  split
  · rfl
  · split <;> rfl

/-! ### What is told if nothing fails -/

/-- What is told of a copy when so many bytes of its stream were taken, after others. -/
def news (data : Bytes) (copies index mark : Nat) : Heard :=
  ⟨(List.replicate index data).flatten ++ data.take mark, index + 1, copies,
    fractionOf mark data.length⟩

/-- How much is taken after each of the chunks that are left. -/
def marks : Nat → List Bytes → List Nat
  | _, [] => []
  | sent, chunk :: rest => (sent + chunk.length) :: marks (sent + chunk.length) rest

/-- How much of its stream is taken at each report of a copy. -/
def labelMarks (data : Bytes) (chunks : List Bytes) : List Nat :=
  0 :: (marks 0 chunks ++ [data.length])

theorem marks_bounds {sent mark : Nat} {chunks : List Bytes} (h : mark ∈ marks sent chunks) :
    sent ≤ mark ∧ mark ≤ sent + chunks.flatten.length := by
  induction chunks generalizing sent with
  | nil => cases h
  | cons chunk rest ih =>
    rw [List.flatten_cons, List.length_append]
    rcases List.mem_cons.1 h with rfl | h
    · omega
    · have := ih h
      omega

theorem pairwise_marks (sent : Nat) (chunks : List Bytes) :
    (marks sent chunks).Pairwise (· ≤ ·) := by
  induction chunks generalizing sent with
  | nil => exact .nil
  | cons chunk rest ih => exact .cons (fun _ h => (marks_bounds h).1) (ih _)

section
variable {data : Bytes} {chunks : List Bytes} (hchunks : chunks.flatten = data)
include hchunks

theorem le_of_mem_labelMarks {mark : Nat} (h : mark ∈ labelMarks data chunks) :
    mark ≤ data.length := by
  simp only [labelMarks, List.mem_cons, List.mem_append, List.not_mem_nil, or_false] at h
  rcases h with rfl | h | rfl
  · exact Nat.zero_le _
  · have := (marks_bounds h).2
    rw [hchunks] at this
    omega
  · exact le_rfl

theorem pairwise_labelMarks : (labelMarks data chunks).Pairwise (· ≤ ·) := by
  refine .cons (fun _ _ => Nat.zero_le _) (List.pairwise_append.2
    ⟨pairwise_marks 0 chunks, List.pairwise_singleton .., fun mark h last hlast => ?_⟩)
  obtain rfl := List.mem_singleton.1 hlast
  exact le_of_mem_labelMarks hchunks (List.mem_cons_of_mem _ (List.mem_append_left _ h))

end

theorem fractionOf_zero (total : Nat) : fractionOf 0 total = 0 := by
  rw [fractionOf, Nat.cast_zero, zero_div, Binary64.toFloat, if_pos rfl]

theorem fractionOf_self {total : Nat} (h : 0 < total) : fractionOf total total = 1 := by
  have hone : (total : ℚ) / total = 1 := div_self (by exact_mod_cast h.ne')
  rw [fractionOf, hone, Binary64.toFloat_one]

section Steps
variable {o : SendOptions} {data : Bytes} {copies index : Nat}
  (hlistener : o.listener = some (Report.copy (index + 1) copies))
include hlistener

theorem heard_reports (part : Float) (sent : Bytes) :
    heard sent ((reportSteps o.listener part).map Step.happening) =
      [⟨sent, index + 1, copies, part⟩] := by
  rw [hlistener]
  rfl

/-- The chunks that are left are told one by one. -/
theorem heard_sendSteps (count : Nat) (at_ : Position) {chunks : List Bytes}
    (hrest : data.drop at_.offset = chunks.flatten) :
    heard ((List.replicate index data).flatten ++ data.take at_.offset)
        ((sendSteps o count data.length at_ chunks).map Step.happening) =
      (marks at_.offset chunks).map (news data copies index) := by
  induction chunks generalizing at_ with
  | nil => rfl
  | cons chunk rest ih =>
    have hchunk : data.take (at_.offset + chunk.length) = data.take at_.offset ++ chunk := by
      rw [List.take_add, hrest, List.flatten_cons, List.take_left]
    have hdrop : data.drop (at_.offset + chunk.length) = rest.flatten := by
      rw [← List.drop_drop, hrest, List.flatten_cons, List.drop_left]
    have hafter := ih ⟨at_.chunk + 1, at_.offset + chunk.length⟩ hdrop
    rw [sendSteps_cons, List.map_cons, List.map_append]
    change heard ((List.replicate index data).flatten ++ data.take at_.offset ++ chunk) _ = _
    rw [List.append_assoc, ← hchunk, heard_append, taken_afterChunk, List.flatten_nil,
      List.append_nil, hafter, afterChunk, List.map_append, heard_append, heard_pauses,
      List.append_nil, heard_reports hlistener]
    rfl

/-- What is told of a copy that is sent as a whole. -/
theorem heard_labelSteps {chunks : List Bytes} (hdata : data ≠ [])
    (hchunks : chunks.flatten = data) :
    heard (List.replicate index data).flatten
        ((labelSteps o data.length chunks).map Step.happening) =
      (labelMarks data chunks).map (news data copies index) := by
  have hsteps := heard_sendSteps hlistener chunks.length ⟨0, 0⟩ hchunks.symm
  rw [List.take_zero, List.append_nil] at hsteps
  have htaken : (taken ((sendSteps o chunks.length data.length ⟨0, 0⟩ chunks).map
      Step.happening)).flatten = data := by
    rw [taken_happening, blocks_sendSteps, hchunks]
  have hfirst : news data copies index 0 =
      ⟨(List.replicate index data).flatten, index + 1, copies, 0⟩ := by
    rw [news, List.take_zero, List.append_nil, fractionOf_zero]
  have hlast : news data copies index data.length =
      ⟨(List.replicate index data).flatten ++ data, index + 1, copies, 1⟩ := by
    rw [news, List.take_length, fractionOf_self (List.length_pos_iff.2 hdata)]
  rw [labelSteps, List.map_append, heard_append, heard_reports hlistener, taken_reports,
    List.flatten_nil, List.append_nil, List.map_append, heard_append, hsteps, htaken,
    heard_reports hlistener, labelMarks, List.map_cons, List.map_append, List.map_singleton,
    hfirst, hlast]
  rfl

end Steps

/-- **All that is told of copies.** -/
def copiesNews (data : Bytes) (chunks : List Bytes) (copies : Nat) (indices : List Nat) :
    List Heard :=
  indices.flatMap fun index => (labelMarks data chunks).map (news data copies index)

/-- What is told of copies that are sent as a whole. -/
theorem heard_copySteps {options : Nat → SendOptions} {data : Bytes} {chunks : List Bytes}
    {copies : Nat} (hlistener : ∀ i, (options i).listener = some (Report.copy (i + 1) copies))
    (hdata : data ≠ []) (hchunks : chunks.flatten = data) (copyDelay : Float) (index n : Nat) :
    heard (List.replicate index data).flatten
        ((copySteps options copyDelay data.length chunks index n).map Step.happening) =
      copiesNews data chunks copies (List.range' index n) := by
  induction n generalizing index with
  | zero => rfl
  | succ n ih =>
    have htaken : (taken ((labelSteps (options index) data.length chunks).map
        Step.happening)).flatten = data := by
      rw [(labelSteps_happening (options index) data.length chunks).1, hchunks]
    have hnext : (List.replicate index data).flatten ++ data =
        (List.replicate (index + 1) data).flatten := by
      rw [List.replicate_succ', List.flatten_append, List.flatten_singleton]
    rw [copySteps, List.map_append, heard_append, heard_labelSteps (hlistener index) hdata hchunks,
      htaken, hnext, List.map_append, heard_append, heard_pauses, taken_pauses, List.flatten_nil,
      List.append_nil, List.nil_append, ih, List.range'_succ]
    rfl

/-! ### Parts of a stream -/

section Parts
variable {m n total : Nat}

theorem part_bounds (h : m ≤ total) : 0 ≤ (m : ℚ) / total ∧ (m : ℚ) / total ≤ 1 := by
  refine ⟨by positivity, div_le_one_of_le₀ ?_ (by positivity)⟩
  exact_mod_cast h

/-- **The part that is told is the double nearest to the true one.** -/
theorem isNearest_fractionOf (h : m ≤ total) : IsNearest (fractionOf m total) (m / total) := by
  obtain ⟨h0, h1⟩ := part_bounds h
  have hfinite : Binary64.nearest ((m : ℚ) / total) < 2 ^ (1024 : ℤ) :=
    (Binary64.nearest_le_one h1).trans_lt (one_lt_zpow₀ (by norm_num) (by norm_num))
  exact Binary64.isNearest_toFloat h0 hfinite

theorem fractionOf_mono (hmn : m ≤ n) (h : n ≤ total) :
    fractionOf m total ≤ fractionOf n total := by
  have hm := (isNearest_fractionOf (hmn.trans h)).ofFloat?_eq
  have hn := (isNearest_fractionOf h).ofFloat?_eq
  rw [Binary64.le_iff_of_ofFloat? hm hn]
  refine Binary64.nearest_mono ?_
  gcongr

theorem fractionOf_bounds (h : m ≤ total) :
    0 ≤ fractionOf m total ∧ fractionOf m total ≤ 1 := by
  obtain ⟨h0, h1⟩ := part_bounds h
  have hm := (isNearest_fractionOf h).ofFloat?_eq
  rw [Binary64.le_iff_of_ofFloat? Binary64.ofFloat?_zero hm,
    Binary64.le_iff_of_ofFloat? hm Binary64.ofFloat?_one]
  exact ⟨Binary64.nearest_nonneg h0, Binary64.nearest_le_one h1⟩

/-- **Only the whole is told as the whole.** -/
theorem eq_of_fractionOf_eq_one (h : m ≤ total) (htotal : total ≤ 2 ^ 53)
    (hone : fractionOf m total = 1) : m = total := by
  by_contra hne
  have hlt := Binary64.nearest_div_lt_one (lt_of_le_of_ne h hne) htotal
  have hm := (isNearest_fractionOf h).ofFloat?_eq
  rw [hone, Binary64.ofFloat?_one] at hm
  rw [← Option.some.inj hm] at hlt
  exact lt_irrefl _ hlt

end Parts

/-! ### The news of copies -/

section News
variable {data : Bytes} {chunks : List Bytes} {copies : Nat} {indices : List Nat}

theorem mem_copiesNews {x : Heard} : x ∈ copiesNews data chunks copies indices ↔
    ∃ index ∈ indices, ∃ mark ∈ labelMarks data chunks, news data copies index mark = x := by
  simp only [copiesNews, List.mem_flatMap, List.mem_map]

/-- The copies are told in order, and of each copy a growing part. -/
theorem pairwise_copiesNews (hchunks : chunks.flatten = data) (h : indices.Pairwise (· < ·)) :
    (copiesNews data chunks copies indices).Pairwise fun x y =>
      x.copy ≤ y.copy ∧ (x.copy = y.copy → x.part ≤ y.part) := by
  refine List.pairwise_flatMap.2 ⟨fun index _ => List.pairwise_map.2 ?_,
    h.imp fun hlt x hx y hy => ?_⟩
  · refine (pairwise_labelMarks hchunks).imp_of_mem fun _ hn hmn => ⟨le_rfl, fun _ => ?_⟩
    exact fractionOf_mono hmn (le_of_mem_labelMarks hchunks hn)
  · obtain ⟨m, -, rfl⟩ := List.mem_map.1 hx
    obtain ⟨n, -, rfl⟩ := List.mem_map.1 hy
    simp only [news]
    exact ⟨by omega, by omega⟩

/-- Each copy is told from its beginning. -/
theorem part_of_find?_copiesNews {i : Nat} {x : Heard}
    (h : (copiesNews data chunks copies indices).find? (·.copy = i) = some x) : x.part = 0 := by
  rw [copiesNews, List.find?_flatMap] at h
  obtain ⟨index, -, hfind⟩ := List.exists_of_findSome?_eq_some h
  by_cases hindex : index + 1 = i
  · rw [labelMarks, List.map_cons, List.find?_cons_of_pos (by simpa [news] using hindex)] at hfind
    obtain rfl := Option.some.inj hfind
    exact fractionOf_zero _
  · obtain ⟨mark, -, rfl⟩ := List.mem_map.1 (List.mem_of_find?_eq_some hfind)
    have hcopy := List.find?_some hfind
    simp only [decide_eq_true_eq] at hcopy
    exact absurd hcopy hindex

theorem getLast?_copiesNews (n : Nat) :
    (copiesNews data chunks copies (List.range' 0 (n + 1))).getLast? =
      some (news data copies n data.length) := by
  rw [copiesNews, List.range'_concat, List.flatMap_append, List.flatMap_singleton, labelMarks,
    ← List.cons_append, List.map_append, List.map_singleton, ← List.append_assoc,
    List.getLast?_concat]
  simp

end News

/-! ### The news over any port -/

section Job
variable {p : Printer} {bitmap data : Bytes} {width height copies : Int}

theorem length_encodeLabel_le (h : Wire.encodeLabel bitmap width height p.feedMm = .ok data) :
    data.length ≤ 2 ^ 53 := by
  obtain ⟨hp, dots, -, rfl⟩ := Wire.encodeLabel_eq_ok_iff.1 h
  obtain ⟨h0, h1⟩ := hp.rowBytes_bounds
  have hheight := hp.height_pos
  have hbitmap : (bitmap.length : Int) ≤ 48 * 65535 := by
    rw [hp.length_eq, ← Wire.rowBytesOf_eq_ceil]
    exact mul_le_mul h1 hp.height_le (by omega) (by omega)
  have hfeed : (Wire.feedCommand dots).length = 3 := rfl
  have hbitmap' : (Wire.extractOf bitmap width height).bitmap = bitmap := rfl
  rw [List.length_append, Wire.length_layout, hfeed, hbitmap']
  omega

/-- **The plan of copies** of a label that has a stream tells the news of copies, as far as it
goes. -/
theorem heard_copiesPlan (hd : Wire.encodeLabel bitmap width height p.feedMm = .ok data) (n : Nat) :
    ∃ chunks : List Bytes, chunks.flatten = data ∧
      let plan := p.copiesPlan bitmap width height (n + 1) (some Report.copy) 0 (n + 1)
      heard [] (plan.steps.map Step.happening) <+:
          copiesNews data chunks (n + 1) (List.range' 0 (n + 1)) ∧
        (plan.ending = .ok () → heard [] (plan.steps.map Step.happening) =
          copiesNews data chunks (n + 1) (List.range' 0 (n + 1))) := by
  by_cases hs : 0 < p.chunkSize
  · have hsize : 0 < p.chunkSize.toNat := by omega
    have hchunks := flatten_chunksOf hsize data
    have hlistener : ∀ i, (p.copyOptions (n + 1) (some Report.copy) i).listener =
        some (Report.copy (i + 1) (n + 1)) := fun _ => rfl
    have hnews := heard_copySteps hlistener (Wire.ne_nil_of_encodeLabel hd) hchunks p.copyDelay 0
      (n + 1)
    refine ⟨_, hchunks, ?_⟩
    rw [p.copiesPlan_eq hs hd]
    exact ⟨hnews ▸ List.prefix_rfl, fun _ => hnews⟩
  · -- The stream cannot be cut into chunks, and only its beginning is told.
    have hplan : p.copiesPlan bitmap width height (n + 1) (some Report.copy) 0 (n + 1) =
        ⟨reportSteps (some (Report.copy 1 (n + 1))) 0, .error (.chunkSize p.chunkSize)⟩ := by
      simp only [Printer.copiesPlan, Printer.labelPlan, hd, sendPlan, chunks, not_lt.1 hs, if_true]
      rfl
    have hfirst : (⟨[], 1, n + 1, 0⟩ : Heard) = news data (n + 1) 0 0 := by
      rw [news, fractionOf_zero]
      rfl
    refine ⟨[data], List.append_nil data, ?_⟩
    rw [hplan]
    refine ⟨?_, by simp⟩
    change [(⟨[], 1, n + 1, 0⟩ : Heard)] <+: _
    rw [hfirst, copiesNews, List.range'_succ, List.flatMap_cons, labelMarks, List.map_cons,
      List.cons_append]
    exact List.cons_prefix_cons.2 ⟨rfl, List.nil_prefix⟩

end Job

/-- A job of its own that is turned away does nothing. -/
theorem exclusively_runOn_refused {σ α : Type} (p : Printer) (port : Port σ) {s : σ}
    (h : port.isBusy s = true ∨ port.isConnected s = false) (job : Job α) :
    ∃ e, (p.exclusively job).runOn port s = (.error e, s) := by
  simp only [Job.runOn, run_exclusively, Program.run]
  cases hb : port.isBusy s with
  | true => exact ⟨_, rfl⟩
  | false =>
    have hc : port.isConnected s = false := h.resolve_left (by simp [hb])
    simp only [Bool.false_eq_true, if_false, Program.run, hc]
    exact ⟨_, rfl⟩

section Copies
variable {σ : Type} (port : Port σ) (s : σ) (p : Printer) (bitmap : Bytes)
  (width height copies : Int)

/-- Copies tell nothing, and fail; or they tell a first part of their news, and all of them if they
end well. -/
theorem printCopies_heard :
    ∃ r t log, (p.printCopies bitmap width height copies (some Report.copy)).runOn port.recorded
        (s, []) = (r, t, log) ∧
      ((heard [] log = [] ∧ r ≠ .ok ()) ∨
        ∃ (n : Nat) (data : Bytes) (chunks : List Bytes), copies = n + 1 ∧
          Wire.encodeLabel bitmap width height p.feedMm = .ok data ∧ chunks.flatten = data ∧
          let all := copiesNews data chunks (n + 1) (List.range' 0 (n + 1))
          heard [] log <+: all ∧ (r = .ok () → heard [] log = all)) := by
  by_cases hcopies : copies < 1
  · refine ⟨.error (.copies copies), s, [], ?_, .inl ⟨rfl, by simp⟩⟩
    rw [Printer.printCopies, if_pos hcopies]
    rfl
  obtain ⟨n, rfl⟩ : ∃ n : Nat, copies = n + 1 := ⟨(copies - 1).toNat, by omega⟩
  have htoNat : ((n : Int) + 1).toNat = n + 1 := by omega
  rw [Printer.printCopies, if_neg hcopies, htoNat]
  by_cases hfree : port.isBusy s = false ∧ port.isConnected s = true
  swap
  · obtain ⟨e, he⟩ := exclusively_runOn_refused p port.recorded (s := (s, []))
      (by simpa [Port.recorded, imp_iff_not_or] using hfree)
      (p.sendCopies bitmap width height (n + 1) (some Report.copy) 0 (n + 1))
    exact ⟨_, _, _, he, .inl ⟨rfl, by simp⟩⟩
  set plan := p.copiesPlan bitmap width height (n + 1) (some Report.copy) 0 (n + 1) with hplan
  obtain ⟨r, t, log, hrun, hp⟩ := plan.job_runOn port p.name (port.setBusy true s) []
  rw [hplan, ← Printer.sendCopies_eq, ← hplan, List.nil_append] at hrun
  have hb : port.recorded.isBusy (s, []) = false := hfree.1
  have hc : port.recorded.isConnected (s, []) = true := hfree.2
  have hset : port.recorded.setBusy true (s, []) = (port.setBusy true s, []) := rfl
  refine ⟨afterSteps r plan.ending, port.setBusy false t, log, ?_, ?_⟩
  · rw [exclusively_runOn p port.recorded hb hc, hset, hrun]
    rfl
  cases hd : Wire.encodeLabel bitmap width height p.feedMm with
  | error e =>
    rw [hplan, p.copiesPlan_of_error hd] at hp ⊢
    cases hp
    exact .inl ⟨rfl, by simp [afterSteps, Plan.stop]⟩
  | ok data =>
    obtain ⟨chunks, hchunks, hfirst, hall⟩ := heard_copiesPlan hd n
    refine .inr ⟨n, data, chunks, rfl, rfl, hchunks, (hp.heard_prefix []).trans hfirst, ?_⟩
    intro hok
    obtain ⟨rfl, hending⟩ := afterSteps_eq_ok.1 hok
    rw [hp.of_ok]
    exact hall hending

/-- **Progress over any port**, whatever it answers. The copies are told in order; the parts of a
copy begin at zero, do not shrink and lie between zero and one. A report is made when the port has
taken the copies before and `sent` bytes of this one, and its part is the double nearest to what
these are of the stream; only all bytes are told as one. If the job ends well, the last report is
that of the whole of the last copy. -/
theorem printCopies_progress :
    ∃ r t log, (p.printCopies bitmap width height copies (some Report.copy)).runOn port.recorded
        (s, []) = (r, t, log) ∧
      ((heard [] log).Pairwise fun x y =>
        x.copy ≤ y.copy ∧ (x.copy = y.copy → x.part ≤ y.part)) ∧
      (∀ i x, (heard [] log).find? (·.copy = i) = some x → x.part = 0) ∧
      (∀ x ∈ heard [] log, ((x.copies : Int) = copies ∧ 1 ≤ x.copy ∧ (x.copy : Int) ≤ copies) ∧
        (0 ≤ x.part ∧ x.part ≤ 1) ∧
        ∃ (data : Bytes) (sent : Nat),
          Wire.encodeLabel bitmap width height p.feedMm = .ok data ∧ sent ≤ data.length ∧
          x.sent = (List.replicate (x.copy - 1) data).flatten ++ data.take sent ∧
          IsNearest x.part (sent / data.length) ∧ (x.part = 1 → sent = data.length)) ∧
      (r = .ok () → ∃ x, (heard [] log).getLast? = some x ∧
        ((x.copy : Int) = copies ∧ (x.copies : Int) = copies) ∧ x.part = 1) := by
  obtain ⟨r, t, log, hrun, ⟨hnone, hr⟩ | ⟨n, data, chunks, rfl, hd, hchunks, hfirst, hall⟩⟩ :=
    printCopies_heard port s p bitmap width height copies
  · refine ⟨r, t, log, hrun, ?_⟩
    rw [hnone]
    exact ⟨.nil, by simp, by simp, fun h => absurd h hr⟩
  refine ⟨r, t, log, hrun, ?_, fun i x hx => ?_, fun x hx => ?_, fun hok => ?_⟩
  · exact (pairwise_copiesNews hchunks List.pairwise_lt_range').sublist hfirst.sublist
  · exact part_of_find?_copiesNews (hfirst.find?_eq_some hx)
  · obtain ⟨index, hindex, mark, hmark, rfl⟩ := mem_copiesNews.1 (hfirst.subset hx)
    have hle := le_of_mem_labelMarks hchunks hmark
    have hcopy : index < n + 1 := by
      have := List.mem_range'_1.1 hindex
      omega
    refine ⟨?_, fractionOf_bounds hle, data, mark, hd, hle, rfl, isNearest_fractionOf hle,
      eq_of_fractionOf_eq_one hle (length_encodeLabel_le hd)⟩
    simp only [news]
    omega
  · have hpos : 0 < data.length := List.length_pos_iff.2 (Wire.ne_nil_of_encodeLabel hd)
    rw [hall hok, getLast?_copiesNews]
    exact ⟨_, rfl, ⟨rfl, rfl⟩, fractionOf_self hpos⟩

end Copies

end LabelPress.Transmission
