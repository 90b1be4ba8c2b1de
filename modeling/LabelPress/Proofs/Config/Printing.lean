import LabelPress.Proofs.Label.Feeds
import LabelPress.Proofs.Link.Errand
import LabelPress.Proofs.Link.Reliable

/-!
# Printing with an accepted configuration

A printer that a configuration accepts has chunks of at least one byte, and times and a feed that
are not negative. Nothing but a feed of too many millimetres is left to make it fail: over a
reliable link, copies of a printable bitmap fail exactly if the feed has no dots. Times may be
infinite, and then a pause that is made does not end.

* `PrinterConfig.Checked`, `PrinterConfig.checked_of_read`: what is checked of a printer.
* `pause_mem_copySteps`: the pauses that copies make; `PrinterConfig.Paces` tells whether they end.
* `Completed`, `PrinterConfig.CanPrint`: a job that is completed, and printers that complete it.
* `printCopies_completed_iff`: a printer completes its copies exactly if it can print.
-/

namespace LabelPress

open Binary64 Transmission
open Wire (Bytes)

/-! ### What is checked -/

namespace PrinterConfig

open Config

/-- **What is checked of a printer.** -/
structure Checked (p : PrinterConfig) : Prop where
  chunkSize_pos : 0 < p.chunkSize
  chunkDelay_nonneg : 0 ≤ p.chunkDelay
  copyDelay_nonneg : 0 ≤ p.copyDelay
  feedMm_nonneg : 0 ≤ p.feedMm

theorem nonneg_of_amount {name : String} {default x : Float} {m : Fields} (hdefault : 0 ≤ default)
    (h : optional name default amount m = .accepted x) : 0 ≤ x := by
  rcases optional_eq_accepted h with rfl | ⟨v, hv⟩
  · exact hdefault
  · obtain ⟨y, -, hy⟩ := Verdict.andThen_eq_accepted_iff.1 hv
    obtain ⟨hpos, rfl⟩ := atLeastZero_eq_accepted_iff.1 hy
    exact hpos

/-- **An accepted printer was checked.** -/
theorem checked_of_read {d : Yaml.Document} {v : Yaml.Value} {p : PrinterConfig}
    (h : read d v = .accepted p) : p.Checked := by
  have hsize := chunkSize_pos_of_read h
  obtain ⟨m, -, h⟩ := Verdict.andThen_eq_accepted_iff.1 h
  simp only [ofFields, Verdict.seq_eq_accepted_iff] at h
  obtain ⟨_, _, ⟨_, _, ⟨_, _, ⟨_, _, ⟨_, _, hg, _, rfl⟩, _, rfl⟩, hchunk, rfl⟩, hcopy, rfl⟩, hfeed,
    rfl⟩ := h
  obtain ⟨_, _, rfl⟩ := Verdict.map_eq_accepted_iff.1 hg
  exact ⟨hsize, nonneg_of_amount (by decide) hchunk, nonneg_of_amount (by decide) hcopy,
    nonneg_of_amount (by decide) hfeed⟩

end PrinterConfig

/-! ### The pauses of copies -/

namespace Transmission

theorem pause_mem_pauseSteps {seconds delay : Float} :
    .pause seconds ∈ pauseSteps delay ↔ seconds = delay ∧ 0 < delay := by
  unfold pauseSteps
  split_ifs with h
  · simp [h]
  · simp [h]

theorem pause_not_mem_reportSteps {listener : Option (Float → Report)} {part seconds : Float} :
    .pause seconds ∉ reportSteps listener part := by
  cases listener with
  | none => nofun
  | some f =>
    intro h
    cases List.mem_singleton.1 h

/-- A transmission pauses if it has more than one chunk. -/
theorem pause_mem_sendSteps {o : SendOptions} {count total : Nat} {at_ : Position}
    {chunks : List Bytes} {seconds : Float} :
    .pause seconds ∈ sendSteps o count total at_ chunks ↔
      (seconds = o.delay ∧ 0 < o.delay) ∧ 1 < chunks.length := by
  induction chunks generalizing at_ with
  | nil => simp [sendSteps]
  | cons chunk rest ih =>
    have hsend : Step.pause seconds ≠ .send at_ count chunk := by simp
    simp only [sendSteps, List.mem_cons, List.mem_append, hsend, pause_not_mem_reportSteps, ih,
      false_or, List.length_cons]
    cases rest with
    | nil => simp
    | cons next rest =>
      simp only [List.isEmpty_cons, Bool.false_eq_true, if_false, pause_mem_pauseSteps,
        List.length_cons]
      exact ⟨fun h => ⟨h.elim id And.left, by omega⟩, fun h => .inl h.1⟩

/-- **The pauses that copies make**: between the chunks of a copy, and between two copies. -/
theorem pause_mem_copySteps {options : Nat → SendOptions} {chunkDelay copyDelay seconds : Float}
    {total : Nat} {chunks : List Bytes} (hdelay : ∀ i, (options i).delay = chunkDelay)
    {index n : Nat} :
    .pause seconds ∈ copySteps options copyDelay total chunks index n ↔
      ((seconds = chunkDelay ∧ 0 < chunkDelay) ∧ 1 < chunks.length ∧ 0 < n) ∨
        ((seconds = copyDelay ∧ 0 < copyDelay) ∧ 1 < n) := by
  induction n generalizing index with
  | zero => simp [copySteps]
  | succ n ih =>
    simp only [copySteps, labelSteps, List.mem_append, pause_not_mem_reportSteps,
      pause_mem_sendSteps, ih, hdelay, false_or, or_false]
    by_cases hn : n = 0
    · simp [hn]
    · have hpos : 0 < n := Nat.pos_of_ne_zero hn
      simp only [if_neg hn, pause_mem_pauseSteps, hpos, Nat.succ_pos, and_true]
      grind

theorem pause_mem_labelSteps {o : SendOptions} {total : Nat} {chunks : List Bytes}
    {seconds : Float} (h : .pause seconds ∈ labelSteps o total chunks) : seconds = o.delay := by
  simp only [labelSteps, List.mem_append, pause_not_mem_reportSteps, pause_mem_sendSteps, false_or,
    or_false] at h
  exact h.1.1

theorem Printer.delay_of_mem_copySteps {p : Printer}
    {listener : Option (Nat → Nat → Float → Report)} {total length index n : Nat}
    {chunks : List Bytes} {seconds : Float}
    (h : .pause seconds ∈
      copySteps (p.copyOptions total listener) p.copyDelay length chunks index n) :
    seconds = p.chunkDelay ∨ seconds = p.copyDelay := by
  have hdelay (i : Nat) : (p.copyOptions total listener i).delay = p.chunkDelay := rfl
  exact ((pause_mem_copySteps hdelay).1 h).imp (·.1.1) (·.1.1)

/-- A request that has a stream pauses for the delays of its printer, and for no other time. -/
theorem Request.pause_mem_plan {p : Printer} {request : Request} {data : Bytes} {seconds : Float}
    (hs : 0 < p.chunkSize) (h : request.encoded p = .ok data)
    (hmem : .pause seconds ∈ (request.plan p).steps) :
    seconds = p.chunkDelay ∨ seconds = p.copyDelay := by
  cases request with
  | bitmap b width height listener =>
    rw [plan, p.labelPlan_eq hs (mapError_eq_ok_iff.1 h)] at hmem
    exact .inl (pause_mem_labelSteps hmem)
  | copies b width height n listener =>
    rw [plan, p.copiesPlan_eq hs (mapError_eq_ok_iff.1 h)] at hmem
    exact Printer.delay_of_mem_copySteps hmem
  | label l n listener =>
    rw [plan, p.copiesPlan_eq hs (mapError_eq_ok_iff.1 h)] at hmem
    exact Printer.delay_of_mem_copySteps hmem
  | feed mm =>
    rw [plan, Printer.feedPlan, mapError_eq_ok_iff.1 h] at hmem
    dsimp only at hmem
    rw [sendPlan_eq hs] at hmem
    have hpos : (0 : Float) < 0 := (pause_mem_sendSteps.1 hmem).1.2
    exact absurd hpos (by decide)
  | test =>
    rw [encoded, mapError_eq_ok_iff] at h
    rw [plan, p.labelPlan_eq hs h] at hmem
    exact .inl (pause_mem_labelSteps hmem)

end Transmission

namespace Link

theorem paused_mem_visit {target : Connection} {steps : List Step} {seconds : Float} :
    .paused seconds ∈ visit target steps ↔ .pause seconds ∈ begun steps := by
  have harrival : LinkEvent.paused seconds ∉ arrival target := by
    cases target <;> simp [arrival]
  have hclosing : LinkEvent.paused seconds ∉ if steps.all Step.ends then [.closed] else [] := by
    split_ifs <;> simp
  have hstep (step : Step) : step.event target = .paused seconds ↔ step = .pause seconds := by
    cases step <;> simp [Step.event]
  simp only [visit, List.mem_append, harrival, hclosing, List.mem_map, hstep, false_or, or_false,
    exists_eq_right]

theorem Reliable.unused {l : Link} (h : l.Reliable) : l.Unused :=
  ⟨h.marked, h.handle, h.busy, h.record, h.timeless, h.waiting⟩

theorem Reliable.answers {l : Link} (h : l.Reliable) : l.Answers := headD_eq_of_forall h.openings

theorem Reliable.closes {l : Link} (h : l.Reliable) : l.Closes := by
  intro c what _ hfails
  rw [headD_eq_of_forall h.closings] at hfails
  cases hfails

end Link

/-! ### Printing -/

/-- What is not negative passes, or a pause is made of it. -/
theorem pos_of_not_passing {seconds : Float} (h0 : 0 ≤ seconds) (h : ¬Passing seconds) :
    0 < seconds := by
  rcases zero_le_cases h0 with ⟨q, hq, -⟩ | hinfinity
  · exact absurd ⟨q, hq⟩ h
  · rw [lt_iff, hinfinity]
    exact (stands_of_ofFloat? ofFloat?_zero).lt_infinity.2

/-- **The pauses end** that a printer makes in so many copies of a stream of so many bytes. -/
def PrinterConfig.Paces (p : PrinterConfig) (length : Nat) (copies : Int) : Prop :=
  (p.chunkSize < length → Passing p.chunkDelay) ∧ (1 < copies → Passing p.copyDelay)

/-- The steps of the copies end exactly if the pauses do. -/
theorem PrinterConfig.Checked.all_ends_iff {p : PrinterConfig} (h : p.Checked) (stream : Bytes)
    (listener : Option (Nat → Nat → Float → Report)) {copies : Int} (hcopies : 1 ≤ copies) :
    (copySteps (p.printer.copyOptions copies.toNat listener) p.copyDelay stream.length
        (chunksOf p.chunkSize.toNat stream) 0 copies.toNat).all Step.ends = true ↔
      p.Paces stream.length copies := by
  have hsize := h.chunkSize_pos
  have hlong : 1 < (chunksOf p.chunkSize.toNat stream).length ↔ p.chunkSize < stream.length := by
    rw [length_chunksOf (by omega), lt_ceilDiv_iff (by omega)]
    omega
  have hdelay (i : Nat) : (p.printer.copyOptions copies.toNat listener i).delay = p.chunkDelay :=
    rfl
  have hone : 0 < copies.toNat := by omega
  have hmany : 1 < copies.toNat ↔ 1 < copies := by omega
  rw [Transmission.all_ends_iff]
  simp only [pause_mem_copySteps hdelay, hlong, hmany, hone, and_true]
  constructor
  · -- A pause that is not made is none that would not end.
    intro hends
    refine ⟨fun hlarge => ?_, fun hcopies => ?_⟩
    · by_contra hnot
      have hpos := pos_of_not_passing h.chunkDelay_nonneg hnot
      exact hnot (hends _ (.inl ⟨⟨rfl, hpos⟩, hlarge⟩))
    · by_contra hnot
      have hpos := pos_of_not_passing h.copyDelay_nonneg hnot
      exact hnot (hends _ (.inr ⟨⟨rfl, hpos⟩, hcopies⟩))
  · rintro ⟨hchunk, hcopy⟩ seconds (⟨⟨rfl, -⟩, hlarge⟩ | ⟨⟨rfl, -⟩, hcopies⟩)
    · exact hchunk hlarge
    · exact hcopy hcopies

/-- **A job that is completed**: no failure ended it, and every pause in it ended. -/
structure Completed (end_ : Except Failure Unit × Link) : Prop where
  ok : end_.1 = .ok ()
  pauses : ∀ seconds, .paused seconds ∈ end_.2.events → Passing seconds

/-- **A printer that can print** so many copies of a bitmap of so many bytes. -/
structure PrinterConfig.CanPrint (p : PrinterConfig) (size : Nat) (copies : Int) : Prop where
  feed : Feedable p.feedMm
  /-- The stream of the bitmap has 16 bytes more than the bitmap. -/
  chunkDelay : p.chunkSize < size + 16 → Passing p.chunkDelay
  copyDelay : 1 < copies → Passing p.copyDelay

section
variable {p : PrinterConfig} {bitmap stream : Bytes} {width height copies : Int} {l : Link}
  (listener : Option (Nat → Nat → Float → Report))

theorem length_stream {feedMm : Measure}
    (h : Wire.encodeLabel bitmap width height feedMm = .ok stream) :
    stream.length = bitmap.length + 16 := by
  obtain ⟨-, dots, -, rfl⟩ := Wire.encodeLabel_eq_ok_iff.1 h
  have hbytes : (Wire.extractOf bitmap width height).bitmap = bitmap := rfl
  have hfeed : (Wire.feedCommand dots).length = 3 := rfl
  rw [List.length_append, Wire.length_layout, hbytes, hfeed]
  omega

/-- Copies of a label that has a stream, over a reliable link. -/
theorem whileConnected_printCopies (hlink : l.Reliable) (hsize : 0 < p.chunkSize)
    (hcopies : 1 ≤ copies)
    (hstream : Wire.encodeLabel bitmap width height (.real p.feedMm) = .ok stream) :
    let steps := copySteps (p.printer.copyOptions copies.toNat listener) p.copyDelay stream.length
      (chunksOf p.chunkSize.toNat stream) 0 copies.toNat
    ∃ t,
      l.whileConnected ((p.printer.printCopies bitmap width height copies listener).runOn Link.port)
        = (Link.endOf steps, t) ∧ t.events = Link.visit l.target steps := by
  have hplan := p.printer.copiesPlan_eq hsize hstream copies.toNat listener 0 copies.toNat
  rw [Printer.printCopies, if_neg (by omega), p.printer.sendCopies_eq, hplan, Plan.job_ofSteps]
  exact hlink.whileConnected_exclusively p.printer _

/-- A label whose feed has no dots fails before anything is sent. -/
theorem printCopies_of_not_feedable (hlink : l.Reliable) (hsize : 0 < p.chunkSize)
    (hcopies : 1 ≤ copies) (hbitmap : Wire.Printable bitmap width height) (h0 : 0 ≤ p.feedMm)
    (h : ¬Feedable p.feedMm) :
    (l.whileConnected
      ((p.printer.printCopies bitmap width height copies listener).runOn Link.port)).1 =
      .error (.encoding (.feed .infinite)) := by
  have hencoded : (Request.copies bitmap width height copies listener).encoded p.printer =
      .error (.encoding (.feed .infinite)) := by
    have hfeed : dotsOf p.printer.feedMm = .error .infinite := dotsOf_of_not_feedable h0 h
    rw [Request.encoded, hbitmap.encodeLabel_eq, hfeed]
    rfl
  obtain ⟨r, m, hrun, herrand, -⟩ := hlink.unused.errand (p := p.printer) hsize
    (.copies bitmap width height copies listener)
  rw [Request.job] at hrun
  rw [hrun]
  have hattempt {e : Except Failure Unit} {blocks : List Bytes}
      (h : Attempt p.printer (.copies bitmap width height copies listener) e blocks) :
      e = .error (.encoding (.feed .infinite)) := by
    cases h with
    | tooFew hcount => exact absurd hcopies (not_le.2 hcount)
    | unencoded _ he => rw [Except.error.inj (he.symm.trans hencoded)]
    | cut _ hdata =>
      rw [hencoded] at hdata
      cases hdata
    | delivered _ hdata =>
      rw [hencoded] at hdata
      cases hdata
  cases herrand with
  | closed he =>
    rw [Link.openFault?_eq_none_iff.2 hlink.answers] at he
    cases he
  | waiting _ h => cases hattempt h
  | retained _ hfails => exact absurd hlink.closes hfails
  | done _ _ _ h => exact hattempt h

/-- **A printer completes its copies exactly if it can print.** Let data be accepted as a printer,
let a bitmap be printable, and let all go well at the link. Printing then ends without a failure, or
pauses without end, exactly if the feed after a label has its dots; and it is completed exactly if,
besides, the pauses that are made are finite. -/
theorem printCopies_completed_iff {d : Yaml.Document} {v : Yaml.Value}
    (hread : PrinterConfig.read d v = .accepted p) (hbitmap : Wire.Printable bitmap width height)
    (hcopies : 1 ≤ copies) (hlink : l.Reliable) :
    let end_ := l.whileConnected
      ((p.printer.printCopies bitmap width height copies listener).runOn Link.port)
    (end_.1 = .ok () ∨ end_.1 = .error .endless ↔ Feedable p.feedMm) ∧
      (Completed end_ ↔ p.CanPrint bitmap.length copies) := by
  intro end_
  have hchecked := PrinterConfig.checked_of_read hread
  have hsize := hchecked.chunkSize_pos
  have hfeed := hchecked.feedMm_nonneg
  by_cases hfits : Feedable p.feedMm
  · obtain ⟨dots, hdots⟩ := dotsOf_of_feedable hfeed hfits
    obtain ⟨stream, hstream⟩ : ∃ stream,
        Wire.encodeLabel bitmap width height (.real p.feedMm) = .ok stream :=
      ⟨_, Wire.encodeLabel_eq_ok_iff.2 ⟨hbitmap, dots, hdots, rfl⟩⟩
    obtain ⟨t, hend, hevents⟩ := whileConnected_printCopies listener hlink hsize hcopies hstream
    have hpaces := hchecked.all_ends_iff stream listener hcopies
    have hcan : p.CanPrint bitmap.length copies ↔ p.Paces stream.length copies := by
      rw [length_stream hstream]
      exact ⟨fun h => ⟨h.chunkDelay, h.copyDelay⟩, fun h => ⟨hfits, h.1, h.2⟩⟩
    -- The job ends as its steps do, and it is completed if they all end.
    rw [hcan, ← hpaces, show end_ = _ from hend, Link.endOf]
    refine ⟨iff_of_true ?_ hfits, fun h => ?_, fun hends => ⟨if_pos hends, fun seconds hmem => ?_⟩⟩
    · split_ifs <;> simp
    · by_contra hends
      cases (if_neg hends).symm.trans h.ok
    · rw [hevents, Link.paused_mem_visit, begun_eq_self hends] at hmem
      exact all_ends_iff.1 hends seconds hmem
  · have hfails : end_.1 = .error (.encoding (.feed .infinite)) :=
      printCopies_of_not_feedable listener hlink hsize hcopies hbitmap hfeed hfits
    have hnot (h : end_.1 = .ok () ∨ end_.1 = .error .endless) : False := by
      rcases h with h | h <;> cases hfails.symm.trans h
    exact ⟨iff_of_false hnot hfits, iff_of_false (fun h => hnot (.inl h.ok)) fun h => hfits h.feed⟩

end

/-! ### A printer behind a socket -/

/-- A printer behind a socket. -/
def socketPrinter (mm : Float) : PrinterConfig :=
  { connection := .tcp { host := "press".toList }, feedMm := mm }

/-- The document that tells of it. -/
def socketDocument (mm : Float) : Yaml.Document where
  root := .collection 0
  collections := #[
    .mapping [(.text "connection".toList, .collection 1), (.text "feed_mm".toList, .real mm none)],
    .mapping [(.text "type".toList, .text "tcp".toList),
      (.text "host".toList, .text "press".toList)]]

/-- The link to it. -/
def socketLink : Link := { target := .tcp { host := "press".toList } }

theorem reliable_socketLink : socketLink.Reliable :=
  ⟨rfl, rfl, rfl, rfl, rfl, rfl, by simp [socketLink], by simp [socketLink], by simp [socketLink]⟩

theorem printable_byte : Wire.Printable [0] 8 1 :=
  ⟨by decide, by decide, by decide, by decide, by rw [← Wire.rowBytesOf_eq_ceil]; decide⟩

theorem printCopies_completed_iff_thousand :
    PrinterConfig.read (socketDocument 1000) (.collection 0) = .accepted (socketPrinter 1000) ∧
      Wire.Printable [0] 8 1 ∧ (1 : Int) ≤ 2 ∧ socketLink.Reliable ∧
      Completed (socketLink.whileConnected
        (((socketPrinter 1000).printer.printCopies [0] 8 1 2 none).runOn Link.port)) := by
  have hread : PrinterConfig.read (socketDocument 1000) (.collection 0) =
      .accepted (socketPrinter 1000) := rfl
  have hthousand : ofFloat? (1000 : Float) = some 1000 := ofFloat?_ofNat (n := 1000) (by decide)
  have hlimit : (1000 : ℚ) < 2 ^ (1021 : ℤ) :=
    calc (1000 : ℚ) < 2 ^ (10 : ℤ) := by norm_num
      _ ≤ 2 ^ (1021 : ℤ) := zpow_le_zpow_right₀ (by norm_num) (by norm_num)
  refine ⟨hread, printable_byte, by decide, reliable_socketLink, ?_⟩
  exact (printCopies_completed_iff none hread printable_byte (by decide) reliable_socketLink).2.2
    ⟨⟨1000, hthousand, hlimit⟩, fun _ => ⟨_, rfl⟩, fun _ => ⟨_, rfl⟩⟩

/-- **An infinite feed** is accepted, and no label can be printed with it. -/
theorem printCopies_infinite_feed :
    PrinterConfig.read (socketDocument (1 / 0)) (.collection 0) =
        .accepted (socketPrinter (1 / 0)) ∧
      Wire.Printable [0] 8 1 ∧ socketLink.Reliable ∧
      (socketLink.whileConnected
        (((socketPrinter (1 / 0)).printer.printCopies [0] 8 1 1 none).runOn Link.port)).1 =
          .error (.encoding (.feed .infinite)) := by
  have hread : PrinterConfig.read (socketDocument (1 / 0)) (.collection 0) =
      .accepted (socketPrinter (1 / 0)) := rfl
  have hinfinite : ofFloat? (1 / 0 : Float) = none := by decide
  obtain ⟨hsize, -, -, hfeed⟩ := PrinterConfig.checked_of_read hread
  refine ⟨hread, printable_byte, reliable_socketLink, ?_⟩
  exact printCopies_of_not_feedable none reliable_socketLink hsize (by decide) printable_byte hfeed
    fun ⟨q, hq, _⟩ => nomatch hinfinite.symm.trans hq

end LabelPress
