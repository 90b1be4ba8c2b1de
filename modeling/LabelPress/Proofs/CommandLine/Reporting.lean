import LabelPress.Proofs.CommandLine.Labels
import LabelPress.Proofs.CommandLine.Saving

/-!
# What a run reports

A run is to end with an exit code, zero if what was asked for was done and one if a message tells
why not. Some failures leave it otherwise. Which ones these are depends on the command, on what the
configuration says, and on what the link does before the failure is noticed, and after it. Also a
run does not end if it pauses without end.

* `CommandEscapes`, `Escapes`: the runs that leave by a failure that no message tells.
* `Delivers`: what was asked for was done.
* `settles_runJob`: a request at the printer.
* `settles_runCommand`: every command.
* `run_reports_iff`: a run ends with an exit code exactly if it does not escape and begins no pause
  without end, and with zero only if it delivers.
-/

namespace LabelPress

open Transmission
open Wire (Bytes)

namespace CommandLine

variable {s : Surroundings} {c : AppConfig} {p : PrinterConfig} {a : LabelArguments}
  {label : RenderedLabel}

/-! ### Escaping and delivering -/

/-- **The request that a command makes** at its printer. -/
inductive Requests (s : Surroundings) (c : AppConfig) : Command → Request → Prop
  | print {a : LabelArguments} {copies : Int} {label : RenderedLabel}
    (hlabel : renderLabel s c a = .ok label) :
    Requests s c (.print a copies) (.label label copies (some .copy))
  | feed {mm : Float} : Requests s c (.feed mm) (.feed (.real mm))
  | test : Requests s c .test .test

/-- **A link that tells how a request went**: the other end answers, and the handle is taken
back. -/
def Tells (s : Surroundings) (p : PrinterConfig) : Prop :=
  (s.link p.connection).Answers ∧ (s.link p.connection).Closes

/-- **A command that leaves by a failure that no message tells.** -/
inductive CommandEscapes (s : Surroundings) (c : AppConfig) : Command → Prop
  /-- The label cannot be rendered. -/
  | rendering {a : LabelArguments} {output : Path} {format : OutputFormat}
    (h : LabelEscapes s c a) : CommandEscapes s c (.render a output format)
  /-- The feed after a saved label is no number of dots. -/
  | savedFeed {a : LabelArguments} {output : Path} {label : RenderedLabel}
    (hlabel : renderLabel s c a = .ok label) (hheight : label.height ≤ 65535)
    (hfeed : ¬(Measure.real (feedOf c)).HasDots) : CommandEscapes s c (.render a output .stream)
  /-- The path of the file to make holds the character zero. -/
  | output {a : LabelArguments} {output : Path} {format : OutputFormat} {label : RenderedLabel}
    {content : Content} (hlabel : renderLabel s c a = .ok label)
    (hcontent : contentOf c label format = .ok content) (hzero : output.HoldsZero) :
    CommandEscapes s c (.render a output format)
  /-- The label to be printed cannot be rendered. -/
  | printing {a : LabelArguments} {copies : Int} {p : PrinterConfig} (hp : c.printer = some p)
    (h : LabelEscapes s c a) : CommandEscapes s c (.print a copies)
  /-- The printer is nowhere that can be asked for a connection. -/
  | target {command : Command} {request : Request} {p : PrinterConfig} (hp : c.printer = some p)
    (hrequest : Requests s c command request) (hunaskable : (s.link p.connection).Unaskable) :
    CommandEscapes s c command
  /-- There are fewer copies than one. -/
  | copies {a : LabelArguments} {copies : Int} {p : PrinterConfig} {label : RenderedLabel}
    (hp : c.printer = some p) (hlabel : renderLabel s c a = .ok label)
    (htells : Tells s p) (hcopies : copies < 1) :
    CommandEscapes s c (.print a copies)
  /-- The feed after a printed label is no number of dots. -/
  | printedFeed {a : LabelArguments} {copies : Int} {p : PrinterConfig} {label : RenderedLabel}
    (hp : c.printer = some p) (hlabel : renderLabel s c a = .ok label)
    (htells : Tells s p) (hcopies : 1 ≤ copies)
    (hheight : label.height ≤ 65535) (hfeed : ¬(Measure.real p.feedMm).HasDots) :
    CommandEscapes s c (.print a copies)
  /-- The distance to feed is no number of dots. -/
  | distance {mm : Float} {p : PrinterConfig} (hp : c.printer = some p)
    (htells : Tells s p) (hfeed : ¬(Measure.real mm).HasDots) :
    CommandEscapes s c (.feed mm)
  /-- The feed after the test pattern is no number of dots. -/
  | testFeed {p : PrinterConfig} (hp : c.printer = some p) (htells : Tells s p)
    (hfeed : ¬(Measure.real p.feedMm).HasDots) : CommandEscapes s c .test

section CommandEscapes
variable {t : Trouble} {output : Path} {format : OutputFormat} {copies : Int} {mm : Float}

/-- A label that is not rendered escapes, or a message tells why. -/
theorem commandEscapes_render_of_error (ht : renderLabel s c a = .error t) :
    CommandEscapes s c (.render a output format) ↔ LabelEscapes s c a := by
  have hnone (label : RenderedLabel) : renderLabel s c a ≠ .ok label := by
    rw [ht]
    nofun
  constructor
  · intro h
    cases h with
    | rendering h => exact h
    | savedFeed hok => exact absurd hok (hnone _)
    | output hok => exact absurd hok (hnone _)
    | target hp hrequest => cases hrequest
  · exact .rendering

/-- A label that is rendered escapes on its way into a stream or into a file. -/
theorem commandEscapes_render_of_ok (hok : renderLabel s c a = .ok label)
    (hlabel : ¬LabelEscapes s c a) :
    CommandEscapes s c (.render a output format) ↔
      (format = .stream ∧ label.height ≤ 65535 ∧ ¬(Measure.real (feedOf c)).HasDots) ∨
        ∃ content, contentOf c label format = .ok content ∧ output.HoldsZero := by
  constructor
  · intro h
    cases h with
    | rendering h => exact absurd h hlabel
    | savedFeed hok' hheight hfeed =>
      obtain rfl := Except.ok.inj (hok.symm.trans hok')
      exact .inl ⟨rfl, hheight, hfeed⟩
    | output hok' hcontent hzero =>
      obtain rfl := Except.ok.inj (hok.symm.trans hok')
      exact .inr ⟨_, hcontent, hzero⟩
    | target hp hrequest => cases hrequest
  · rintro (⟨rfl, hheight, hfeed⟩ | ⟨content, hcontent, hzero⟩)
    · exact .savedFeed hok hheight hfeed
    · exact .output hok hcontent hzero

theorem commandEscapes_print_of_error (hp : c.printer = some p)
    (ht : renderLabel s c a = .error t) :
    CommandEscapes s c (.print a copies) ↔ LabelEscapes s c a := by
  have hnone (label : RenderedLabel) : renderLabel s c a ≠ .ok label := by
    rw [ht]
    nofun
  constructor
  · intro h
    cases h with
    | printing hp' h => exact h
    | copies hp' hok => exact absurd hok (hnone _)
    | printedFeed hp' hok => exact absurd hok (hnone _)
    | target hp' hrequest =>
      cases hrequest with
      | print hok => exact absurd hok (hnone _)
  · exact .printing hp

/-- A label that is rendered escapes while it is printed. -/
theorem commandEscapes_print_of_ok (hp : c.printer = some p) (hok : renderLabel s c a = .ok label)
    (hlabel : ¬LabelEscapes s c a) :
    CommandEscapes s c (.print a copies) ↔ (s.link p.connection).Unaskable ∨ Tells s p ∧
      (copies < 1 ∨ 1 ≤ copies ∧ label.height ≤ 65535 ∧ ¬(Measure.real p.feedMm).HasDots) := by
  constructor
  · intro h
    cases h with
    | printing hp' h => exact absurd h hlabel
    | target hp' hrequest hunaskable =>
      obtain rfl := Option.some.inj (hp.symm.trans hp')
      exact .inl hunaskable
    | copies hp' hok' htells hcopies =>
      obtain rfl := Option.some.inj (hp.symm.trans hp')
      exact .inr ⟨htells, .inl hcopies⟩
    | printedFeed hp' hok' htells hcopies hheight hfeed =>
      obtain rfl := Option.some.inj (hp.symm.trans hp')
      obtain rfl := Except.ok.inj (hok.symm.trans hok')
      exact .inr ⟨htells, .inr ⟨hcopies, hheight, hfeed⟩⟩
  · rintro (hunaskable | ⟨htells, hcopies | ⟨hcopies, hheight, hfeed⟩⟩)
    · exact .target hp (.print hok) hunaskable
    · exact .copies hp hok htells hcopies
    · exact .printedFeed hp hok htells hcopies hheight hfeed

theorem commandEscapes_feed_iff (hp : c.printer = some p) :
    CommandEscapes s c (.feed mm) ↔
      (s.link p.connection).Unaskable ∨ Tells s p ∧ ¬(Measure.real mm).HasDots := by
  constructor
  · intro h
    cases h with
    | target hp' hrequest hunaskable =>
      obtain rfl := Option.some.inj (hp.symm.trans hp')
      exact .inl hunaskable
    | distance hp' htells hfeed =>
      obtain rfl := Option.some.inj (hp.symm.trans hp')
      exact .inr ⟨htells, hfeed⟩
  · rintro (hunaskable | ⟨htells, hfeed⟩)
    · exact .target hp .feed hunaskable
    · exact .distance hp htells hfeed

theorem commandEscapes_test_iff (hp : c.printer = some p) :
    CommandEscapes s c .test ↔
      (s.link p.connection).Unaskable ∨ Tells s p ∧ ¬(Measure.real p.feedMm).HasDots := by
  constructor
  · intro h
    cases h with
    | target hp' hrequest hunaskable =>
      obtain rfl := Option.some.inj (hp.symm.trans hp')
      exact .inl hunaskable
    | testFeed hp' htells hfeed =>
      obtain rfl := Option.some.inj (hp.symm.trans hp')
      exact .inr ⟨htells, hfeed⟩
  · rintro (hunaskable | ⟨htells, hfeed⟩)
    · exact .target hp .test hunaskable
    · exact .testFeed hp htells hfeed

/-- Without a printer only the commands that need none can escape. -/
theorem exists_render_of_commandEscapes {command : Command} (hp : c.printer = none)
    (h : CommandEscapes s c command) :
    ∃ a output format, command = .render a output format := by
  have hnone (q : PrinterConfig) : c.printer ≠ some q := by
    rw [hp]
    nofun
  cases h with
  | rendering => exact ⟨_, _, _, rfl⟩
  | savedFeed => exact ⟨_, _, _, rfl⟩
  | output => exact ⟨_, _, _, rfl⟩
  | printing hq => exact absurd hq (hnone _)
  | target hq => exact absurd hq (hnone _)
  | copies hq => exact absurd hq (hnone _)
  | printedFeed hq => exact absurd hq (hnone _)
  | distance hq => exact absurd hq (hnone _)
  | testFeed hq => exact absurd hq (hnone _)

end CommandEscapes

/-- **What a command asks for was done.** A file was made and has the whole label; or the other end
took the whole stream of the label, as often as copies were asked for, or that of the feed or of the
test pattern. -/
def Delivers (s : Surroundings) (c : AppConfig) (o : Outcome) : Command → Prop
  | .render a output format => ∃ label content, renderLabel s c a = .ok label ∧
      contentOf c label format = .ok content ∧ o.made = [(output, content)]
  | .print a copies => 1 ≤ copies ∧ ∃ p label stream, c.printer = some p ∧
      renderLabel s c a = .ok label ∧
      Wire.encodeLabel label.bitmap label.width label.height (.real p.feedMm) = .ok stream ∧
      (blocksTaken o.events).flatten = (List.replicate copies.toNat stream).flatten
  | .feed mm => ∃ stream, Wire.encodeFeed (.real mm) = .ok stream ∧
      (blocksTaken o.events).flatten = stream
  | .test => ∃ p stream, c.printer = some p ∧
      Wire.encodeLabel (Wire.testPattern maxWidth Wire.testPatternHeight) maxWidth
        Wire.testPatternHeight (.real p.feedMm) = .ok stream ∧
      (blocksTaken o.events).flatten = stream

/-! ### Outcomes -/

/-- **How a command goes**: it leaves by a failure, or it waits for ever, which takes a delay that
has no end, or the run exits with one, or with zero if what it asks for was done. -/
inductive Settles (s : Surroundings) (c : AppConfig) (command : Command) (o : Outcome) : Prop
  | raised (h : CommandEscapes s c command) (hevents : ¬Endless o.events)
    (hending : ∃ t, o.ending = .raised t)
  | endless (hevents : Endless o.events) (hending : o.ending = .endless)
    (hdelays : ∃ p, c.printer = some p ∧ ¬(Passing p.chunkDelay ∧ Passing p.copyDelay))
  | told (h : ¬CommandEscapes s c command) (hevents : ¬Endless o.events)
    (hending : o.ending = .exit 1)
  | done (h : ¬CommandEscapes s c command) (hevents : ¬Endless o.events)
    (hending : o.ending = .exit 0) (hdone : Delivers s c o command)

/-- What the exit code tells of a command that is settled. -/
theorem Settles.reports {command : Command} {o : Outcome} (h : Settles s c command o) :
    (o.ending = .exit 0 ∨ o.ending = .exit 1 ↔ ¬CommandEscapes s c command ∧ ¬Endless o.events) ∧
    (o.ending = .exit 0 → Delivers s c o command) ∧
    (Endless o.events →
      ∃ p, c.printer = some p ∧ ¬(Passing p.chunkDelay ∧ Passing p.copyDelay)) := by
  cases h with
  | raised h hevents hending =>
    obtain ⟨t, ht⟩ := hending
    rw [ht]
    exact ⟨iff_of_false nofun fun hnot => hnot.1 h, nofun, fun h => absurd h hevents⟩
  | endless hevents hending hdelays =>
    rw [hending]
    exact ⟨iff_of_false nofun fun hnot => hnot.2 hevents, nofun, fun _ => hdelays⟩
  | told h hevents hending =>
    rw [hending]
    exact ⟨iff_of_true (.inr rfl) ⟨h, hevents⟩, nofun, fun h => absurd h hevents⟩
  | done h hevents hending hdone =>
    exact ⟨iff_of_true (.inl hending) ⟨h, hevents⟩, fun _ => hdone, fun h => absurd h hevents⟩

theorem settles_ofTrouble {command : Command} {t : Trouble}
    (h : t.opening? = none ↔ CommandEscapes s c command) (said : List Char)
    {events : List LinkEvent} (hevents : ¬Endless events) :
    Settles s c command (.ofTrouble t said events) := by
  unfold Outcome.ofTrouble
  cases hopening : t.opening? with
  | none => exact .raised (h.1 hopening) hevents ⟨t, rfl⟩
  | some opening =>
    refine .told (fun hescapes => ?_) hevents rfl
    rw [h.2 hescapes] at hopening
    cases hopening

/-! ### Files -/

/-- **Rendering a label into a file.** -/
theorem settles_runRender (s : Surroundings) (c : AppConfig) (a : LabelArguments) (output : Path)
    (format : OutputFormat) :
    Settles s c (.render a output format) (runRender s c a output format) := by
  unfold runRender
  rcases renderLabel_cases s c a with ⟨hlabel, label, hok⟩ | ⟨t, ht, hiff⟩
  · have hescapes : CommandEscapes s c (.render a output format) ↔ _ :=
      commandEscapes_render_of_ok hok hlabel
    rw [hok]
    rcases contentOf_cases hok format with ⟨hfeed, content, hcontent⟩ | ⟨t, ht, hiff⟩
    · have hzero_iff : CommandEscapes s c (.render a output format) ↔ output.HoldsZero := by
        rw [hescapes]
        exact ⟨fun h => (h.resolve_left hfeed).elim fun _ h => h.2, fun h => .inr ⟨_, hcontent, h⟩⟩
      rcases save_of_contentOf (s := s) hcontent output with ⟨hzero, hsave⟩ | ⟨t, ht, hiff⟩
      · simp only [hsave]
        exact .done (fun h => hzero (hzero_iff.1 h)) not_endless_nil rfl
          ⟨label, content, hok, hcontent, rfl⟩
      · simp only [ht]
        exact settles_ofTrouble (hiff.trans hzero_iff.symm) _ not_endless_nil
    · have hsave : save s c label output format = .error t := by
        simp only [save, ht, bind, Except.bind]
      simp only [hsave]
      refine settles_ofTrouble (hiff.trans ?_) _ not_endless_nil
      rw [hescapes]
      refine ⟨.inl, fun h => h.resolve_right ?_⟩
      rintro ⟨content, hcontent, -⟩
      rw [ht] at hcontent
      cases hcontent
  · rw [ht]
    exact settles_ofTrouble (hiff.trans (commandEscapes_render_of_error ht).symm) _
      not_endless_nil

/-! ### Jobs -/

/-- A request that is not told, if it comes to be made: it asks for fewer than one copy, or it has
no stream. -/
def RequestEscapes (p : PrinterConfig) (request : Request) : Prop :=
  request.count < 1 ∨ 1 ≤ request.count ∧ ∃ e, request.encoded p.printer = .error e ∧
    (Trouble.job e).opening? = none

theorem not_requestEscapes {request : Request} {data : Bytes} (hcount : 1 ≤ request.count)
    (hdata : request.encoded p.printer = .ok data) : ¬RequestEscapes p request := by
  rintro (hfew | ⟨-, e, he, -⟩)
  · omega
  · rw [hdata] at he
    cases he

/-- A request that goes in some way over a link that tells it escapes exactly if the way is not
told. -/
theorem opening?_of_attempt {request : Request} {e : Failure} {blocks : List Bytes}
    (h : Attempt p.printer request (.error e) blocks) (he : e ≠ .endless) :
    (Trouble.job e).opening? = none ↔ RequestEscapes p request := by
  cases h with
  | tooFew hcount => exact iff_of_true rfl (.inl hcount)
  | unencoded hcount hencoded =>
    constructor
    · exact fun htold => .inr ⟨hcount, e, hencoded, htold⟩
    · rintro (hfew | ⟨-, e', hencoded', htold⟩)
      · omega
      · rw [hencoded] at hencoded'
        cases hencoded'
        exact htold
  | cut hcount hdata hbreaks =>
    -- A failure of the port is always told.
    obtain ⟨t, rfl⟩ := hbreaks.portFailure.resolve_right he
    exact iff_of_false nofun (not_requestEscapes hcount hdata)

/-- A request waits for ever only if a delay of its printer has no end. -/
theorem delays_of_endless {request : Request} {blocks : List Bytes} (hs : 0 < p.chunkSize)
    (h : Attempt p.printer request (.error .endless) blocks) :
    ¬(Passing p.chunkDelay ∧ Passing p.copyDelay) := by
  rintro ⟨hchunk, hcopy⟩
  cases h with
  | unencoded hcount hencoded => exact request.encoded_ne_endless p.printer hencoded
  | cut hcount hdata hbreaks =>
    cases hbreaks with
    | endless hstep hends =>
      rcases Request.pause_mem_plan hs hdata hstep with rfl | rfl
      · exact hends hchunk
      · exact hends hcopy

theorem runJob_of_error {job : Job Unit} {said : List Char} {e : Failure} {l : Link}
    (hrun : (s.link p.connection).whileConnected (job.runOn Link.port) = (.error e, l))
    (he : e ≠ .endless) :
    runJob s p said job =
      .ofTrouble (.job e) (said ++ l.events.flatMap progressText) l.events := by
  unfold runJob
  rw [hrun]
  cases e with
  | endless => exact absurd rfl he
  | _ => rfl

/-- Without a connection only a target that is none is not told. -/
theorem opening?_of_openFault? {l : Link} {e : Failure}
    (h : Link.openFault? l.target (l.openings.headD .opened) = some e) :
    e ≠ .endless ∧ ¬l.Answers ∧ ((Trouble.job e).opening? = none ↔ l.Unaskable) := by
  have hanswers : ¬l.Answers := fun hanswers => by
    rw [Link.openFault?_eq_none_iff.2 hanswers] at h
    cases h
  obtain ⟨⟨t, rfl⟩, hasked⟩ | ⟨⟨what, rfl⟩, hunaskable⟩ := Link.eq_of_openFault? h
  · exact ⟨nofun, hanswers, iff_of_false nofun hasked⟩
  · exact ⟨nofun, hanswers, iff_of_true rfl hunaskable⟩

/-- **A request at the printer** settles its command. -/
theorem settles_runJob {command : Command} {request : Request} (hp : c.printer = some p)
    (hlink : (s.link p.connection).Unused) (hs : 0 < p.chunkSize)
    (hescapes : CommandEscapes s c command ↔
      (s.link p.connection).Unaskable ∨ Tells s p ∧ RequestEscapes p request)
    (hdelivers : ∀ o data, 1 ≤ request.count → request.encoded p.printer = .ok data →
      (blocksTaken o.events).flatten = (List.replicate request.count.toNat data).flatten →
      Delivers s c o command) (said : List Char) :
    Settles s c command (runJob s p said (request.job p.printer)) := by
  obtain ⟨r, l, hrun, herrand, hendless⟩ := hlink.errand (p := p.printer) hs request
  have hasked (h : (s.link p.connection).Answers) : ¬(s.link p.connection).Unaskable := by
    rintro ⟨what, hwhat⟩
    cases hwhat.symm.trans h
  cases herrand with
  | closed hfault =>
    obtain ⟨he, hanswers, htold⟩ := opening?_of_openFault? hfault
    rw [runJob_of_error hrun he]
    refine settles_ofTrouble ?_ _ (hendless.not.1 (he <| Except.error.inj ·))
    rw [htold, hescapes, or_iff_left fun h => hanswers h.1.1]
  | waiting h hattempt =>
    unfold runJob
    rw [hrun]
    exact .endless (hendless.1 rfl) rfl ⟨p, hp, delays_of_endless hs hattempt⟩
  | retained h hfails hr hattempt =>
    rw [runJob_of_error hrun (by simp)]
    refine settles_ofTrouble (iff_of_false (by simp [Trouble.opening?]) ?_) _
      (hendless.not.1 (by simp))
    rw [hescapes]
    exact fun h' => h'.elim (hasked h) fun h' => hfails h'.1.2
  | done h hcloses hr hattempt =>
    have hevents := hendless.not.1 hr
    cases r with
    | error e =>
      have he : e ≠ .endless := fun he => hr (congrArg Except.error he)
      rw [runJob_of_error hrun he]
      refine settles_ofTrouble ?_ _ hevents
      rw [opening?_of_attempt hattempt he, hescapes, or_iff_right (hasked h)]
      exact (and_iff_right ⟨h, hcloses⟩).symm
    | ok u =>
      unfold runJob
      rw [hrun]
      cases hattempt with
      | delivered hcount hdata htaken =>
        refine .done ?_ hevents rfl (hdelivers _ _ hcount hdata htaken)
        rw [hescapes]
        exact fun h' => h'.elim (hasked h) fun h' => not_requestEscapes hcount hdata h'.2

/-- Copies of a rendered label escape if there are none, or if their stream fails to be. -/
theorem requestEscapes_label_iff (hok : renderLabel s c a = .ok label) {copies : Int}
    {listener : Option (Nat → Nat → Float → Report)} :
    RequestEscapes p (.label label copies listener) ↔ copies < 1 ∨
      1 ≤ copies ∧ label.height ≤ 65535 ∧ ¬(Measure.real p.feedMm).HasDots := by
  refine or_congr Iff.rfl (and_congr_right fun _ => ?_)
  have hencoded : (Request.label label copies listener).encoded p.printer =
      (Wire.encodeLabel label.bitmap label.width label.height (.real p.feedMm)).mapError
        .encoding := rfl
  rw [hencoded]
  rcases encodeLabel_cases hok (.real p.feedMm) with ⟨hnot, stream, hstream⟩ | ⟨e, he, hiff⟩
  · rw [hstream]
    exact iff_of_false nofun hnot
  · rw [he, ← hiff]
    constructor
    · rintro ⟨_, he', h⟩
      cases he'
      exact h
    · exact fun h => ⟨_, rfl, h⟩

/-- A request that does not ask for copies escapes if it has no stream and no message tells why. -/
theorem requestEscapes_iff_of_count {request : Request} (hcount : request.count = 1) :
    RequestEscapes p request ↔
      ∃ e, request.encoded p.printer = .error e ∧ (Trouble.job e).opening? = none := by
  rw [RequestEscapes, hcount]
  simp

theorem requestEscapes_feed_iff {mm : Measure} : RequestEscapes p (.feed mm) ↔ ¬mm.HasDots := by
  have hencoded : (Request.feed mm).encoded p.printer =
      ((dotsOf mm).map Wire.feedCommand).mapError .distance := rfl
  rw [requestEscapes_iff_of_count rfl, hencoded]
  cases hdots : dotsOf mm with
  | ok dots => exact iff_of_false nofun fun h => h ⟨dots, hdots⟩
  | error e =>
    refine iff_of_true ⟨_, rfl, rfl⟩ ?_
    rintro ⟨dots, hdots'⟩
    rw [hdots] at hdots'
    cases hdots'

theorem requestEscapes_test_iff :
    RequestEscapes p .test ↔ ¬(Measure.real p.feedMm).HasDots := by
  have hfeedMm : p.printer.feedMm = .real p.feedMm := rfl
  rw [requestEscapes_iff_of_count rfl, Request.encoded, hfeedMm]
  rcases encodeLabel_of_printable printable_testPattern (.real p.feedMm) with
    ⟨hfeed, stream, hstream⟩ | ⟨hfeed, e, he⟩
  · rw [hstream]
    refine iff_of_false ?_ fun h => h hfeed
    rintro ⟨e, he, -⟩
    cases he
  · rw [he]
    exact iff_of_true ⟨_, rfl, rfl⟩ hfeed

/-- **Printing copies of a label.** -/
theorem settles_runPrint (a : LabelArguments) (copies : Int) (hp : c.printer = some p)
    (hlink : (s.link p.connection).Unused) (hs : 0 < p.chunkSize) :
    Settles s c (.print a copies) (runPrint s c a copies p) := by
  unfold runPrint
  rcases renderLabel_cases s c a with ⟨hlabel, label, hok⟩ | ⟨t, ht, hiff⟩
  · have hescapes : CommandEscapes s c (.print a copies) ↔ (s.link p.connection).Unaskable ∨
        Tells s p ∧ RequestEscapes p (.label label copies (some .copy)) := by
      rw [commandEscapes_print_of_ok hp hok hlabel, requestEscapes_label_iff hok]
    rw [hok]
    refine settles_runJob hp hlink hs hescapes (fun o data hcount hdata htaken => ?_) _
    exact ⟨hcount, p, label, data, hp, hok, mapError_eq_ok_iff.1 hdata, htaken⟩
  · rw [ht]
    exact settles_ofTrouble (hiff.trans (commandEscapes_print_of_error hp ht).symm) _
      not_endless_nil

/-- **Feeding paper.** -/
theorem settles_feed (mm : Float) (hp : c.printer = some p)
    (hlink : (s.link p.connection).Unused) (hs : 0 < p.chunkSize) :
    Settles s c (.feed mm) (runJob s p [] (p.printer.feedPaper (.real mm))) := by
  have hescapes : CommandEscapes s c (.feed mm) ↔
      (s.link p.connection).Unaskable ∨ Tells s p ∧ RequestEscapes p (.feed (.real mm)) := by
    rw [commandEscapes_feed_iff hp, requestEscapes_feed_iff]
  refine settles_runJob hp hlink hs hescapes (fun o data hcount hdata htaken => ?_) []
  refine ⟨data, mapError_eq_ok_iff.1 hdata, ?_⟩
  rw [htaken]
  exact List.append_nil data

/-- **Printing the test pattern.** -/
theorem settles_test (hp : c.printer = some p) (hlink : (s.link p.connection).Unused)
    (hs : 0 < p.chunkSize) : Settles s c .test (runJob s p [] p.printer.printTest) := by
  have hescapes : CommandEscapes s c .test ↔
      (s.link p.connection).Unaskable ∨ Tells s p ∧ RequestEscapes p .test := by
    rw [commandEscapes_test_iff hp, requestEscapes_test_iff]
  refine settles_runJob hp hlink hs hescapes (fun o data hcount hdata htaken => ?_) []
  rw [Request.encoded, mapError_eq_ok_iff] at hdata
  refine ⟨p, data, hp, hdata, ?_⟩
  rw [htaken]
  exact List.append_nil data

/-! ### Runs -/

/-- **A run that leaves by a failure**: the configuration file cannot be opened, or is no text, or
has a part without a value, or its command escapes. -/
inductive Escapes (s : Surroundings) (settings : Settings) (a : Arguments) : Prop
  | config {e : LoadError}
    (hload : AppConfig.load s.flaw? s.files (a.config.getD settings.configFile) = .error e)
    (he : ∀ e', e ≠ .config e')
  | command {c : AppConfig}
    (hload : AppConfig.load s.flaw? s.files (a.config.getD settings.configFile) = .ok c)
    (h : CommandEscapes s c a.command)

/-- With a configuration only the command can escape. -/
theorem escapes_iff_of_load {settings : Settings} {a : Arguments}
    (hload : AppConfig.load s.flaw? s.files (a.config.getD settings.configFile) = .ok c) :
    Escapes s settings a ↔ CommandEscapes s c a.command := by
  constructor
  · rintro (⟨hload', -⟩ | ⟨hload', h⟩) <;> rw [hload] at hload' <;> cases hload'
    exact h
  · exact .command hload

/-- Without one a run escapes unless a message tells what is wrong with the file. -/
theorem escapes_iff_of_load_error {settings : Settings} {a : Arguments} {e : LoadError}
    (hload : AppConfig.load s.flaw? s.files (a.config.getD settings.configFile) = .error e) :
    Escapes s settings a ↔ ∀ e', e ≠ .config e' := by
  constructor
  · rintro (⟨hload', he⟩ | ⟨hload', -⟩) <;> rw [hload] at hload' <;> cases hload'
    exact he
  · exact .config hload

/-- A command that needs a printer is settled without one, since a message tells so. -/
theorem settles_runAtPrinter {command : Command} {work : PrinterConfig → Outcome}
    (hcommand : ∀ a output format, command ≠ .render a output format)
    (hwork : ∀ p, c.printer = some p → Settles s c command (work p)) :
    Settles s c command (runAtPrinter c work) := by
  unfold runAtPrinter
  cases hp : c.printer with
  | none =>
    refine settles_ofTrouble (iff_of_false (by simp [Trouble.opening?]) fun h => ?_) _
      not_endless_nil
    · obtain ⟨a, output, format, hrender⟩ := exists_render_of_commandEscapes hp h
      exact hcommand a output format hrender
  | some p => exact hwork p hp

/-- **Following a command.** -/
theorem settles_runCommand (hlinks : ∀ target, (s.link target).Unused)
    (hsize : ∀ p, c.printer = some p → 0 < p.chunkSize) (command : Command) :
    Settles s c command (runCommand s c command) := by
  cases command with
  | render a output format => exact settles_runRender s c a output format
  | print a copies =>
    exact settles_runAtPrinter nofun fun p hp =>
      settles_runPrint a copies hp (hlinks _) (hsize p hp)
  | feed mm =>
    exact settles_runAtPrinter nofun fun p hp => settles_feed mm hp (hlinks _) (hsize p hp)
  | test => exact settles_runAtPrinter nofun fun p hp => settles_test hp (hlinks _) (hsize p hp)

/-- **What a run reports.** A command line that is followed, with unused links, ends with the exit
code zero or one exactly if the run does not escape, and no pause without end was begun; with zero
only if what was asked for was done; and such a pause takes a printer with a delay without end. -/
theorem run_reports_iff {settings : Settings} {arguments : List Argument} {a : Arguments}
    (hparse : Arguments.parse arguments = .ok a) (hlinks : ∀ target, (s.link target).Unused) :
    ((run s settings arguments).ending = .exit 0 ∨ (run s settings arguments).ending = .exit 1 ↔
      ¬Escapes s settings a ∧ ¬Endless (run s settings arguments).events) ∧
    ((run s settings arguments).ending = .exit 0 →
      ∃ c, AppConfig.load s.flaw? s.files (a.config.getD settings.configFile) = .ok c ∧
        Delivers s c (run s settings arguments) a.command) ∧
    (Endless (run s settings arguments).events →
      ∃ c p, AppConfig.load s.flaw? s.files (a.config.getD settings.configFile) = .ok c ∧
        c.printer = some p ∧ ¬(Passing p.chunkDelay ∧ Passing p.copyDelay)) := by
  unfold run
  rw [hparse]
  dsimp only
  cases hload : AppConfig.load s.flaw? s.files (a.config.getD settings.configFile) with
  | error e =>
    rw [escapes_iff_of_load_error hload]
    have hquiet (q : Prop) : Endless [] → q := fun h => absurd h not_endless_nil
    cases e with
    | config e =>
      exact ⟨iff_of_true (.inr rfl) ⟨fun h => h e rfl, not_endless_nil⟩, nofun, hquiet _⟩
    | _ => exact ⟨iff_of_false nofun fun h => h.1 nofun, nofun, hquiet _⟩
  | ok c =>
    rw [escapes_iff_of_load hload]
    obtain ⟨hcodes, hzero, hendless⟩ := (settles_runCommand hlinks
      (fun p hp => (AppConfig.checked_of_load hload hp).chunkSize_pos) a.command).reports
    refine ⟨hcodes, fun h => ⟨c, rfl, hzero h⟩, fun h => ?_⟩
    obtain ⟨p, hp, hdelays⟩ := hendless h
    exact ⟨c, p, rfl, hp, hdelays⟩

/-- A desk with a printer that is reached through a socket, and a link on which all goes well. -/
def feedDesk : Surroundings where
  files := ⟨[(["config.yaml".toList],
    "printer: \x7bconnection: \x7btype: tcp, host: press\x7d\x7d".toUTF8)], []⟩
  input := none
  faces := .blocks
  link target := { target }

theorem unused_feedDesk (target : Connection) : (feedDesk.link target).Unused :=
  ⟨rfl, rfl, rfl, rfl, rfl, rfl⟩

/-- Five millimetres are fed: no failure leaves the run, and the link takes the command. -/
theorem run_reports_iff_feed :
    Arguments.parse (["feed"].map String.toList) = .ok ⟨none, false, .feed 5⟩ ∧
      (∀ target, (feedDesk.link target).Unused) ∧
      ¬Escapes feedDesk {} ⟨none, false, .feed 5⟩ ∧
      ∃ c, AppConfig.load feedDesk.flaw? feedDesk.files (.ofText "config.yaml".toList) = .ok c ∧
        Delivers feedDesk c (run feedDesk {} (["feed"].map String.toList)) (.feed 5) := by
  have hparse : Arguments.parse (["feed"].map String.toList) = .ok ⟨none, false, .feed 5⟩ := by
    cbv
  have hending : (run feedDesk {} (["feed"].map String.toList)).ending = .exit 0 := by
    decide +kernel
  obtain ⟨hreports, hdelivers, -⟩ := run_reports_iff (s := feedDesk) hparse unused_feedDesk
  exact ⟨hparse, unused_feedDesk, (hreports.1 (.inl hending)).1, hdelivers hending⟩

/-- A distance that is no number leaves the run by a failure. -/
theorem not_reported_feed :
    (∃ a, Arguments.parse (["feed", "--mm", "nan"].map String.toList) = .ok a) ∧
      (∀ target, (feedDesk.link target).Unused) ∧
      ¬((run feedDesk {} (["feed", "--mm", "nan"].map String.toList)).ending = .exit 0 ∨
        (run feedDesk {} (["feed", "--mm", "nan"].map String.toList)).ending = .exit 1) := by
  have hparse : (Arguments.parse (["feed", "--mm", "nan"].map String.toList)).isOk = true := by
    decide +kernel
  have hending : (run feedDesk {} (["feed", "--mm", "nan"].map String.toList)).ending =
      .raised (.job (.distance .notANumber)) := by
    decide +kernel
  refine ⟨?_, unused_feedDesk, ?_⟩
  · cases h : Arguments.parse (["feed", "--mm", "nan"].map String.toList) with
    | ok a => exact ⟨a, rfl⟩
    | error e =>
      rw [h] at hparse
      cases hparse
  · rw [hending]
    nofun

end CommandLine

end LabelPress
