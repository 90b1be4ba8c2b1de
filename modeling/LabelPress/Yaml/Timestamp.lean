import LabelPress.Text.Digit

/-!
# Dates and times

A date is written as year, month and day with hyphens between them; a time of day may follow, with a
fraction of a second and a zone. What is written so need not be in the calendar or on a clock.

* `Timestamp`: a date, or a date with a time of day.
* `Timestamp.ofText?`: what a text spells.
* `Timestamp.check`: is it in the calendar and on a clock?
* `Timestamp.same`: times with zones are the same if they name the same instant.
* `Timestamp.text`: its wording.
-/

namespace LabelPress.Yaml

/-- A time of day. -/
structure TimeOfDay where
  /-- The hour. -/
  hour : Nat
  /-- The minute. -/
  minute : Nat
  /-- The second. -/
  second : Nat
  /-- The millionths of a second. -/
  micro : Nat
  /-- The minutes that its zone is ahead of the common time, if it tells a zone. -/
  zone : Option Int
deriving Repr, DecidableEq

/-- A date, perhaps with a time of day; neither needs to exist. -/
structure Timestamp where
  /-- The year. -/
  year : Nat
  /-- The month. -/
  month : Nat
  /-- The day. -/
  day : Nat
  /-- The time of day. -/
  time : Option TimeOfDay
deriving Repr, DecidableEq

/-! ## Reading -/

/-- The digits that a text begins with, at least `least` and at most `most`, and what follows. -/
def splitDigits? (least most : Nat) (s : List Char) : Option (List Char × List Char) :=
  let ds := (s.take most).takeWhile Char.isDigit
  if least ≤ ds.length then some (ds, s.drop ds.length) else none

/-- The text after a given character. -/
def after? (c : Char) : List Char → Option (List Char)
  | d :: s => if c = d then some s else none
  | [] => none

/-- The number that decimal digits denote. -/
def digitsNumber (ds : List Char) : Nat := ds.foldl (fun n c => 10 * n + (c.toNat - 48)) 0

/-- The text without blanks in front. -/
def dropGap (s : List Char) : List Char := s.dropWhile fun c => c == ' ' || c == '\t'

/-- How many minutes the zone of a time is ahead of the common time: nothing, `Z`, or hours and
perhaps minutes ahead or behind. -/
def zone? (s : List Char) : Option (Option Int) :=
  match dropGap s with
  | [] => if s.isEmpty then some none else none
  | ['Z'] => some (some 0)
  | sign :: r => do
    guard (sign == '+' || sign == '-')
    let (hours, r) ← splitDigits? 1 2 r
    let minutes ← match r with
      | [] => some []
      | [':', a, b] => if a.isDigit && b.isDigit then some [a, b] else none
      | _ => none
    let offset : Int := 60 * digitsNumber hours + digitsNumber minutes
    return some (if sign == '-' then -offset else offset)

/-- The millionths that a fraction tells; digits after the sixth do not count. -/
def millionths (ds : List Char) : Nat := digitsNumber ((ds ++ List.replicate 6 '0').take 6)

/-- The time of day that a text spells. -/
def timeOfDay? (s : List Char) : Option TimeOfDay := do
  let (hour, s) ← splitDigits? 1 2 s
  let (minute, s) ← splitDigits? 2 2 (← after? ':' s)
  let (second, s) ← splitDigits? 2 2 (← after? ':' s)
  let (fraction, s) := match s with
    | '.' :: r => (r.takeWhile Char.isDigit, r.dropWhile Char.isDigit)
    | r => ([], r)
  return ⟨digitsNumber hour, digitsNumber minute, digitsNumber second, millionths fraction,
    ← zone? s⟩

/-- The time behind a date: after a letter, or after blanks. -/
def timeAfterDate? : List Char → Option TimeOfDay
  | [] => none
  | c :: r =>
    if c == 'T' || c == 't' then timeOfDay? r
    else if c == ' ' || c == '\t' then timeOfDay? (dropGap r)
    else none

/-- Year, month and day at the head of a text, the latter each at least so long, and what
follows. -/
def splitDate? (least : Nat) (s : List Char) : Option ((Nat × Nat × Nat) × List Char) := do
  let (year, s) ← splitDigits? 4 4 s
  let (month, s) ← splitDigits? least 2 (← after? '-' s)
  let (day, s) ← splitDigits? least 2 (← after? '-' s)
  return ((digitsNumber year, digitsNumber month, digitsNumber day), s)

namespace Timestamp

/-- **The date**, and perhaps the time of day, **that a text spells**. A date alone needs two digits
for month and day if `strict`. -/
def ofText? (strict : Bool) (s : List Char) : Option Timestamp :=
  match splitDate? (if strict then 2 else 1) s with
  | some ((year, month, day), []) => some ⟨year, month, day, none⟩
  | _ => do
    let ((year, month, day), rest) ← splitDate? 1 s
    return ⟨year, month, day, some (← timeAfterDate? rest)⟩

/-! ## The calendar -/

/-- Is it a year with a day more? -/
def isLeap (year : Nat) : Bool := year % 4 = 0 ∧ (year % 100 ≠ 0 ∨ year % 400 = 0)

/-- The number of days of a month. -/
def daysOfMonth (year month : Nat) : Nat :=
  if month = 2 then if isLeap year then 29 else 28
  else if month = 4 ∨ month = 6 ∨ month = 9 ∨ month = 11 then 30 else 31

/-- Why there is no such date or time. -/
inductive Flaw where
  /-- No year before the first is in the calendar. -/
  | year
  /-- A year has twelve months. -/
  | month
  /-- The month has fewer days. -/
  | day
  /-- A day has twenty-four hours. -/
  | hour
  /-- An hour has sixty minutes. -/
  | minute
  /-- A minute has sixty seconds. -/
  | second
  /-- A zone is a day or more ahead of or behind the common time, by so many minutes. -/
  | zone (minutes : Int)
deriving Repr, DecidableEq

/-- The wording of a span of time, in days and in seconds of a day. -/
def spanText (minutes : Int) : String :=
  let part (name : String) (n : Int) : List String := if n = 0 then [] else [s!"{name}={n}"]
  let parts := part "days" (minutes.fdiv 1440) ++ part "seconds" (60 * minutes.fmod 1440)
  let inside := ", ".intercalate parts
  s!"datetime.timedelta({inside})"

/-- The wording of a flaw. -/
def Flaw.message : Flaw → String
  | year => "year 0 is out of range"
  | month => "month must be in 1..12"
  | day => "day is out of range for month"
  | hour => "hour must be in 0..23"
  | minute => "minute must be in 0..59"
  | second => "second must be in 0..59"
  | zone minutes =>
    "offset must be a timedelta strictly between -timedelta(hours=24) and " ++
      s!"timedelta(hours=24), not {spanText minutes}."

/-- **Is it a date of the calendar**, at a time that a clock shows, in a zone within a day? -/
def check (t : Timestamp) : Except Flaw Unit := do
  if let some minutes := t.time.bind (·.zone) then
    if 1440 ≤ minutes.natAbs then throw (.zone minutes)
  if t.year = 0 then throw .year
  if t.month = 0 ∨ 12 < t.month then throw .month
  if t.day = 0 ∨ daysOfMonth t.year t.month < t.day then throw .day
  if let some time := t.time then
    if 23 < time.hour then throw .hour
    if 59 < time.minute then throw .minute
    if 59 < time.second then throw .second

/-- How many days of the calendar precede a date. -/
def dayNumber (t : Timestamp) : Nat :=
  let y := t.year - 1
  let months := (List.range (t.month - 1)).foldl (fun n m => n + daysOfMonth t.year (m + 1)) 0
  365 * y + y / 4 - y / 100 + y / 400 + months + t.day - 1

/-- The millionths of a second since the beginning of the calendar, by the clock of the zone. -/
def clock (t : Timestamp) : Int :=
  match t.time with
  | none => 86400000000 * t.dayNumber
  | some time =>
    86400000000 * t.dayNumber +
      (1000000 * (3600 * time.hour + 60 * time.minute + time.second) + time.micro : Nat)

/-- **Are two of them the same?** Times with zones are if they name the same instant; a date alone,
a time without a zone and one with a zone never are. -/
def same (a b : Timestamp) : Bool :=
  match a.time.map (·.zone), b.time.map (·.zone) with
  | none, none => a.clock == b.clock
  | some none, some none => a.clock == b.clock
  | some (some p), some (some q) => a.clock - 60000000 * p == b.clock - 60000000 * q
  | _, _ => false

/-- The wording of a zone. -/
def zoneText (minutes : Int) : String :=
  if minutes = 0 then "datetime.timezone.utc" else s!"datetime.timezone({spanText minutes})"

/-- **Its wording**; seconds and their fraction are left out if they are nothing. -/
def text (t : Timestamp) : String :=
  let numbers (ns : List Nat) : String := ", ".intercalate (ns.map toString)
  match t.time with
  | none => s!"datetime.date({numbers [t.year, t.month, t.day]})"
  | some time =>
    let small := if time.micro ≠ 0 then [time.second, time.micro]
      else if time.second ≠ 0 then [time.second] else []
    let all := numbers ([t.year, t.month, t.day, time.hour, time.minute] ++ small)
    match time.zone with
    | none => s!"datetime.datetime({all})"
    | some minutes => s!"datetime.datetime({all}, tzinfo={zoneText minutes})"

/-- What is the same as itself is never ruled out. -/
theorem same_self (t : Timestamp) : t.same t = true := by
  obtain ⟨_, _, _, time⟩ := t
  rcases time with _ | ⟨_, _, _, _, _ | z⟩ <;> simp [same]

end Timestamp

end LabelPress.Yaml
