/-!
# Dates and times

A data file can hold a day of the calendar, alone or with a time of day, which may tell how far
its clock is ahead of universal time.

* `Moment.of?` — a day that there is, with a time that there is;
* `Moment.text` and `Moment.expression` — a moment in a message, bare and as an expression.
-/

namespace SixAxis

/-- A time of day. -/
structure Clock where
  hour : Nat
  minute : Nat
  second : Nat
  microsecond : Nat
  /-- Minutes that the clock is ahead of universal time. -/
  ahead : Option Int
deriving Repr, BEq, DecidableEq

/-- A day, perhaps with a time. -/
structure Moment where
  year : Nat
  month : Nat
  day : Nat
  clock : Option Clock
deriving Repr, BEq, DecidableEq

namespace Clock

/-- Whether there is such a time. -/
def isValid (c : Clock) : Bool :=
  c.hour < 24 && c.minute < 60 && c.second < 60 && c.ahead.all fun m => m.natAbs < 1440

end Clock

namespace Moment

/-- The number of days of a month. -/
def daysOf (year month : Nat) : Nat :=
  let isLeap := year % 4 = 0 ∧ (year % 100 ≠ 0 ∨ year % 400 = 0)
  if month = 2 then (if isLeap then 29 else 28)
  else if [4, 6, 9, 11].contains month then 30
  else 31

/-- The moment of some numbers, if there is such a day and such a time. -/
def of? (year month day : Nat) (clock : Option Clock) : Option Moment :=
  if 1 ≤ year ∧ year ≤ 9999 ∧ 1 ≤ month ∧ month ≤ 12 ∧ 1 ≤ day ∧ day ≤ daysOf year month
      ∧ clock.all Clock.isValid then
    some ⟨year, month, day, clock⟩
  else none

/-- A number with at least `width` digits. -/
def padded (width n : Nat) : String :=
  let digits := toString n
  String.ofList (List.replicate (width - digits.length) '0') ++ digits

/-- How far a clock is ahead, as hours and minutes with a sign. -/
def offsetText (minutes : Int) : String :=
  let sign := if minutes < 0 then "-" else "+"
  s!"{sign}{padded 2 (minutes.natAbs / 60)}:{padded 2 (minutes.natAbs % 60)}"

/-- A moment by itself. -/
def text (m : Moment) : String :=
  let day := s!"{padded 4 m.year}-{padded 2 m.month}-{padded 2 m.day}"
  match m.clock with
  | none => day
  | some c =>
    let fraction := if c.microsecond = 0 then "" else "." ++ padded 6 c.microsecond
    s!"{day} {padded 2 c.hour}:{padded 2 c.minute}:{padded 2 c.second}{fraction}"
      ++ (c.ahead.map offsetText).getD ""

/-- How far a clock is ahead, as an expression. -/
def offsetExpression (minutes : Int) : String :=
  if minutes = 0 then "datetime.timezone.utc"
  else
    let days := if minutes < 0 then "days=-1, " else ""
    s!"datetime.timezone(datetime.timedelta({days}seconds={minutes % 1440 * 60}))"

/-- A moment as an expression; seconds and their parts are left out where they are zero. -/
def expression (m : Moment) : String :=
  let numbers (ns : List Nat) : String := ", ".intercalate (ns.map toString)
  match m.clock with
  | none => s!"datetime.date({numbers [m.year, m.month, m.day]})"
  | some c =>
    let seconds :=
      if c.microsecond ≠ 0 then [c.second, c.microsecond]
      else if c.second ≠ 0 then [c.second]
      else []
    let zone := (c.ahead.map fun minutes => ", tzinfo=" ++ offsetExpression minutes).getD ""
    s!"datetime.datetime({numbers ([m.year, m.month, m.day, c.hour, c.minute] ++ seconds)}{zone})"

end Moment

end SixAxis
