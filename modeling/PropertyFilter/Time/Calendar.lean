/-!
# Dates and times

Dates of the Gregorian calendar in the years 1 to 9999, times of day with microseconds, and
moments: a date, a time of day and, possibly, an offset from universal time.

## Main definitions

* `Date`, `ClockTime`, `Moment`: the three kinds, with their checked constructors
* `Date.iso`, `ClockTime.iso`, `Moment.iso`: their standard texts
* `Moment.instant`: the place of a moment on the time line
-/

namespace PropertyFilter.Time

/-- Every fourth year has a leap day, save three centuries of four. -/
def isLeap (year : Nat) : Bool :=
  year % 4 == 0 && (year % 100 != 0 || year % 400 == 0)

/-- The number of days of a month. -/
def daysInMonth (year month : Nat) : Nat :=
  match month with
  | 2 => if isLeap year then 29 else 28
  | 4 | 6 | 9 | 11 => 30
  | _ => 31

/-- A date of the calendar. -/
structure Date where
  year : Nat
  month : Nat
  day : Nat
  deriving DecidableEq, Repr, Inhabited

/-- A time of day. -/
structure ClockTime where
  hour : Nat
  minute : Nat
  second : Nat
  microsecond : Nat
  deriving DecidableEq, Repr, Inhabited

/-- A date and a time of day; the offset from universal time, in minutes, is known or not. -/
structure Moment where
  date : Date
  time : ClockTime
  offset : Option Int
  deriving DecidableEq, Repr, Inhabited

/-- A number with zeros in front to fill a width. -/
def padded (width n : Nat) : String :=
  let ds := Nat.toDigits 10 n
  String.ofList (List.replicate (width - ds.length) '0' ++ ds)

namespace Date

/-- A date that exists. -/
def isValid (d : Date) : Bool :=
  1 ≤ d.year && d.year ≤ 9999 && 1 ≤ d.month && d.month ≤ 12
    && 1 ≤ d.day && d.day ≤ daysInMonth d.year d.month

/-- The date with the given parts, if it exists. -/
def ofParts? (year month day : Nat) : Option Date :=
  let d : Date := ⟨year, month, day⟩
  if d.isValid then some d else none

/-- The standard text, `YYYY-MM-DD`. -/
def iso (d : Date) : String :=
  padded 4 d.year ++ "-" ++ padded 2 d.month ++ "-" ++ padded 2 d.day

/-- The number of days before a month of a year. -/
def daysBeforeMonth (year month : Nat) : Nat :=
  (List.range (month - 1)).foldl (fun days m => days + daysInMonth year (m + 1)) 0

/-- The number of the day, counting from the first day of the year 1. -/
def dayNumber (d : Date) : Nat :=
  let y := d.year - 1
  y * 365 + y / 4 - y / 100 + y / 400 + daysBeforeMonth d.year d.month + d.day

end Date

namespace ClockTime

/-- A time that exists; there are no leap seconds. -/
def isValid (t : ClockTime) : Bool :=
  t.hour < 24 && t.minute < 60 && t.second < 60 && t.microsecond < 1000000

/-- The time with the given parts, if it exists. -/
def ofParts? (hour minute second microsecond : Nat) : Option ClockTime :=
  let t : ClockTime := ⟨hour, minute, second, microsecond⟩
  if t.isValid then some t else none

/-- The standard text, `HH:MM:SS`, with six places when there is a fraction of a second. -/
def iso (t : ClockTime) : String :=
  padded 2 t.hour ++ ":" ++ padded 2 t.minute ++ ":" ++ padded 2 t.second
    ++ (if t.microsecond = 0 then "" else "." ++ padded 6 t.microsecond)

/-- The microseconds since midnight. -/
def microseconds (t : ClockTime) : Nat :=
  ((t.hour * 60 + t.minute) * 60 + t.second) * 1000000 + t.microsecond

end ClockTime

/-- An offset from universal time, `+HH:MM`. -/
def offsetIso (minutes : Int) : String :=
  let n := minutes.natAbs
  (if minutes < 0 then "-" else "+") ++ padded 2 (n / 60) ++ ":" ++ padded 2 (n % 60)

namespace Moment

/-- The standard text, with a given separator between date and time. -/
def isoWith (separator : String) (m : Moment) : String :=
  m.date.iso ++ separator ++ m.time.iso ++ (match m.offset with
    | none => ""
    | some o => offsetIso o)

/-- The standard text, with a `T` between date and time. -/
def iso (m : Moment) : String := m.isoWith "T"

/-- The place on the time line in microseconds; without an offset it is local. -/
def instant (m : Moment) : Int :=
  ((m.date.dayNumber : Int) * 1440 - m.offset.getD 0) * 60000000 + m.time.microseconds

/-- Two moments are the same when both or neither know their offset and their places agree. -/
def same (a b : Moment) : Bool :=
  a.offset.isSome == b.offset.isSome && a.instant == b.instant

theorem same_self (m : Moment) : m.same m = true := by
  simp [same]

end Moment

end PropertyFilter.Time
