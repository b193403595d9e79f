/-!
# Value — Calendar

Dates and times of day.  A `Moment` is a date with a time and, if it has one, the offset of its time
zone; two moments with offsets are the same when they name the same instant (`Moment.instant`).  What
a calendar does not have is refused with the part at fault.
-/

namespace YamlAudit

-- sums begin with the zero of the core library, whatever else is in scope
attribute [local instance (2000)] Zero.ofOfNat0

/-- A day of the calendar. -/
structure Date where
  year : Nat
  month : Nat
  day : Nat
  deriving DecidableEq, Repr, Inhabited

/-- A time zone: its offset in minutes, and its name as it was written. -/
structure Zone where
  minutes : Int
  name : String
  deriving DecidableEq, Repr, Inhabited

/-- A date and a time of day. -/
structure Moment where
  date : Date
  hour : Nat
  minute : Nat
  second : Nat
  microsecond : Nat
  zone : Option Zone
  deriving DecidableEq, Repr, Inhabited

/-- What the calendar does not have. -/
inductive CalendarFault where
  | year (n : Nat)
  | month
  | day
  | hour
  | minute
  | second
  | offset (minutes : Int)
  | pastTheEnd
  deriving DecidableEq, Repr

/-- Every fourth year is a leap year, but of the full centuries only every fourth. -/
def isLeapYear (y : Nat) : Bool := y % 4 == 0 && (y % 100 != 0 || y % 400 == 0)

/-- The number of days of a month. -/
def daysInMonth (y m : Nat) : Nat :=
  match m with
  | 2 => if isLeapYear y then 29 else 28
  | 4 | 6 | 9 | 11 => 30
  | _ => 31

/-- The date of a year, a month and a day. -/
def Date.of? (year month day : Nat) : Except CalendarFault Date :=
  if year < 1 || 9999 < year then .error (.year year)
  else if month < 1 || 12 < month then .error .month
  else if day < 1 || daysInMonth year month < day then .error .day
  else .ok ⟨year, month, day⟩

/-- The number of days before a date, counted from the first day of year one. -/
def Date.dayNumber (d : Date) : Nat :=
  let y := d.year - 1
  let months := (List.range (d.month - 1)).map fun m => daysInMonth d.year (m + 1)
  365 * y + y / 4 - y / 100 + y / 400 + months.sum + (d.day - 1)

/-- The day after a date, if the calendar goes that far. -/
def Date.next? (d : Date) : Except CalendarFault Date :=
  if d.day < daysInMonth d.year d.month then .ok { d with day := d.day + 1 }
  else if d.month < 12 then .ok ⟨d.year, d.month + 1, 1⟩
  else if d.year < 9999 then .ok ⟨d.year + 1, 1, 1⟩
  else .error .pastTheEnd

namespace Moment

/-- The moment of a date, a time and a zone. -/
def of? (date : Date) (hour minute second microsecond : Nat) (zone : Option Zone) :
    Except CalendarFault Moment :=
  match zone with
  | some z =>
    if 24 * 60 ≤ z.minutes.natAbs then .error (.offset z.minutes)
    else timeOf
  | none => timeOf
where
  timeOf : Except CalendarFault Moment :=
    if 23 < hour then .error .hour
    else if 59 < minute then .error .minute
    else if 59 < second then .error .second
    else .ok ⟨date, hour, minute, second, microsecond, zone⟩

/-- The moment one second later. -/
def nextSecond? (m : Moment) : Except CalendarFault Moment :=
  if m.second < 59 then .ok { m with second := m.second + 1 }
  else if m.minute < 59 then .ok { m with minute := m.minute + 1, second := 0 }
  else if m.hour < 23 then .ok { m with hour := m.hour + 1, minute := 0, second := 0 }
  else m.date.next?.map fun d => { m with date := d, hour := 0, minute := 0, second := 0 }

/-- The microseconds before a moment, its offset taken into account. -/
def instant (m : Moment) : Int :=
  let minutes : Int := (m.date.dayNumber * 24 + m.hour) * 60 + m.minute
  let offset := (m.zone.map Zone.minutes).getD 0
  ((minutes - offset) * 60 + m.second) * 1000000 + m.microsecond

/-- Whether two moments are the same.  One with an offset is never the same as one without. -/
def same (a b : Moment) : Bool := a.zone.isSome == b.zone.isSome && a.instant == b.instant

end Moment

end YamlAudit
