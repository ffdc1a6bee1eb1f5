/-!
Points in time, kept as the fields of a UTC clock and calendar (proleptic Gregorian), and the
moments that order them.
-/

namespace NfsStorage

structure Date where
  year : Int
  month : Nat
  day : Nat
deriving DecidableEq, Repr

namespace Date

def isLeapYear (year : Int) : Bool :=
  year % 4 = 0 && (year % 100 ≠ 0 || year % 400 = 0)

def daysInMonth (year : Int) (month : Nat) : Nat :=
  match month with
  | 2 => if isLeapYear year then 29 else 28
  | 4 | 6 | 9 | 11 => 30
  | _ => 31

/-- Years beyond these bounds have no calendar. -/
def Valid (d : Date) : Prop :=
  -262143 ≤ d.year ∧ d.year ≤ 262142 ∧ 1 ≤ d.month ∧ d.month ≤ 12 ∧
    1 ≤ d.day ∧ d.day ≤ daysInMonth d.year d.month

instance (d : Date) : Decidable d.Valid := by unfold Valid; infer_instance

def next (d : Date) : Date :=
  if d.day < daysInMonth d.year d.month then { d with day := d.day + 1 }
  else if d.month < 12 then ⟨d.year, d.month + 1, 1⟩
  else ⟨d.year + 1, 1, 1⟩

def previous (d : Date) : Date :=
  if 1 < d.day then { d with day := d.day - 1 }
  else if 1 < d.month then ⟨d.year, d.month - 1, daysInMonth d.year (d.month - 1)⟩
  else ⟨d.year - 1, 12, 31⟩

/-- Days in the first months of a year. -/
def daysInMonths (year : Int) : (months : Nat) → Nat
  | 0 => 0
  | months + 1 => daysInMonths year months + daysInMonth year (months + 1)

/-- Days since the first of January 1970. -/
def dayNumber (d : Date) : Int :=
  let y := d.year - 1
  365 * y + y / 4 - y / 100 + y / 400 + (daysInMonths d.year (d.month - 1) : Int) + d.day - 719163

end Date

/-- Seconds since the first of January 1970, and nanoseconds after them. A leap second has no number
of its own: its nanoseconds go on counting those of the second before it. -/
structure Moment where
  second : Int
  nanosecond : Nat
deriving DecidableEq, Repr

namespace Moment

def perSecond : Nat := 1000000000

def isBefore (a b : Moment) : Bool :=
  a.second < b.second || (a.second = b.second && a.nanosecond < b.nanosecond)

/-- The moment a number of seconds later. A leap second is left before the second that follows it,
and back from it the way is as long as from there. -/
def later (m : Moment) (seconds : Int) : Moment :=
  if m.nanosecond < perSecond || seconds = 0 then ⟨m.second + seconds, m.nanosecond⟩
  else if 0 < seconds then ⟨m.second + seconds, m.nanosecond - perSecond⟩
  else ⟨m.second + 1 + seconds, m.nanosecond - perSecond⟩

end Moment

/-- A point in time. A second number 60 is a leap second. -/
structure Time where
  date : Date
  hour : Nat
  minute : Nat
  second : Nat
  nanosecond : Nat
deriving DecidableEq, Repr

namespace Time

def moment (t : Time) : Moment :=
  let second := ((t.date.dayNumber * 24 + t.hour) * 60 + t.minute) * 60
  if t.second < 60 then ⟨second + t.second, t.nanosecond⟩
  else ⟨second + 59, Moment.perSecond + t.nanosecond⟩

/-- The clock of a place that is `ahead` minutes ahead of UTC, set to UTC. -/
def ofLocal (local_ : Time) (ahead : Int) : Time :=
  let minutes := (local_.hour * 60 + local_.minute : Int) - ahead
  let date :=
    if minutes < 0 then local_.date.previous
    else if 1440 ≤ minutes then local_.date.next
    else local_.date
  let ofDay := (minutes % 1440).toNat
  { local_ with date := date, hour := ofDay / 60, minute := ofDay % 60 }

end Time

end NfsStorage
