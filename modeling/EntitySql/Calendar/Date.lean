/-
  This file defines calendar dates, clock times and their
  pairs.

  Key definitions include:
    * `isLeapYear`, `daysInMonth`
    * `Date`, `Date.of?`, `Date.next?`, `Date.previous?`
    * `ClockTime`, `ClockTime.of?`
    * `Moment`, `Moment.shiftMinutes?`

  Dates follow the Gregorian rule in every year. A clock time
  may name the leap second 60.
-/

namespace EntitySql

------------------------------------------------------------
-- Dates
------------------------------------------------------------

def isLeapYear
    (year : Int) : Bool :=
  year % 4 == 0 && (year % 100 != 0 || year % 400 == 0)

/- The number of days of a month, counting months from one. -/
def daysInMonth
    (year : Int)
    (month : Nat) : Nat :=
  if month = 2 then (if isLeapYear year then 29 else 28)
  else if month = 4 ∨ month = 6 ∨ month = 9 ∨ month = 11 then 30
  else 31

/- A day that exists, in the years that are supported. -/
def Date.Valid
    (year : Int)
    (month day : Nat) : Prop :=
  -262143 ≤ year ∧ year ≤ 262142 ∧
    1 ≤ month ∧ month ≤ 12 ∧
    1 ≤ day ∧ day ≤ daysInMonth year month

instance
    (year : Int)
    (month day : Nat) :
    Decidable (Date.Valid year month day) := by
  unfold Date.Valid
  infer_instance

/- A calendar date. -/
structure Date where
  year : Int
  month : Nat
  day : Nat
  valid : Date.Valid year month day
  deriving DecidableEq

namespace Date

/- The date with these parts, if that day exists. -/
def of?
    (year : Int)
    (month day : Nat) : Option Date :=
  if h : Date.Valid year month day
  then some ⟨year, month, day, h⟩ else none

def epoch : Date :=
  ⟨1970, 1, 1, by decide⟩

/- The day after, unless it lies past the last year. -/
def next?
    (d : Date) : Option Date :=
  if d.day < daysInMonth d.year d.month then
    of? d.year d.month (d.day + 1)
  else if d.month < 12 then of? d.year (d.month + 1) 1
  else of? (d.year + 1) 1 1

/- The day before, unless it lies before the first year. -/
def previous?
    (d : Date) : Option Date :=
  if 1 < d.day then of? d.year d.month (d.day - 1)
  else if 1 < d.month then
    of? d.year (d.month - 1) (daysInMonth d.year (d.month - 1))
  else of? (d.year - 1) 12 31

end Date

------------------------------------------------------------
-- Clock times
------------------------------------------------------------

/- A clock time to the nanosecond; second 60 is a leap second. -/
def ClockTime.Valid
    (hour minute second nano : Nat) : Prop :=
  hour ≤ 23 ∧ minute ≤ 59 ∧ second ≤ 60 ∧ nano < 1000000000

instance
    (hour minute second nano : Nat) :
    Decidable (ClockTime.Valid hour minute second nano) := by
  unfold ClockTime.Valid
  infer_instance

structure ClockTime where
  hour : Nat
  minute : Nat
  second : Nat
  nano : Nat
  valid : ClockTime.Valid hour minute second nano
  deriving DecidableEq

namespace ClockTime

/- The time with these parts, if the clock shows it. -/
def of?
    (hour minute second nano : Nat) : Option ClockTime :=
  if h : ClockTime.Valid hour minute second nano
  then some ⟨hour, minute, second, nano, h⟩ else none

def midnight : ClockTime :=
  ⟨0, 0, 0, 0, by decide⟩

/- Minutes since midnight. -/
def minutes
    (t : ClockTime) : Nat :=
  t.hour * 60 + t.minute

/- The same second of another minute of the day. -/
def atMinute?
    (t : ClockTime)
    (minutes : Nat) : Option ClockTime :=
  of? (minutes / 60) (minutes % 60) t.second t.nano

end ClockTime

------------------------------------------------------------
-- Moments
------------------------------------------------------------

/- A date with a clock time. -/
structure Moment where
  date : Date
  time : ClockTime
  deriving DecidableEq

namespace Moment

def epoch : Moment :=
  ⟨Date.epoch, ClockTime.midnight⟩

/-
  Move a moment by less than a day, in whole minutes. Seconds
  are kept, so a leap second stays one.
-/
def shiftMinutes?
    (m : Moment)
    (delta : Int) : Option Moment :=
  let total : Int := m.time.minutes + delta
  if total < 0 then do
    pure ⟨← m.date.previous?, ← m.time.atMinute? (total + 1440).toNat⟩
  else if total < 1440 then do
    pure ⟨m.date, ← m.time.atMinute? total.toNat⟩
  else do
    pure ⟨← m.date.next?, ← m.time.atMinute? (total - 1440).toNat⟩

end Moment

end EntitySql
