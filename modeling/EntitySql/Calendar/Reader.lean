import EntitySql.Calendar.Date
import EntitySql.Text.Blank

/-
  This file defines the readers of dates and moments.

  Key definitions include:
    * `Calendar.number`
    * `Calendar.literal`
    * `Date.parse?`
    * `Moment.parse?`
    * `Moment.parseUtc?`

  The readers of dates and local moments allow blanks before
  every number and numbers of fewer digits; the reader of
  RFC 3339 moments allows neither.
-/

namespace EntitySql

/- Powers are those of the core library. -/
attribute [local instance (2000)] instPowNat

namespace Calendar

/- A reader takes a value off the front of a text. -/
abbrev Reader (α : Type) :=
  List Char → Option (α × List Char)

------------------------------------------------------------
-- Parts
------------------------------------------------------------

/- The value of decimal digits. -/
def digitsValue
    (ds : List Char) : Nat :=
  ds.foldl (fun n c => 10 * n + (c.toNat - '0'.toNat)) 0

/-
  The leading ASCII digits of a text, as many as allowed, and
  the rest.
-/
def spanDigits : Option Nat → List Char → List Char × List Char
  | some 0, cs => ([], cs)
  | _, [] => ([], [])
  | most, c :: cs =>
      if c.isDigit then
        let (ds, rest) := spanDigits (most.map (· - 1)) cs
        (c :: ds, rest)
      else ([], c :: cs)

/- A number of at least `least` and at most `most` digits. -/
def number
    (least : Nat)
    (most : Option Nat) : Reader Nat :=
  fun cs =>
    let (ds, rest) := spanDigits most cs
    if ds.length < least then none
    else some (digitsValue ds, rest)

/- One fixed character. -/
def literal
    (c : Char) : Reader Unit
  | [] => none
  | d :: rest => if d = c then some ((), rest) else none

/- A number of one or two digits after any blanks. -/
def shortNumber : Reader Nat :=
  fun cs => number 1 (some 2) (Text.trimStart cs)

/-
  A year after any blanks. Without a sign it has at most four
  digits.
-/
def signedYear : Reader Int :=
  fun cs =>
    match Text.trimStart cs with
    | '-' :: rest => do
        let (n, rest) ← number 1 none rest
        pure (-(n : Int), rest)
    | '+' :: rest => do
        let (n, rest) ← number 1 none rest
        pure ((n : Int), rest)
    | rest => do
        let (n, rest) ← number 1 (some 4) rest
        pure ((n : Int), rest)

/-
  A fraction of a second in nanoseconds: nothing, or a point
  and digits. Digits past the ninth are dropped.
-/
def fraction : Reader Nat
  | '.' :: rest =>
      let (ds, rest) := spanDigits (some 9) rest
      if ds.isEmpty then none
      else
        some (digitsValue ds * 10 ^ (9 - ds.length),
          rest.dropWhile Char.isDigit)
  | rest => some (0, rest)

------------------------------------------------------------
-- Dates and local moments
------------------------------------------------------------

def date : Reader Date :=
  fun cs => do
    let (year, cs) ← signedYear cs
    let ((), cs) ← literal '-' cs
    let (month, cs) ← shortNumber cs
    let ((), cs) ← literal '-' cs
    let (day, cs) ← shortNumber cs
    pure (← Date.of? year month day, cs)

def clockTime : Reader ClockTime :=
  fun cs => do
    let (hour, cs) ← shortNumber cs
    let ((), cs) ← literal ':' cs
    let (minute, cs) ← shortNumber cs
    let ((), cs) ← literal ':' cs
    let (second, cs) ← shortNumber cs
    let (nano, cs) ← fraction cs
    pure (← ClockTime.of? hour minute second nano, cs)

/- Accept a reading only if it takes the whole text. -/
def complete
    {α : Type}
    (reading : Option (α × List Char)) : Option α :=
  match reading with
  | some (a, []) => some a
  | _ => none

------------------------------------------------------------
-- Universal time
------------------------------------------------------------

/- The offset of a time zone in minutes. -/
def offset : Reader Int
  | [] => none
  | c :: cs =>
      if c = 'Z' ∨ c = 'z' then some (0, cs)
      else if c = '+' ∨ c = '-' ∨ c = '−' then do
        let (hours, cs) ← number 2 (some 2) cs
        let ((), cs) ← literal ':' cs
        let (minutes, cs) ← number 2 (some 2) cs
        let total : Int := hours * 60 + minutes
        if 59 < minutes ∨ 1439 < total then none
        else pure (if c = '+' then total else -total, cs)
      else none

/- The character between date and time. -/
def separator : Reader Unit
  | [] => none
  | c :: cs =>
      if c = 'T' ∨ c = 't' ∨ c = ' ' then some ((), cs) else none

def fixedMoment : Reader Moment :=
  fun cs => do
    let (year, cs) ← number 4 (some 4) cs
    let ((), cs) ← literal '-' cs
    let (month, cs) ← number 2 (some 2) cs
    let ((), cs) ← literal '-' cs
    let (day, cs) ← number 2 (some 2) cs
    let ((), cs) ← separator cs
    let (hour, cs) ← number 2 (some 2) cs
    let ((), cs) ← literal ':' cs
    let (minute, cs) ← number 2 (some 2) cs
    let ((), cs) ← literal ':' cs
    let (second, cs) ← number 2 (some 2) cs
    let (nano, cs) ← fraction cs
    let date ← Date.of? year month day
    let time ← ClockTime.of? hour minute second nano
    pure (⟨date, time⟩, cs)

end Calendar

open Calendar

/- The date that a text writes. -/
def Date.parse?
    (s : String) : Option Date :=
  complete (Calendar.date s.toList)

/-
  The moment that a text writes, with any number of blanks or
  else a `T` between date and time.
-/
def Moment.parse?
    (s : String) : Option Moment :=
  complete (spaced s.toList) <|> complete (marked s.toList)
where
  spaced
      (cs : List Char) : Option (Moment × List Char) := do
    let (d, cs) ← Calendar.date cs
    let (t, cs) ← Calendar.clockTime (Text.trimStart cs)
    pure (⟨d, t⟩, cs)
  marked
      (cs : List Char) : Option (Moment × List Char) := do
    let (d, cs) ← Calendar.date cs
    let ((), cs) ← Calendar.literal 'T' cs
    let (t, cs) ← Calendar.clockTime cs
    pure (⟨d, t⟩, cs)

/- The moment of universal time that an RFC 3339 text names. -/
def Moment.parseUtc?
    (s : String) : Option Moment := do
  let (m, cs) ← Calendar.fixedMoment s.toList
  let (minutes, cs) ← Calendar.offset cs
  if cs.isEmpty then m.shiftMinutes? (-minutes) else none

end EntitySql
