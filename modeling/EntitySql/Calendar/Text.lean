import EntitySql.Calendar.Date
import EntitySql.Number.Decimal

/-
  This file defines the texts of dates and moments.

  Key definitions include:
    * `Date.text`
    * `Moment.text`
    * `Moment.utcText`

  Years of one to four digits are written with four digits and
  no sign, all others with a sign. A fraction of a second has
  three, six or nine digits, or is left out when it is zero.
-/

namespace EntitySql

/- Decimal digits with zeros in front up to a width. -/
def paddedDigits
    (width : Nat)
    (n : Nat) : List Char :=
  let ds := decimalDigits n
  List.replicate (width - ds.length) '0' ++ ds

namespace Calendar

def yearDigits
    (year : Int) : List Char :=
  if 0 ≤ year ∧ year ≤ 9999 then paddedDigits 4 year.toNat
  else if year < 0 then '-' :: paddedDigits 4 year.natAbs
  else '+' :: paddedDigits 4 year.natAbs

def fractionDigits
    (nano : Nat) : List Char :=
  if nano = 0 then []
  else if nano % 1000000 = 0 then
    '.' :: paddedDigits 3 (nano / 1000000)
  else if nano % 1000 = 0 then
    '.' :: paddedDigits 6 (nano / 1000)
  else '.' :: paddedDigits 9 nano

end Calendar

open Calendar

/- The characters of a date: year, month and day. -/
def Date.chars
    (d : Date) : List Char :=
  yearDigits d.year ++ ['-'] ++ paddedDigits 2 d.month ++
    ['-'] ++ paddedDigits 2 d.day

/- The characters of a time: hour, minute, second, fraction. -/
def ClockTime.chars
    (t : ClockTime) : List Char :=
  paddedDigits 2 t.hour ++ [':'] ++ paddedDigits 2 t.minute ++
    [':'] ++ paddedDigits 2 t.second ++ fractionDigits t.nano

def Date.text
    (d : Date) : String :=
  String.ofList d.chars

/- A moment with a space between date and time. -/
def Moment.text
    (m : Moment) : String :=
  String.ofList (m.date.chars ++ [' '] ++ m.time.chars)

/- A moment of universal time in the form of RFC 3339. -/
def Moment.utcText
    (m : Moment) : String :=
  String.ofList
    (m.date.chars ++ ['T'] ++ m.time.chars ++
      ['+', '0', '0', ':', '0', '0'])

end EntitySql
