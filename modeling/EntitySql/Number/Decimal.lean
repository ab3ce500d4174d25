import EntitySql.Number.Double

/-
  This file defines the decimal text of a binary64 number.

  Key definitions include:
    * `Double.Grid`
    * `Double.Grid.pick?`
    * `Double.shortest`
    * `positional`
    * `Double.text`

  The text has the fewest digits that read back as the number,
  and of those the ones nearest to it. It is never written
  with an exponent.
-/

namespace EntitySql

/- Powers are those of the core library. -/
attribute [local instance (2000)] instPowNat

namespace Double

------------------------------------------------------------
-- Decimal grids
------------------------------------------------------------

/-
  A finite number against the multiples of a power of ten. All
  quantities are multiples of one common unit: the number, the
  two ends of the interval of reals that round to it, and one
  step of the grid. The ends round to the number iff its
  significand is even.
-/
structure Grid where
  value : Nat
  low : Nat
  high : Nat
  step : Nat
  closed : Bool

/- The grid of the multiples of `10 ^ k` around a number. -/
def grid
    (x : Double)
    (k : Int) : Grid :=
  let m := x.significand
  let e := x.exponent - 2
  let scale := 2 ^ e.toNat * 10 ^ (-k).toNat
  let below :=
    if m = 2 ^ (52 : Nat) && (-1074 : Int) < x.exponent then 1 else 2
  { value := 4 * m * scale
    low := (4 * m - below) * scale
    high := (4 * m + 2) * scale
    step := 10 ^ k.toNat * 2 ^ (-e).toNat
    closed := m % 2 == 0 }

/- The multiple `d` of the step rounds to the number. -/
def Grid.covers
    (g : Grid)
    (d : Nat) : Bool :=
  let p := d * g.step
  if g.closed then decide (g.low ≤ p) && decide (p ≤ g.high)
  else decide (g.low < p) && decide (p < g.high)

/-
  The multiple nearest to the number among those that round to
  it. Only the two neighbours of the number can qualify, and a
  tie goes to the upper one.
-/
def Grid.pick?
    (g : Grid) : Option Nat :=
  let d := g.value / g.step
  let up := g.covers (d + 1)
  if g.covers d then
    if up && decide ((d + 1) * g.step - g.value ≤ g.value - d * g.step)
    then some (d + 1) else some d
  else if up then some (d + 1) else none

------------------------------------------------------------
-- Shortest digits
------------------------------------------------------------

/- The number itself is a multiple of this power of ten. -/
def bottomPower
    (x : Double) : Int :=
  min x.exponent 0

/-
  Search the grids from coarse to fine, down to the one that
  holds the number itself.
-/
def searchGrids
    (x : Double) : Nat → Nat × Int
  | 0 =>
      let e := x.exponent
      (x.significand * 2 ^ e.toNat * 5 ^ (-e).toNat, x.bottomPower)
  | n + 1 =>
      let k := x.bottomPower + (n + 1 : Nat)
      match (x.grid k).pick? with
      | some d => (d, k)
      | none => searchGrids x n

/- A power of ten above the number. -/
def topPower
    (x : Double) : Int :=
  (x.exponent + (x.significand.log2 + 1 : Nat)) * 30103 / 100000 + 1

/-
  The shortest decimal that rounds to a finite number, as an
  integer and a power of ten.
-/
def shortest
    (x : Double) : Nat × Int :=
  searchGrids x (x.topPower - x.bottomPower).toNat

end Double

------------------------------------------------------------
-- Positional texts
------------------------------------------------------------

/- The decimal digits of an integer. -/
def decimalDigits
    (n : Nat) : List Char :=
  Nat.toDigits 10 n

/- Drop the zeros that a list of digits ends with. -/
def dropTrailingZeros
    (ds : List Char) : List Char :=
  (ds.reverse.dropWhile (· == '0')).reverse

/-
  The text of `d * 10 ^ k` with a decimal point where it
  falls, and no point when nothing follows it.
-/
def positional
    (d : Nat)
    (k : Int) : List Char :=
  if 0 ≤ k then decimalDigits (d * 10 ^ k.toNat)
  else
    let places := (-k).toNat
    let whole := decimalDigits (d / 10 ^ places)
    let digits := decimalDigits (d % 10 ^ places)
    let padded := List.replicate (places - digits.length) '0' ++ digits
    let fraction := dropTrailingZeros padded
    if fraction.isEmpty then whole else whole ++ ['.'] ++ fraction

/- The text of a number. -/
def Double.text
    (x : Double) : String :=
  if x.isNaN then "NaN"
  else
    let sign := if x.negative then ['-'] else []
    let body :=
      if x.isInfinite then ['i', 'n', 'f']
      else if x.significand = 0 then ['0']
      else positional x.shortest.1 x.shortest.2
    String.ofList (sign ++ body)

end EntitySql
