/-
  This file defines binary64 numbers by their bit patterns,
  with their order and with rounding to nearest.

  Key definitions include:
    * `Double`
    * `Double.isNaN`
    * `Double.significand`, `Double.exponent`
    * `Double.compare`, `Double.equal`
    * `roundShift`
    * `Double.ofDyadic`
    * `Double.ofInt64`
    * `Double.toSinglePrecision`

  Every operation is exact integer arithmetic on the pattern:
  63 bits of magnitude below one sign bit, the magnitude being
  an 11-bit exponent above a 52-bit fraction.
-/

namespace EntitySql

/- Powers are those of the core library. -/
attribute [local instance (2000)] instPowNat

------------------------------------------------------------
-- Bit patterns
------------------------------------------------------------

/- A binary64 number. -/
structure Double where
  bits : UInt64
  deriving DecidableEq, Repr

namespace Double

/- The magnitude of an infinity: all exponent bits set. -/
def infiniteMagnitude : Nat :=
  0x7ff * 2 ^ (52 : Nat)

/- The sign bit. -/
def negative
    (x : Double) : Bool :=
  decide (2 ^ (63 : Nat) ≤ x.bits.toNat)

/- The pattern without the sign bit. -/
def magnitude
    (x : Double) : Nat :=
  x.bits.toNat % 2 ^ (63 : Nat)

/- The number with a given sign and magnitude. -/
def ofMagnitude
    (negative : Bool)
    (magnitude : Nat) : Double :=
  ⟨UInt64.ofNat
    (if negative then 2 ^ (63 : Nat) + magnitude else magnitude)⟩

def isNaN
    (x : Double) : Bool :=
  decide (infiniteMagnitude < x.magnitude)

def isInfinite
    (x : Double) : Bool :=
  decide (x.magnitude = infiniteMagnitude)

def isFinite
    (x : Double) : Bool :=
  decide (x.magnitude < infiniteMagnitude)

/- Positive zero. -/
def zero : Double :=
  ⟨0⟩

------------------------------------------------------------
-- Finite numbers as dyadic fractions
------------------------------------------------------------

/-
  A finite number is its significand times two to the power of
  its exponent. The lowest exponent field stands for numbers
  without the hidden leading bit.
-/
def significand
    (x : Double) : Nat :=
  if x.magnitude < 2 ^ (52 : Nat) then x.magnitude
  else x.magnitude % 2 ^ (52 : Nat) + 2 ^ (52 : Nat)

def exponent
    (x : Double) : Int :=
  (max (x.magnitude / 2 ^ (52 : Nat)) 1 : Nat) - (1075 : Int)

------------------------------------------------------------
-- Order
------------------------------------------------------------

/-
  The magnitude with its sign. Among numbers this key has the
  order of the numbers, and both zeros have the key zero.
-/
def orderKey
    (x : Double) : Int :=
  if x.negative then -(x.magnitude : Int) else x.magnitude

/- The order of two numbers; NaN has no place in it. -/
def compare
    (x y : Double) : Option Ordering :=
  if x.isNaN || y.isNaN then none
  else some (Ord.compare x.orderKey y.orderKey)

/- Equality of numbers: zeros are equal, NaN equals nothing. -/
def equal
    (x y : Double) : Bool :=
  x.compare y == some .eq

------------------------------------------------------------
-- Rounding
------------------------------------------------------------

/-
  Divide by a power of two and round to the nearest integer,
  a half to the even neighbour.
-/
def roundShift
    (m : Nat)
    (s : Nat) : Nat :=
  let unit := 2 ^ s
  let low := m / unit
  let twice := 2 * (m % unit)
  if twice < unit then low
  else if unit < twice then low + 1
  else low + low % 2

/-
  Round `m * 2 ^ q` to `precision` bits with no bit below
  `2 ^ bottom`, as a new significand and exponent.
-/
def roundDyadic
    (precision : Nat)
    (bottom : Int)
    (m : Nat)
    (q : Int) : Nat × Int :=
  let t := max (q + (m.log2 + 1 : Nat) - precision) bottom
  if t ≤ q then (m * 2 ^ (q - t).toNat, t)
  else (roundShift m (t - q).toNat, t)

/-
  The binary64 number nearest to `m * 2 ^ q`. A significand
  that rounds up to a power of two carries into the exponent
  field by itself, and a magnitude past the largest number is
  an infinity.
-/
def ofDyadic
    (negative : Bool)
    (m : Nat)
    (q : Int) : Double :=
  if m = 0 then ofMagnitude negative 0
  else
    let (r, t) := roundDyadic 53 (-1074) m q
    let magnitude := (t + 1074).toNat * 2 ^ (52 : Nat) + r
    ofMagnitude negative (min magnitude infiniteMagnitude)

/- The number nearest to an integer. -/
def ofInt64
    (n : Int64) : Double :=
  ofDyadic (decide (n < 0)) n.toInt.natAbs 0

/-
  The nearest binary32 number, as the binary64 number of the
  same value. A value that would need an exponent above 127
  becomes an infinity.
-/
def toSinglePrecision
    (x : Double) : Double :=
  if !x.isFinite || x.significand = 0 then x
  else
    let (r, t) := roundDyadic 24 (-149) x.significand x.exponent
    if 104 < t || (t = 104 && r = 2 ^ (24 : Nat)) then
      ofMagnitude x.negative infiniteMagnitude
    else ofDyadic x.negative r t

end Double

end EntitySql
