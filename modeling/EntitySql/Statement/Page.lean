import EntitySql.Error

/-
  This file defines pages of a result.

  Key definitions include:
    * `Page`
    * `Page.validate`
    * `Page.offset`, `Page.upper`
    * `Page.countOf`
-/

namespace EntitySql

/- Powers are those of the core library. -/
attribute [local instance (2000)] instPowNat

/- A page of a result, by its number from one and its size. -/
structure Page where
  number : UInt64
  size : UInt64
  deriving DecidableEq, Repr

namespace Page

/- Numbers and sizes start at one. -/
def validate
    (p : Page) : Except MappingError Unit :=
  if p.number = 0 then .error (.invalidPage .numberZero)
  else if p.size = 0 then .error (.invalidPage .sizeZero)
  else .ok ()

/- The largest row number that a statement can name. -/
def greatestRow : Nat :=
  2 ^ (64 : Nat) - 1

/- Row numbers stop at the largest one. -/
def saturate
    (n : Nat) : Nat :=
  min n greatestRow

/- The number of rows before the page. -/
def offset
    (p : Page) : Nat :=
  saturate ((p.number.toNat - 1) * p.size.toNat)

/- The number of the first row after the page. -/
def upper
    (p : Page) : Nat :=
  saturate (saturate (p.offset + p.size.toNat) + 1)

/- How many pages of this size hold a number of rows. -/
def countOf
    (p : Page)
    (total : Nat) : Nat :=
  if p.size = 0 then 1
  else (total + p.size.toNat - 1) / p.size.toNat

end Page

end EntitySql
