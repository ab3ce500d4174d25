import EntitySql.Number.Decimal

/-
  This file defines the values that statements bind and rows
  hold, with their kinds, their equality and order, their
  identity keys and their literal texts.

  Key definitions include:
    * `Value`, `Value.Kind`
    * `Value.equal`
    * `Value.compare`
    * `IdentityKey`, `Value.identityKey`
    * `Value.literal`
-/

namespace EntitySql

------------------------------------------------------------
-- Values
------------------------------------------------------------

/- A value of the database. -/
inductive Value where
  | null
  | bool (b : Bool)
  | int (n : Int64)
  | float (x : Double)
  | text (s : String)
  | blob (bytes : List UInt8)
  deriving DecidableEq, Repr

namespace Value

/- The kinds of values. -/
inductive Kind where
  | null
  | bool
  | int
  | float
  | text
  | blob
  deriving DecidableEq, Repr

def Kind.name : Kind → String
  | .null => "null"
  | .bool => "bool"
  | .int => "int"
  | .float => "float"
  | .text => "text"
  | .blob => "blob"

def kind : Value → Kind
  | .null => .null
  | .bool _ => .bool
  | .int _ => .int
  | .float _ => .float
  | .text _ => .text
  | .blob _ => .blob

def isNull : Value → Bool
  | .null => true
  | _ => false

------------------------------------------------------------
-- Equality and order
------------------------------------------------------------

/-
  Equality of values. Values of different kinds differ, and
  floats are equal as numbers, not as bit patterns.
-/
def equal : Value → Value → Bool
  | .null, .null => true
  | .bool a, .bool b => a == b
  | .int a, .int b => a == b
  | .float a, .float b => a.equal b
  | .text a, .text b => a == b
  | .blob a, .blob b => a == b
  | _, _ => false

/-
  The order of two constants. Integers and floats compare as
  floats; NULL and values of kinds that do not mix have none.
-/
def compare : Value → Value → Option Ordering
  | .bool a, .bool b => some (Ord.compare a b)
  | .int a, .int b => some (Ord.compare a.toInt b.toInt)
  | .float a, .float b => a.compare b
  | .int a, .float b => (Double.ofInt64 a).compare b
  | .float a, .int b => a.compare (Double.ofInt64 b)
  | .text a, .text b => some (Ord.compare a b)
  | .blob a, .blob b => some (Ord.compare a b)
  | _, _ => none

end Value

------------------------------------------------------------
-- Identity keys
------------------------------------------------------------

/- What tells the rows of one table apart. -/
inductive IdentityKey where
  | null
  | int (n : Int64)
  | float (bits : UInt64)
  | text (s : String)
  | blob (bytes : List UInt8)
  deriving DecidableEq, Repr

/-
  The identity key of a value. A truth value has the key of
  the integer that a database may store for it, and a float
  the key of its bit pattern.
-/
def Value.identityKey : Value → IdentityKey
  | .null => .null
  | .bool b => .int (if b then 1 else 0)
  | .int n => .int n
  | .float x => .float x.bits
  | .text s => .text s
  | .blob bytes => .blob bytes

------------------------------------------------------------
-- Literal texts
------------------------------------------------------------

namespace Value

/- The single quote. -/
def quoteMark : Char :=
  '\x27'

/- The two upper-case hexadecimal digits of a byte. -/
def hexByte
    (b : UInt8) : List Char :=
  [hexDigit (b.toNat / 16), hexDigit (b.toNat % 16)]
where
  hexDigit (n : Nat) : Char :=
    if n < 10 then Char.ofNat (48 + n) else Char.ofNat (55 + n)

/- A text between single quotes, those inside it doubled. -/
def quotedText
    (s : String) : List Char :=
  [quoteMark] ++
    s.toList.flatMap (fun c =>
      if c = quoteMark then [c, c] else [c]) ++
    [quoteMark]

/- A value as it would stand in the text of a statement. -/
def literal : Value → String
  | .null => "NULL"
  | .bool b => if b then "TRUE" else "FALSE"
  | .int n => toString n.toInt
  | .float x => x.text
  | .text s => String.ofList (quotedText s)
  | .blob bytes =>
      String.ofList
        (['X', quoteMark] ++ bytes.flatMap hexByte ++ [quoteMark])

end Value

end EntitySql
