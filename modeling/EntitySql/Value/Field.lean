import EntitySql.Calendar.Reader
import EntitySql.Calendar.Text
import EntitySql.Value.Basic

/-
  This file defines the types of entity fields, what a field
  can hold, and the conversions between fields and values.

  Key definitions include:
    * `FieldType`, `FieldValue`
    * `FieldType.default`
    * `FieldValue.toValue`
    * `FieldType.read`
    * `ConversionError`, `ConversionError.message`

  Dates and moments travel as texts.
-/

namespace EntitySql

------------------------------------------------------------
-- Field types
------------------------------------------------------------

/- The integer types, by sign and width. -/
inductive IntegerType where
  | int64
  | int32
  | int16
  | int8
  | uint32
  | uint16
  | uint8
  deriving DecidableEq, Repr

namespace IntegerType

def least : IntegerType → Int
  | .int64 => -9223372036854775808
  | .int32 => -2147483648
  | .int16 => -32768
  | .int8 => -128
  | .uint32 | .uint16 | .uint8 => 0

def greatest : IntegerType → Int
  | .int64 => 9223372036854775807
  | .int32 => 2147483647
  | .int16 => 32767
  | .int8 => 127
  | .uint32 => 4294967295
  | .uint16 => 65535
  | .uint8 => 255

/- An integer fits a type iff it lies between its ends. -/
def fits
    (t : IntegerType)
    (n : Int64) : Bool :=
  decide (t.least ≤ n.toInt) && decide (n.toInt ≤ t.greatest)

def name : IntegerType → String
  | .int64 => "i64"
  | .int32 => "i32"
  | .int16 => "i16"
  | .int8 => "i8"
  | .uint32 => "u32"
  | .uint16 => "u16"
  | .uint8 => "u8"

end IntegerType

/- The types of fields that always hold something. -/
inductive BaseType where
  | bool
  | integer (type : IntegerType)
  | float64
  | float32
  | text
  | blob
  | any
  | date
  | moment
  | instant
  deriving DecidableEq, Repr

/- The name of a type in messages. -/
def BaseType.name : BaseType → String
  | .bool => "bool"
  | .integer t => t.name
  | .float64 => "f64"
  | .float32 => "f32"
  | .text => "String"
  | .blob => "Vec<u8>"
  | .any => "SqlValue"
  | .date => "NaiveDate"
  | .moment => "NaiveDateTime"
  | .instant => "DateTime<Utc>"

/- A field type: an optional field may also hold nothing. -/
structure FieldType where
  base : BaseType
  optional : Bool := false
  deriving DecidableEq, Repr

------------------------------------------------------------
-- Fields
------------------------------------------------------------

/- What a field holds. -/
inductive FieldValue where
  | absent
  | bool (b : Bool)
  | integer (n : Int64)
  | float (x : Double)
  | text (s : String)
  | blob (bytes : List UInt8)
  | any (v : Value)
  | date (d : Date)
  | moment (m : Moment)
  | instant (m : Moment)
  deriving DecidableEq

/- The value that a field is written as. -/
def FieldValue.toValue : FieldValue → Value
  | .absent => .null
  | .bool b => .bool b
  | .integer n => .int n
  | .float x => .float x
  | .text s => .text s
  | .blob bytes => .blob bytes
  | .any v => v
  | .date d => .text d.text
  | .moment m => .text m.text
  | .instant m => .text m.utcText

def BaseType.default : BaseType → FieldValue
  | .bool => .bool false
  | .integer _ => .integer 0
  | .float64 | .float32 => .float Double.zero
  | .text => .text ""
  | .blob => .blob []
  | .any => .any .null
  | .date => .date Date.epoch
  | .moment => .moment Moment.epoch
  | .instant => .instant Moment.epoch

/- What a field holds before anything is assigned to it. -/
def FieldType.default
    (t : FieldType) : FieldValue :=
  if t.optional then .absent else t.base.default

------------------------------------------------------------
-- Conversion errors
------------------------------------------------------------

/- Why a value does not fit a field type. -/
inductive ConversionError where
  | typeMismatch (expected : BaseType) (found : Value.Kind)
  | unexpectedNull (expected : BaseType)
  | outOfRange (target : IntegerType) (value : Int64)
  | unreadable (target : BaseType) (text : String)
  deriving DecidableEq, Repr

def ConversionError.message : ConversionError → String
  | .typeMismatch expected found =>
      "expected " ++ expected.name ++ ", found " ++ found.name
  | .unexpectedNull expected =>
      "unexpected NULL for non-nullable " ++ expected.name
  | .outOfRange target value =>
      "value " ++ toString value.toInt ++ " out of range for " ++
        target.name
  | .unreadable target text =>
      "cannot parse '" ++ text ++ "' as " ++ target.name

------------------------------------------------------------
-- Reading values into fields
------------------------------------------------------------

/- The error for a value of a kind that a type cannot read. -/
def BaseType.reject
    (t : BaseType)
    (v : Value) : ConversionError :=
  if v.isNull then .unexpectedNull t else .typeMismatch t v.kind

/- The UTF-8 bytes of a text. -/
def utf8Bytes
    (s : String) : List UInt8 :=
  s.toList.flatMap String.utf8EncodeChar

namespace BaseType

def readFloat
    (v : Value) : Except ConversionError Double :=
  match v with
  | .float x => .ok x
  | .int n => .ok (Double.ofInt64 n)
  | v => .error (BaseType.float64.reject v)

/- Read a text in a calendar form. -/
def readText
    {α : Type}
    (t : BaseType)
    (parse? : String → Option α)
    (v : Value) : Except ConversionError α :=
  match v with
  | .text s =>
      match parse? s with
      | some a => .ok a
      | none => .error (.unreadable t s)
  | v => .error (t.reject v)

/-
  Read a value into a field that has to hold something. Truth
  values and integers read as each other, integers read as
  floats, and texts read as their bytes.
-/
def read
    (t : BaseType)
    (v : Value) : Except ConversionError FieldValue :=
  match t with
  | .bool =>
      match v with
      | .bool b => .ok (.bool b)
      | .int n => .ok (.bool (n != 0))
      | v => .error (t.reject v)
  | .integer type =>
      match v with
      | .int n =>
          if type.fits n then .ok (.integer n)
          else .error (.outOfRange type n)
      | .bool b => .ok (.integer (if b then 1 else 0))
      | v => .error (t.reject v)
  | .float64 => (readFloat v).map .float
  | .float32 =>
      (readFloat v).map fun x => .float x.toSinglePrecision
  | .text =>
      match v with
      | .text s => .ok (.text s)
      | v => .error (t.reject v)
  | .blob =>
      match v with
      | .blob bytes => .ok (.blob bytes)
      | .text s => .ok (.blob (utf8Bytes s))
      | v => .error (t.reject v)
  | .any => .ok (.any v)
  | .date => (t.readText Date.parse? v).map .date
  | .moment => (t.readText Moment.parse? v).map .moment
  | .instant => (t.readText Moment.parseUtc? v).map .instant

end BaseType

/- Read a value into a field; NULL leaves an optional one empty. -/
def FieldType.read
    (t : FieldType)
    (v : Value) : Except ConversionError FieldValue :=
  if t.optional && v.isNull then .ok .absent else t.base.read v

end EntitySql
