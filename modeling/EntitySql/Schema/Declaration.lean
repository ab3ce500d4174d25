import EntitySql.Dialect.TypeSpelling
import EntitySql.Schema.Entity

/-
  This file defines how properties are declared: by a column
  and a spelled type.

  Key definitions include:
    * `BaseType.all`
    * `FieldType.ofSpelling?`
    * `Property.declare?`
    * `Property.asIdentity`, `Property.asNullable`
-/

namespace EntitySql

/- Every base type. -/
def BaseType.all : List BaseType :=
  [ .bool, .integer .int64, .integer .int32, .integer .int16,
    .integer .int8, .integer .uint32, .integer .uint16,
    .integer .uint8, .float64, .float32, .text, .blob, .any,
    .date, .moment, .instant ]

/- The base type of a name. -/
def BaseType.ofName?
    (name : String) : Option BaseType :=
  BaseType.all.find? fun t => t.name == name

/-
  The field type that a declared type spells, whatever its
  module paths. An outer `Option` makes it optional.
-/
def FieldType.ofSpelling?
    (declared : String) : Option FieldType :=
  let plain := TypeSpelling.dropPaths [] declared.toList
  match TypeSpelling.insideOption? plain with
  | some inner =>
      (BaseType.ofName? (String.ofList inner)).map
        fun t => ⟨t, true⟩
  | none =>
      (BaseType.ofName? (String.ofList plain)).map
        fun t => ⟨t, false⟩

namespace Property

/- A property with a declared type, nullable iff optional. -/
def declare?
    (column declared : String) : Option Property :=
  (FieldType.ofSpelling? declared).map fun t =>
    { column := column
      declaredType := declared
      type := t
      nullable := t.optional }

/- The property as the identity of its entity. -/
def asIdentity
    (p : Property) : Property :=
  { p with identity := true }

/- The property as one whose column may be NULL. -/
def asNullable
    (p : Property) : Property :=
  { p with nullable := true }

end Property

end EntitySql
