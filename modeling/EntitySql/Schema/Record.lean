import EntitySql.Error

/-
  This file defines instances of entity types.

  Key definitions include:
    * `Record`
    * `Record.default`
    * `Record.value`, `Record.values`
    * `Record.assign`
    * `EntityType.identityPosition`,
      `EntityType.identityColumn`
-/

namespace EntitySql

namespace EntityType

/- The position of the identity property. -/
def identityPosition
    (e : EntityType) : Except MappingError Nat :=
  match e.identityIndex? with
  | some i => .ok i
  | none => .error (.missingIdentity e.key)

/- The column of the identity property. -/
def identityColumn
    (e : EntityType) : Except MappingError String := do
  let i ← e.identityPosition
  .ok (e.columns.getD i "")

end EntityType

/-
  An instance of an entity type: what its fields hold, in
  property order.
-/
structure Record where
  type : EntityType
  fields : List FieldValue
  deriving DecidableEq

namespace Record

/- The instance to which nothing has been assigned. -/
def default
    (e : EntityType) : Record :=
  ⟨e, e.properties.map fun p => p.type.default⟩

/- The value of the field at a position. -/
def value
    (r : Record)
    (i : Nat) : Value :=
  (r.fields.getD i .absent).toValue

/- The values of all fields, in property order. -/
def values
    (r : Record) : List Value :=
  r.fields.map FieldValue.toValue

/- The value of the identity field. -/
def identityValue
    (r : Record) : Except MappingError Value := do
  let i ← r.type.identityPosition
  .ok (r.value i)

/-
  Assign a value to the field at a position. A value that does
  not fit is an error that names the column.
-/
def assign
    (r : Record)
    (i : Nat)
    (v : Value) : Except MappingError Record :=
  match r.type.properties[i]? with
  | none => .ok r
  | some p =>
      match p.type.read v with
      | .ok field => .ok ⟨r.type, r.fields.set i field⟩
      | .error cause => .error (.conversion p.column cause)

/-
  Assign a value to a column, at the last property of that
  name. A column without a property is no assignment.
-/
def assignColumn?
    (r : Record)
    (column : String)
    (v : Value) : Option (Except MappingError Record) :=
  (r.type.position? column).map fun i => r.assign i v

end Record

end EntitySql
