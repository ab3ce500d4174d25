import EntitySql.Schema.Naming
import EntitySql.Value.Field

/-
  This file defines the metadata of entity types.

  Key definitions include:
    * `EntityKey`
    * `Property`
    * `EntityType`
    * `EntityType.position?`, `EntityType.firstPosition?`
    * `EntityType.identityIndex?`

  An entity type describes one table. The order of its
  properties is the order of the columns in every statement.
-/

namespace EntitySql

------------------------------------------------------------
-- Entity types
------------------------------------------------------------

/- What tells entity types apart; two may share a name. -/
structure EntityKey where
  id : Nat
  name : String
  deriving DecidableEq, Repr

/- A mapped field: its column and the type it was declared with. -/
structure Property where
  column : String
  declaredType : String
  type : FieldType
  nullable : Bool := false
  identity : Bool := false
  deriving DecidableEq, Repr

/- An entity type. -/
structure EntityType where
  key : EntityKey
  table : String
  schema : Option String := none
  properties : List Property
  deriving DecidableEq, Repr

namespace EntityType

def name
    (e : EntityType) : String :=
  e.key.name

/- The column names in property order. -/
def columns
    (e : EntityType) : List String :=
  e.properties.map Property.column

def width
    (e : EntityType) : Nat :=
  e.properties.length

/- The table as the naming convention resolves it. -/
def tableName
    (e : EntityType)
    (naming : TableNaming) : TableName :=
  naming.resolve e.table e.schema

------------------------------------------------------------
-- Positions
------------------------------------------------------------

/- The first property of a column. -/
def firstPosition?
    (e : EntityType)
    (column : String) : Option Nat :=
  e.columns.idxOf? column

/- The last property of a column, the one that values go to. -/
def position?
    (e : EntityType)
    (column : String) : Option Nat :=
  (e.columns.reverse.idxOf? column).map fun i => e.width - 1 - i

/- The position of the identity property, if there is one. -/
def identityIndex?
    (e : EntityType) : Option Nat :=
  e.properties.findIdx? Property.identity

end EntityType

end EntitySql
