import EntitySql.Schema.Entity
import EntitySql.Text.Escaped

/-
  This file defines the registry of entity types: the naming
  convention and the types that have been used under it.

  Key definitions include:
    * `Registry`
    * `Registry.use`
    * `Registry.text`
-/

namespace EntitySql

/- The types in use, in order of first use. -/
structure Registry where
  naming : TableNaming := {}
  used : List EntityKey := []
  deriving DecidableEq, Repr

namespace Registry

def ofNaming
    (naming : TableNaming) : Registry :=
  { naming := naming }

/- Note the use of a type; only the first use adds it. -/
def use
    (r : Registry)
    (e : EntityType) : Registry :=
  if r.used.contains e.key then r
  else { r with used := r.used ++ [e.key] }

/- Note the use of several types. -/
def useAll
    (r : Registry)
    (es : List EntityType) : Registry :=
  es.foldl use r

def size
    (r : Registry) : Nat :=
  r.used.length

def isEmpty
    (r : Registry) : Bool :=
  r.used.isEmpty

------------------------------------------------------------
-- The registry as a text
------------------------------------------------------------

/- An optional name, quoted if it is there. -/
def optionText : Option String → String
  | none => "None"
  | some s => "Some(" ++ Text.quoteEscaped s ++ ")"

/- The naming convention and the number of types in use. -/
def text
    (r : Registry) : String :=
  "EntityRegistry \x7b naming: TableNaming \x7b prefix: " ++
    optionText r.naming.tablePrefix ++ ", default_schema: " ++
    optionText r.naming.defaultSchema ++ " \x7d, cached: " ++
    toString r.size ++ " \x7d"

end Registry

end EntitySql
