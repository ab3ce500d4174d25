import EntitySql.Statement.Command

/-
  This file defines what can be asked of a database and the
  commands that answer it.

  Key definitions include:
    * `Request`
    * `Request.draft`
    * `Request.statement`
    * `Request.reached`
-/

namespace EntitySql

/- A request over the table of an entity type. -/
inductive Request where
  | insert (r : Record)
  | update (r : Record)
  | updateWhere (e : EntityType) (patch : Patch) (p : Predicate)
  | delete (r : Record)
  | deleteWhere (e : EntityType) (p : Predicate)
  | selectByKey (e : EntityType) (key : Value)
  | select (q : Query)
  | count (q : Query)
  | selectWithCount (q : Query)

------------------------------------------------------------
-- Cells
------------------------------------------------------------

/- Bind the value for a column. -/
def bindCell
    (column : String)
    (v : Value) : Binding Cell := do
  let p ← Binding.bindValue column v
  pure ⟨column, p.name⟩

/-
  Bind the fields of a record other than its identity, in
  property order.
-/
def Record.bindFields
    (r : Record)
    (identity : Nat) : Binding (List Cell) :=
  ((r.type.columns.zipIdx).filter fun (_, i) => i != identity).mapM
    fun (column, i) => bindCell column (r.value i)

/- Bind the identity of a record. -/
def Record.bindKey
    (r : Record) : Binding Cell := do
  let column ← r.type.identityColumn
  let v ← r.identityValue
  bindCell column v

/- Bind the assignments of a patch to known columns. -/
def Patch.bindCells
    (patch : Patch)
    (e : EntityType) : Binding (List Cell) :=
  patch.assignments.mapM fun (column, v) =>
    if (e.position? column).isNone then
      Binding.refuse (.unknownColumn e.key column)
    else bindCell column v

------------------------------------------------------------
-- Drafts
------------------------------------------------------------

/- The select of the rows whose identity is a given value. -/
def EntityType.keyQuery
    (e : EntityType)
    (key : Value) : Except MappingError Query := do
  let column ← e.identityColumn
  .ok ((Query.of e).filter
    ((ColumnRef.of e column).compareValue .eq key))

namespace Request

/- The command for a request. -/
def command
    (naming : TableNaming) : Request → Binding Command
  | .insert r => do
      let identity ← r.type.identityPosition
      let cells ← r.bindFields identity
      let column ← r.type.identityColumn
      pure (.insert (r.type.tableName naming) cells column)
  | .update r => do
      let identity ← r.type.identityPosition
      let cells ← r.bindFields identity
      if cells.isEmpty then
        Binding.refuse (.nothingToUpdate r.type.key)
      else do
        let key ← r.bindKey
        pure (.update (r.type.tableName naming) cells (.keyEquals key))
  | .updateWhere e patch p => do
      if patch.assignments.isEmpty then Binding.refuse .emptyPatch
      else do
        let cells ← patch.bindCells e
        let rows ← (Scope.table e.key).compile p
        pure (.update (e.tableName naming) cells (.matching rows))
  | .delete r => do
      let key ← r.bindKey
      pure (.delete (r.type.tableName naming) (.keyEquals key))
  | .deleteWhere e p => do
      let rows ← (Scope.table e.key).compile p
      pure (.delete (e.tableName naming) (.matching rows))
  | .selectByKey e key => do
      let q ← e.keyQuery key
      let plan ← q.plan naming
      pure (.select plan none)
  | .select q => do
      let page ← q.checkedPage
      let plan ← q.plan naming
      pure (.select plan page)
  | .count q => do
      let plan ← q.plan naming
      pure (.count plan)
  | .selectWithCount q => do
      let page ← q.checkedPage
      let plan ← q.plan naming
      pure (.selectWithCount plan page)

/- The draft for a request, with no parameter bound before. -/
def draft
    (request : Request)
    (naming : TableNaming) : Except MappingError Draft :=
  match (request.command naming).run.run .empty with
  | (.ok command, params) => .ok ⟨command, params.params⟩
  | (.error e, _) => .error e

/- The statement for a request in a dialect. -/
def statement
    (request : Request)
    (naming : TableNaming)
    (d : Dialect) : Except MappingError Statement := do
  let draft ← request.draft naming
  .ok (draft.statement d)

------------------------------------------------------------
-- Entity types that a request reaches
------------------------------------------------------------

/-
  The entity types that are looked at for a request. A patch
  or page that is refused is refused before that.
-/
def reached
    (naming : TableNaming) : Request → List EntityType
  | .insert r | .update r | .delete r => [r.type]
  | .updateWhere e patch _ =>
      if patch.assignments.isEmpty then [] else [e]
  | .deleteWhere e _ | .selectByKey e _ => [e]
  | .count q => q.reached naming
  | .select q | .selectWithCount q =>
      match q.checkedPage with
      | .ok _ => q.reached naming
      | .error _ => []

end Request

end EntitySql
