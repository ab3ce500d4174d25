import EntitySql.Result.Hydrate
import EntitySql.Session.Script
import EntitySql.Statement.Request

/-
  This file defines the typed operations: each writes one
  statement, calls it, and turns the answer into entities.

  Key definitions include:
    * `Mapper`
    * `Mapper.insert`, `Mapper.update`, `Mapper.delete`
    * `Mapper.get`, `Mapper.select`, `Mapper.first`
    * `PageResult`, `Mapper.selectPage`
    * `Mapper.selectNested`
-/

namespace EntitySql

/- What operations need to write statements. -/
structure Mapper where
  naming : TableNaming
  dialect : Dialect
  deriving DecidableEq, Repr

/- A page of entities and the number of all matches. -/
structure PageResult where
  items : List Record
  total : Nat
  page : Option Page

/- The number of pages; without paging all is one page. -/
def PageResult.pageCount
    (r : PageResult) : Nat :=
  match r.page with
  | some p => p.countOf r.total
  | none => 1

/- A count is an integer that is not negative. -/
def countOfValue
    (v : Value) : Except UnexpectedResult Nat :=
  match v with
  | .int n =>
      if n.toInt < 0 then .error (.negativeCount n)
      else .ok n.toInt.toNat
  | v => .error (.countKind v.kind)

/- Fail with an answer that cannot be. -/
def Operation.ofAnswer
    {α : Type}
    (result : Except UnexpectedResult α) : Operation α :=
  match result with
  | .ok a => pure a
  | .error cause => throw (.unexpected cause)

namespace Mapper

------------------------------------------------------------
-- Parts of operations
------------------------------------------------------------

/- Write the statement for a request. -/
def statement
    (m : Mapper)
    (request : Request) : Operation Statement := do
  Operation.useAll (request.reached m.naming)
  Operation.ofMapping (request.statement m.naming m.dialect)

/- Call the statement for a request. -/
def callFor
    (m : Mapper)
    (c : Convention)
    (request : Request) : Operation c.Answer := do
  let s ← m.statement request
  Operation.call c s

/- The first result set, or one without rows. -/
def firstSet
    (sets : List ResultSet) : ResultSet :=
  sets.headD .empty

/- The entities of a result: roots of a join, or one per row. -/
def hydrate
    (e : EntityType)
    (joined : Bool)
    (set : ResultSet) : Operation (List Record) := do
  Operation.use e
  Operation.ofMapping
    (if joined then hydrateRoots e set else hydrateFlat e set)

------------------------------------------------------------
-- Writing
------------------------------------------------------------

/-
  Insert a record. The answer is the record with the generated
  identity; its other fields stay as they are.
-/
def insert
    (m : Mapper)
    (r : Record) : Operation Record := do
  let key ← m.callFor .scalar (.insert r)
  if Value.isNull key then
    throw (.unexpected (.noIdentity r.type.table))
  else
    Operation.use r.type
    Operation.ofMapping do
      let i ← r.type.identityPosition
      r.assign i key

/- Update the row of a record; the answer counts rows. -/
def update
    (m : Mapper)
    (r : Record) : Operation Nat :=
  m.callFor .nonQuery (.update r)

/- Update some columns of the rows that match. -/
def updateWhere
    (m : Mapper)
    (e : EntityType)
    (patch : Patch)
    (p : Predicate) : Operation Nat :=
  m.callFor .nonQuery (.updateWhere e patch p)

/- Delete the row of a record. -/
def delete
    (m : Mapper)
    (r : Record) : Operation Nat :=
  m.callFor .nonQuery (.delete r)

/- Delete the rows that match. -/
def deleteWhere
    (m : Mapper)
    (e : EntityType)
    (p : Predicate) : Operation Nat :=
  m.callFor .nonQuery (.deleteWhere e p)

------------------------------------------------------------
-- Reading
------------------------------------------------------------

/- The entity with a key, if there is exactly one or none. -/
def get?
    (m : Mapper)
    (e : EntityType)
    (key : Value) : Operation (Option Record) := do
  let sets ← m.callFor .reader (.selectByKey e key)
  match ← hydrate e false (firstSet sets) with
  | [] => pure none
  | [r] => pure (some r)
  | _ => throw .multipleFound

/- The entity with a key. -/
def get
    (m : Mapper)
    (e : EntityType)
    (key : Value) : Operation Record := do
  match ← m.get? e key with
  | some r => pure r
  | none => throw .notFound

/- The entities of a query; a join gives every root once. -/
def select
    (m : Mapper)
    (q : Query) : Operation (List Record) := do
  let sets ← m.callFor .reader (.select q)
  hydrate q.root q.isJoined (firstSet sets)

/- The query for the first entity only. -/
def firstQuery
    (q : Query) : Query :=
  let one : Page := ⟨1, 1⟩
  if q.ordering.isEmpty then
    match q.root.identityColumn with
    | .ok key => (q.order ⟨ColumnRef.of q.root key, .asc⟩).paged one
    | .error _ => q.unpaged
  else q.paged one

/-
  The first entity of a query. Without an order the identity
  decides, and without an identity the database does.
-/
def first
    (m : Mapper)
    (q : Query) : Operation (Option Record) := do
  Operation.useAll (if q.ordering.isEmpty then [q.root] else [])
  let found ← m.select (firstQuery q)
  pure found.head?

/- The number of rows, or of different roots of a join. -/
def count
    (m : Mapper)
    (q : Query) : Operation Nat := do
  let v ← m.callFor .scalar (.count q)
  Operation.ofAnswer (countOfValue v)

/- A page of a query with the number of all matches. -/
def selectPage
    (m : Mapper)
    (q : Query) : Operation PageResult := do
  let sets ← m.callFor .reader (.selectWithCount q)
  match sets with
  | [items, total] =>
      match total.scalar? with
      | none => throw (.unexpected .noCount)
      | some total => do
          let items ← hydrate q.root q.isJoined items
          let total ← Operation.ofAnswer (countOfValue total)
          pure ⟨items, total, q.page⟩
  | sets => throw (.unexpected (.resultSets (List.length sets)))

/- The roots of a query with their children wired to them. -/
def selectNested
    {ρ : Type}
    (m : Mapper)
    (q : Query)
    (make : Record → ρ)
    (slots : List (Slot ρ)) : Operation (List ρ) := do
  let sets ← m.callFor .reader (.select q)
  Operation.useAll (nestedReached q.root (slots.map fun s => s.type))
  Operation.ofMapping
    (hydrateNested q.root make slots (firstSet sets))

end Mapper

end EntitySql
