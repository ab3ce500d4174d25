import EntitySql.Statement.Page

/-
  This file defines what a select asks for: filters, orders,
  joins and a page.

  Key definitions include:
    * `Direction`, `OrderBy`
    * `JoinKind`, `JoinSource`, `Join`
    * `Query`
    * `Patch`
-/

namespace EntitySql

------------------------------------------------------------
-- Orders
------------------------------------------------------------

inductive Direction where
  | asc
  | desc
  deriving DecidableEq, Repr

def Direction.text : Direction → String
  | .asc => "ASC"
  | .desc => "DESC"

/- One item of an order. -/
structure OrderBy where
  column : ColumnRef
  direction : Direction
  deriving DecidableEq, Repr

/-
  An order by a column name of an entity type, descending if a
  minus sign stands in front.
-/
def OrderBy.parse
    (e : EntityType)
    (spec : String) : OrderBy :=
  match spec.toList with
  | '-' :: column => ⟨ColumnRef.of e (String.ofList column), .desc⟩
  | _ => ⟨ColumnRef.of e spec, .asc⟩

------------------------------------------------------------
-- Joins
------------------------------------------------------------

inductive JoinKind where
  | inner
  | left
  | right
  | full
  deriving DecidableEq, Repr

def JoinKind.text : JoinKind → String
  | .inner => "INNER JOIN"
  | .left => "LEFT JOIN"
  | .right => "RIGHT JOIN"
  | .full => "FULL OUTER JOIN"

/- The table that a join starts from. -/
inductive JoinSource where
  | previous
  | root
  | nth (entity : EntityKey) (occurrence : Nat)
  deriving DecidableEq, Repr

/-
  A join to the table of an entity type: a column of an
  earlier table equals one of the joined table, and a further
  predicate may have to hold.
-/
structure Join where
  kind : JoinKind
  target : EntityType
  sourceColumn : String
  destColumn : String
  source : JoinSource := .previous
  condition : Option Predicate := none

namespace Join

/- Start from the first table. -/
def fromRoot
    (j : Join) : Join :=
  { j with source := .root }

/- Start from the n-th table of an entity. -/
def fromNth
    (j : Join)
    (e : EntityType)
    (n : Nat) : Join :=
  { j with source := .nth e.key n }

/- Add a predicate to those that have to hold. -/
def on
    (j : Join)
    (p : Predicate) : Join :=
  { j with
    condition :=
      match j.condition with
      | some earlier => some (.and earlier p)
      | none => some p }

end Join

------------------------------------------------------------
-- Queries
------------------------------------------------------------

/- A select over the table of an entity type. -/
structure Query where
  root : EntityType
  filters : List Predicate := []
  ordering : List OrderBy := []
  joins : List Join := []
  page : Option Page := none

namespace Query

/- Every row of an entity type. -/
def of
    (e : EntityType) : Query :=
  { root := e }

/- Keep the rows on which a predicate holds. -/
def filter
    (q : Query)
    (p : Predicate) : Query :=
  { q with filters := q.filters ++ [p] }

/- Drop the rows on which a predicate holds. -/
def exclude
    (q : Query)
    (p : Predicate) : Query :=
  q.filter (.not p)

def order
    (q : Query)
    (o : OrderBy) : Query :=
  { q with ordering := q.ordering ++ [o] }

/- Order by a column of the root, as a text says. -/
def orderBy
    (q : Query)
    (spec : String) : Query :=
  q.order (OrderBy.parse q.root spec)

def join
    (q : Query)
    (j : Join) : Query :=
  { q with joins := q.joins ++ [j] }

def paged
    (q : Query)
    (p : Page) : Query :=
  { q with page := some p }

def unpaged
    (q : Query) : Query :=
  { q with page := none }

/- A query over several tables. -/
def isJoined
    (q : Query) : Bool :=
  !q.joins.isEmpty

/- The page that is asked for, if it is one that exists. -/
def checkedPage
    (q : Query) : Except MappingError (Option Page) :=
  match q.page with
  | none => .ok none
  | some p => do
      p.validate
      if q.ordering.isEmpty then .error (.invalidPage .unordered)
      else .ok (some p)

end Query

------------------------------------------------------------
-- Patches
------------------------------------------------------------

/- New values for some columns, in order. -/
structure Patch where
  assignments : List (String × Value) := []
  deriving DecidableEq, Repr

/- Assign one more column. -/
def Patch.set
    (patch : Patch)
    (column : String)
    (v : Value) : Patch :=
  ⟨patch.assignments ++ [(column, v)]⟩

end EntitySql
