import EntitySql.Schema.Entity

/-
  This file defines predicates over the columns of entities
  and the ways to build them.

  Key definitions include:
    * `CompareOp`, `CompareOp.swapped`, `CompareOp.holds`
    * `PatternKind`, `PatternKind.likePattern`,
      `PatternKind.holds`
    * `ColumnRef`
    * `Operand`, `Operand.settled`
    * `Predicate`
    * `Predicate.all`, `Predicate.any`
-/

namespace EntitySql

------------------------------------------------------------
-- Comparison operators
------------------------------------------------------------

inductive CompareOp where
  | eq
  | ne
  | lt
  | le
  | gt
  | ge
  deriving DecidableEq, Repr

namespace CompareOp

/- The operator that holds once the operands are swapped. -/
def swapped : CompareOp → CompareOp
  | .eq => .eq
  | .ne => .ne
  | .lt => .gt
  | .le => .ge
  | .gt => .lt
  | .ge => .le

/- An operator holds for some of the orders of its operands. -/
def holds : CompareOp → Ordering → Bool
  | .eq, order => order == .eq
  | .ne, order => order != .eq
  | .lt, order => order == .lt
  | .le, order => order != .gt
  | .gt, order => order == .gt
  | .ge, order => order != .lt

def text : CompareOp → String
  | .eq => "="
  | .ne => "!="
  | .lt => "<"
  | .le => "<="
  | .gt => ">"
  | .ge => ">="

def all : List CompareOp :=
  [.eq, .ne, .lt, .le, .gt, .ge]

/- The operator that a text stands for. -/
def ofText?
    (s : String) : Option CompareOp :=
  all.find? fun op => op.text == s

end CompareOp

------------------------------------------------------------
-- Text patterns
------------------------------------------------------------

/- Where in a text another one is looked for. -/
inductive PatternKind where
  | contains
  | startsWith
  | endsWith
  deriving DecidableEq, Repr

/- The second text occurs somewhere in the first. -/
def occursIn
    (text : List Char) : List Char → Bool
  | [] => text.isEmpty
  | c :: cs => text.isPrefixOf (c :: cs) || occursIn text cs

namespace PatternKind

/- The pattern for LIKE that looks for a text. -/
def likePattern
    (kind : PatternKind)
    (text : String) : String :=
  match kind with
  | .contains => "%" ++ text ++ "%"
  | .startsWith => text ++ "%"
  | .endsWith => "%" ++ text

/- The test on two constants. -/
def holds
    (kind : PatternKind)
    (subject text : String) : Bool :=
  match kind with
  | .contains => occursIn text.toList subject.toList
  | .startsWith => text.toList.isPrefixOf subject.toList
  | .endsWith => text.toList.isSuffixOf subject.toList

end PatternKind

------------------------------------------------------------
-- Columns
------------------------------------------------------------

/-
  A column of an entity. In a join that has the entity several
  times, the occurrence says which one, counted from one.
-/
structure ColumnRef where
  entity : EntityKey
  column : String
  occurrence : Option Nat := none
  deriving DecidableEq, Repr

namespace ColumnRef

/- A column of an entity type, by name. -/
def of
    (e : EntityType)
    (column : String) : ColumnRef :=
  { entity := e.key, column := column }

/- The same column of the n-th occurrence of its entity. -/
def nth
    (c : ColumnRef)
    (n : Nat) : ColumnRef :=
  { c with occurrence := some n }

/- The column in messages. -/
def text
    (c : ColumnRef) : String :=
  c.entity.name ++ "." ++ c.column ++
    match c.occurrence with
    | some n => "#" ++ toString n
    | none => ""

end ColumnRef

------------------------------------------------------------
-- Operands
------------------------------------------------------------

/- What a test is applied to. -/
inductive Operand where
  | column (c : ColumnRef)
  | literal (v : Value)
  | list (vs : List Value)
  | computed (produce : Unit → Operand)

/- An operand with nothing left to compute. -/
inductive Settled where
  | column (c : ColumnRef)
  | value (v : Value)
  | list (vs : List Value)
  deriving DecidableEq, Repr

namespace Operand

/- What an operand is once everything is computed. -/
def settled : Operand → Settled
  | .column c => .column c
  | .literal v => .value v
  | .list vs => .list vs
  | .computed produce => settled (produce ())

/- How many computed operands stand in front of the settled one. -/
def depth : Operand → Nat
  | .computed produce => depth (produce ()) + 1
  | _ => 0

/- How a computed operand is shown without computing it. -/
def computedText : String :=
  "Computed(..)"

end Operand

------------------------------------------------------------
-- Predicates
------------------------------------------------------------

/- A condition on rows. -/
inductive Predicate where
  | comparison (left : Operand) (op : CompareOp) (right : Operand)
  | membership (column values : Operand)
  | pattern (column : Operand) (kind : PatternKind) (value : Operand)
  | and (left right : Predicate)
  | or (left right : Predicate)
  | not (inner : Predicate)
  | literal (value : Bool)

namespace Predicate

def always : Predicate :=
  .literal true

def never : Predicate :=
  .literal false

/- All of the predicates, grouped from the left. -/
def all : List Predicate → Predicate
  | [] => always
  | p :: ps => ps.foldl .and p

/- Any of the predicates, grouped from the left. -/
def any : List Predicate → Predicate
  | [] => never
  | p :: ps => ps.foldl .or p

end Predicate

------------------------------------------------------------
-- Tests on one column
------------------------------------------------------------

namespace ColumnRef

/- Compare a column with a constant. -/
def compareValue
    (c : ColumnRef)
    (op : CompareOp)
    (v : Value) : Predicate :=
  .comparison (.column c) op (.literal v)

/- Compare a column with another column. -/
def compareColumn
    (c : ColumnRef)
    (op : CompareOp)
    (other : ColumnRef) : Predicate :=
  .comparison (.column c) op (.column other)

/- Compare a column with a value found on compilation. -/
def compareWith
    (c : ColumnRef)
    (op : CompareOp)
    (produce : Unit → Value) : Predicate :=
  .comparison (.column c) op
    (.computed fun _ => .literal (produce ()))

def isNull
    (c : ColumnRef) : Predicate :=
  c.compareValue .eq .null

def isNotNull
    (c : ColumnRef) : Predicate :=
  c.compareValue .ne .null

def isIn
    (c : ColumnRef)
    (vs : List Value) : Predicate :=
  .membership (.column c) (.list vs)

def notIn
    (c : ColumnRef)
    (vs : List Value) : Predicate :=
  .not (c.isIn vs)

def matchText
    (c : ColumnRef)
    (kind : PatternKind)
    (text : String) : Predicate :=
  .pattern (.column c) kind (.literal (.text text))

def contains
    (c : ColumnRef)
    (text : String) : Predicate :=
  c.matchText .contains text

def startsWith
    (c : ColumnRef)
    (text : String) : Predicate :=
  c.matchText .startsWith text

def endsWith
    (c : ColumnRef)
    (text : String) : Predicate :=
  c.matchText .endsWith text

end ColumnRef

end EntitySql
