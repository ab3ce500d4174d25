import EntitySql.Predicate.Basic
import EntitySql.Predicate.Parameters
import EntitySql.Sql

/-
  This file defines compiled predicates: a flat list of
  parentheses, combinators, constants and tests on columns.

  Key definitions include:
    * `Combinator`, `Combinator.dual`
    * `SqlOperator`, `SqlOperator.negate`
    * `Condition`, `Fragment`
    * `Fragment.sql`
    * `CompiledPredicate`
-/

namespace EntitySql

------------------------------------------------------------
-- Combinators
------------------------------------------------------------

inductive Combinator where
  | and
  | or
  deriving DecidableEq, Repr

namespace Combinator

/- The combinator that takes over under a negation. -/
def dual : Combinator → Combinator
  | .and => .or
  | .or => .and

def text : Combinator → String
  | .and => "AND"
  | .or => "OR"

end Combinator

------------------------------------------------------------
-- Operators
------------------------------------------------------------

/- The operators of compiled tests. -/
inductive SqlOperator where
  | eq
  | ne
  | lt
  | le
  | gt
  | ge
  | isIn
  | notIn
  | like
  | notLike
  | isNull
  | isNotNull
  deriving DecidableEq, Repr

namespace SqlOperator

def ofCompare : CompareOp → SqlOperator
  | .eq => .eq
  | .ne => .ne
  | .lt => .lt
  | .le => .le
  | .gt => .gt
  | .ge => .ge

/- The operator of the negated test. -/
def negate : SqlOperator → SqlOperator
  | .eq => .ne
  | .ne => .eq
  | .lt => .ge
  | .ge => .lt
  | .gt => .le
  | .le => .gt
  | .isIn => .notIn
  | .notIn => .isIn
  | .like => .notLike
  | .notLike => .like
  | .isNull => .isNotNull
  | .isNotNull => .isNull

def negateIf
    (op : SqlOperator)
    (negated : Bool) : SqlOperator :=
  if negated then op.negate else op

def text : SqlOperator → String
  | .eq => "="
  | .ne => "!="
  | .lt => "<"
  | .le => "<="
  | .gt => ">"
  | .ge => ">="
  | .isIn => "IN"
  | .notIn => "NOT IN"
  | .like => "LIKE"
  | .notLike => "NOT LIKE"
  | .isNull => "IS NULL"
  | .isNotNull => "IS NOT NULL"

/- Every operator, each before its negation. -/
def all : List SqlOperator :=
  [ .eq, .ne, .lt, .le, .gt, .ge, .isIn, .notIn, .like,
    .notLike, .isNull, .isNotNull ]

/- The operator that a text stands for. -/
def ofText?
    (s : String) : Option SqlOperator :=
  all.find? fun op => op.text == s

end SqlOperator

------------------------------------------------------------
-- Conditions
------------------------------------------------------------

/- The right-hand side of a compiled test. -/
inductive ConditionOperand where
  | none
  | parameter (p : Parameter)
  | list (ps : List Parameter)
  | column (c : ColumnExpr)
  deriving DecidableEq, Repr

/- A compiled test on a column. -/
structure Condition where
  property : String
  column : ColumnExpr
  op : SqlOperator
  operand : ConditionOperand
  deriving DecidableEq, Repr

namespace Condition

def isColumnComparison
    (c : Condition) : Bool :=
  match c.operand with
  | .column _ => true
  | _ => false

def sql
    (c : Condition) : Sql :=
  c.column.sql ++ Sql.words (" " ++ c.op.text) ++
    match c.operand with
    | .none => []
    | .parameter p => Sql.words " " ++ Sql.placeholder p.name
    | .list ps =>
        Sql.words " " ++
          (Sql.commaList
            (ps.map fun p => Sql.placeholder p.name)).parenthesized
    | .column other => Sql.words " " ++ other.sql

end Condition

------------------------------------------------------------
-- Fragments
------------------------------------------------------------

/- An element of a compiled predicate. -/
inductive Fragment where
  | opening
  | closing
  | combinator (c : Combinator)
  | constant (value : Bool)
  | condition (c : Condition)
  deriving DecidableEq, Repr

namespace Fragment

/- The SQL of one element; a constant is a trivial comparison. -/
def sql : Fragment → Sql
  | .opening => Sql.words "("
  | .closing => Sql.words ")"
  | .combinator c => Sql.words (" " ++ c.text ++ " ")
  | .constant true => Sql.words "1 = 1"
  | .constant false => Sql.words "1 = 0"
  | .condition c => c.sql

/- The SQL of a list of elements, which need not balance. -/
def listSql
    (fragments : List Fragment) : Sql :=
  fragments.flatMap Fragment.sql

end Fragment

/- A compiled predicate. -/
structure CompiledPredicate where
  fragments : List Fragment
  deriving DecidableEq, Repr

namespace CompiledPredicate

/- The SQL without parentheses around the whole. -/
def sql
    (p : CompiledPredicate) : Sql :=
  Fragment.listSql p.fragments

/- The tests on columns, in order. -/
def conditions
    (p : CompiledPredicate) : List Condition :=
  p.fragments.filterMap fun f =>
    match f with
    | .condition c => some c
    | _ => none

end CompiledPredicate

end EntitySql
