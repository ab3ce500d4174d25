import EntitySql.Proofs.Statement.Supply

/-
  The shape of a request: all of it but the values that its
  statement binds.

  Key definitions include:
    * `Settled.SameForm`
    * `Predicate.SameShape`
    * `Query.SameShape`
    * `Request.SameShape`, `Request.bound`

  Two requests of one shape have the same types, columns,
  operators, joins, orders and pages. Their values may differ,
  as long as NULL is compared in the same places.
-/

namespace EntitySql

------------------------------------------------------------
-- Operands
------------------------------------------------------------

namespace Settled

/- Operands that differ at most in their values. -/
inductive SameForm : Settled → Settled → Prop where
  | column (c : ColumnRef) : SameForm (.column c) (.column c)
  | value (v w : Value) : SameForm (.value v) (.value w)
  | list
      {vs ws : List Value}
      (length_eq : vs.length = ws.length) :
      SameForm (.list vs) (.list ws)

def isColumn : Settled → Bool
  | .column _ => true
  | _ => false

def isNull : Settled → Bool
  | .value v => v.isNull
  | _ => false

def isText : Settled → Bool
  | .value (.text _) => true
  | _ => false

end Settled

------------------------------------------------------------
-- Predicates
------------------------------------------------------------

/-
  Predicates that differ at most in the values of their tests.
  Every test has a column on one side, NULL is compared in the
  same places, and so are patterns that are texts.
-/
inductive Predicate.SameShape : Predicate → Predicate → Prop where
  | comparison
      {left left' right right' : Operand}
      (op : CompareOp)
      (left_form : left.settled.SameForm left'.settled)
      (right_form : right.settled.SameForm right'.settled)
      (has_column :
        left.settled.isColumn ∨ right.settled.isColumn)
      (left_null : left.settled.isNull = left'.settled.isNull)
      (right_null : right.settled.isNull = right'.settled.isNull) :
      SameShape (.comparison left op right)
        (.comparison left' op right')
  | membership
      {column column' values values' : Operand}
      (column_form : column.settled.SameForm column'.settled)
      (values_form : values.settled.SameForm values'.settled)
      (has_column :
        column.settled.isColumn ∨ values.settled.isColumn) :
      SameShape (.membership column values)
        (.membership column' values')
  | pattern
      {column column' value value' : Operand}
      (kind : PatternKind)
      (column_form : column.settled.SameForm column'.settled)
      (value_form : value.settled.SameForm value'.settled)
      (has_column :
        column.settled.isColumn ∨ value.settled.isColumn)
      (value_text : value.settled.isText = value'.settled.isText) :
      SameShape (.pattern column kind value)
        (.pattern column' kind value')
  | and
      {left left' right right' : Predicate}
      (left_shape : SameShape left left')
      (right_shape : SameShape right right') :
      SameShape (.and left right) (.and left' right')
  | or
      {left left' right right' : Predicate}
      (left_shape : SameShape left left')
      (right_shape : SameShape right right') :
      SameShape (.or left right) (.or left' right')
  | not
      {inner inner' : Predicate}
      (inner_shape : SameShape inner inner') :
      SameShape (.not inner) (.not inner')
  | literal (value : Bool) :
      SameShape (.literal value) (.literal value)

------------------------------------------------------------
-- Queries
------------------------------------------------------------

/- Joins that differ at most in the values of their predicate. -/
structure Join.SameShape
    (j j' : Join) : Prop where
  kind_eq : j.kind = j'.kind
  target_eq : j.target = j'.target
  source_column_eq : j.sourceColumn = j'.sourceColumn
  dest_column_eq : j.destColumn = j'.destColumn
  source_eq : j.source = j'.source
  condition_shape :
    Option.Rel Predicate.SameShape j.condition j'.condition

/- Queries that differ at most in the values of predicates. -/
structure Query.SameShape
    (q q' : Query) : Prop where
  root_eq : q.root = q'.root
  ordering_eq : q.ordering = q'.ordering
  page_eq : q.page = q'.page
  joins_shape : List.Forall₂ Join.SameShape q.joins q'.joins
  filters_shape :
    List.Forall₂ Predicate.SameShape q.filters q'.filters

------------------------------------------------------------
-- Requests
------------------------------------------------------------

namespace Request

/- Requests that differ at most in their values. -/
inductive SameShape : Request → Request → Prop where
  | insert
      {r r' : Record}
      (type_eq : r.type = r'.type) :
      SameShape (.insert r) (.insert r')
  | update
      {r r' : Record}
      (type_eq : r.type = r'.type) :
      SameShape (.update r) (.update r')
  | updateWhere
      (e : EntityType)
      {patch patch' : Patch}
      {p p' : Predicate}
      (columns_eq :
        patch.assignments.map Prod.fst =
          patch'.assignments.map Prod.fst)
      (predicate_shape : p.SameShape p') :
      SameShape (.updateWhere e patch p) (.updateWhere e patch' p')
  | delete
      {r r' : Record}
      (type_eq : r.type = r'.type) :
      SameShape (.delete r) (.delete r')
  | deleteWhere
      (e : EntityType)
      {p p' : Predicate}
      (predicate_shape : p.SameShape p') :
      SameShape (.deleteWhere e p) (.deleteWhere e p')
  | selectByKey
      (e : EntityType)
      {key key' : Value}
      (null_eq : key.isNull = key'.isNull) :
      SameShape (.selectByKey e key) (.selectByKey e key')
  | select
      {q q' : Query}
      (query_shape : q.SameShape q') :
      SameShape (.select q) (.select q')
  | count
      {q q' : Query}
      (query_shape : q.SameShape q') :
      SameShape (.count q) (.count q')
  | selectWithCount
      {q q' : Query}
      (query_shape : q.SameShape q') :
      SameShape (.selectWithCount q) (.selectWithCount q')

/-
  The values that a request binds, in order. A query that is
  also counted binds its values once for both.
-/
def bound : Request → List Value
  | .selectWithCount q => q.supplied.map Prod.snd
  | request => request.supplied.map Prod.snd

end Request

end EntitySql
