import EntitySql.Predicate.Fragment
import EntitySql.Predicate.Scope

/-
  This file defines the compilation of predicates: constants
  are folded, negations are pushed down to the tests, and the
  values that tests need are bound as parameters.

  Key definitions include:
    * `Value.sameConstant`, `Value.foldComparison`
    * `Binding`
    * `Scope.comparison`, `Scope.membership`, `Scope.pattern`
    * `Scope.compile`
    * `Scope.compileAll`
-/

namespace EntitySql

------------------------------------------------------------
-- Constants
------------------------------------------------------------

/- Constants are equal if they are equal values or compare so. -/
def Value.sameConstant
    (a b : Value) : Bool :=
  a.compare b == some .eq || a.equal b

/- Decide a comparison of two constants. -/
def Value.foldComparison
    (left : Value)
    (op : CompareOp)
    (right : Value) : Except MappingError Bool :=
  match op with
  | .eq => .ok (left.sameConstant right)
  | .ne => .ok (!left.sameConstant right)
  | op =>
      match left.compare right with
      | some order => .ok (op.holds order)
      | none =>
          .error (.unsupported (.unordered left.kind op right.kind))

------------------------------------------------------------
-- Binding
------------------------------------------------------------

/-
  A step that may bind parameters and may fail. Parameters
  bound before a failure stay bound.
-/
abbrev Binding (α : Type) :=
  ExceptT MappingError (StateM ParameterSet) α

namespace Binding

/- Refuse a request that has no SQL. -/
def refuse
    {α : Type}
    (cause : Unsupported) : Binding α :=
  throw (.unsupported cause)

/- Bind one value under a base name. -/
def bindValue
    (base : String)
    (v : Value) : Binding Parameter := do
  let name ← modifyGet fun s => s.bind base v
  pure ⟨name, v⟩

/- Bind every value of a list. -/
def bindValues
    (base : String)
    (vs : List Value) : Binding (List Parameter) :=
  modifyGet fun s => s.bindList base vs

end Binding

------------------------------------------------------------
-- Tests
------------------------------------------------------------

namespace Scope

/-
  Compare a column with a constant. Only the tests for
  equality make sense for NULL, and they bind nothing.
-/
def valueCondition
    (scope : Scope)
    (c : ColumnRef)
    (op : CompareOp)
    (v : Value)
    (negated : Bool) : Binding Fragment := do
  let column ← scope.column c
  let (op, operand) ←
    if v.isNull then
      match op with
      | .eq => pure (SqlOperator.isNull, ConditionOperand.none)
      | .ne => pure (SqlOperator.isNotNull, ConditionOperand.none)
      | op => Binding.refuse (.orderedNull c op)
    else do
      let p ← Binding.bindValue c.column v
      pure (SqlOperator.ofCompare op, ConditionOperand.parameter p)
  pure (.condition ⟨c.column, column, op.negateIf negated, operand⟩)

/- Compile a comparison; a constant goes to the right. -/
def comparison
    (scope : Scope)
    (left : Settled)
    (op : CompareOp)
    (right : Settled)
    (negated : Bool) : Binding Fragment :=
  match left, right with
  | .column c, .value v => scope.valueCondition c op v negated
  | .value v, .column c =>
      scope.valueCondition c op.swapped v negated
  | .column l, .column r => do
      let column ← scope.column l
      let other ← scope.column r
      pure (.condition
        ⟨l.column, column, (SqlOperator.ofCompare op).negateIf negated,
          .column other⟩)
  | .value l, .value r => do
      let holds ← l.foldComparison op r
      pure (.constant (holds != negated))
  | .list _, _ | _, .list _ => Binding.refuse (.comparedList op)

/-
  Compile a membership test. A column is in no empty list, and
  a constant is looked up at once.
-/
def membership
    (scope : Scope)
    (column : Settled)
    (values : Settled)
    (negated : Bool) : Binding Fragment := do
  let vs ←
    match values with
    | .list vs => pure vs
    | .value v => pure [v]
    | .column c => Binding.refuse (.columnAsList c)
  match column with
  | .column c =>
      if vs.isEmpty then pure (.constant negated)
      else do
        let rendered ← scope.column c
        let bound ← Binding.bindValues c.column vs
        pure (.condition
          ⟨c.column, rendered, SqlOperator.isIn.negateIf negated,
            .list bound⟩)
  | .value v =>
      pure (.constant (vs.any v.sameConstant != negated))
  | .list _ => Binding.refuse .listAsMember

/- Compile a pattern test. -/
def pattern
    (scope : Scope)
    (column : Settled)
    (kind : PatternKind)
    (value : Settled)
    (negated : Bool) : Binding Fragment :=
  match value with
  | .value (.text text) =>
      match column with
      | .column c => do
          let rendered ← scope.column c
          let p ←
            Binding.bindValue c.column (.text (kind.likePattern text))
          pure (.condition
            ⟨c.column, rendered, SqlOperator.like.negateIf negated,
              .parameter p⟩)
      | .value (.text subject) =>
          pure (.constant (kind.holds subject text != negated))
      | _ => Binding.refuse .patternSubject
  | _ => Binding.refuse .patternNotText

------------------------------------------------------------
-- Predicates
------------------------------------------------------------

/- Two operands of a combinator, each between parentheses. -/
def combine
    (c : Combinator)
    (left right : List Fragment) : List Fragment :=
  [.opening] ++ left ++ [.closing, .combinator c, .opening] ++
    right ++ [.closing]

/-
  The fragments of a predicate, or of its negation. Negations
  do not appear among the fragments: they turn combinators
  into their duals and negate the tests.
-/
def fragments
    (scope : Scope) : Bool → Predicate → Binding (List Fragment)
  | negated, .not inner => fragments scope (!negated) inner
  | negated, .and left right => do
      let l ← fragments scope negated left
      let r ← fragments scope negated right
      pure (combine (if negated then .or else .and) l r)
  | negated, .or left right => do
      let l ← fragments scope negated left
      let r ← fragments scope negated right
      pure (combine (if negated then .and else .or) l r)
  | negated, .literal value => pure [.constant (value != negated)]
  | negated, .comparison left op right => do
      pure [← scope.comparison left.settled op right.settled negated]
  | negated, .membership column values => do
      pure [← scope.membership column.settled values.settled negated]
  | negated, .pattern column kind value => do
      pure [← scope.pattern column.settled kind value.settled negated]

/- Compile a predicate, binding its values. -/
def compile
    (scope : Scope)
    (p : Predicate) : Binding CompiledPredicate := do
  pure ⟨← scope.fragments false p⟩

/- Compile predicates in order into one parameter set. -/
def compileList
    (scope : Scope)
    (ps : List Predicate) : Binding (List CompiledPredicate) :=
  ps.mapM scope.compile

end Scope

/- Compiled predicates that all have to hold. -/
def conjunctionSql
    (ps : List CompiledPredicate) : Sql :=
  Sql.joinWith " AND " (ps.map fun p => p.sql.parenthesized)

namespace Scope

/- Compile predicates that all have to hold, if there are any. -/
def compileAll
    (scope : Scope)
    (ps : List Predicate) : Binding (Option Sql) := do
  let compiled ← scope.compileList ps
  pure (if compiled.isEmpty then none
    else some (conjunctionSql compiled))

end Scope

end EntitySql
