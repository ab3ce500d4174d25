import EntitySql.Predicate.Compile

/-
  This file defines what predicates and compiled conditions
  mean in the three-valued logic of SQL, given the truth of
  every test of a column that carries no negated operator.

  Key definitions include:
    * `Truth`
    * `ColumnTest`, `Valuation`
    * `Condition.truth`
    * `Predicate.truth?`

  Key theorems include:
    * `SqlOperator.truth_negateIf`
    * `SqlOperator.truth_ofCompare`
-/

namespace EntitySql

------------------------------------------------------------
-- Truth values
------------------------------------------------------------

/- The truth values of SQL. -/
inductive Truth where
  | holds
  | fails
  | unknown
  deriving DecidableEq, Repr

namespace Truth

def ofBool : Bool → Truth
  | true => .holds
  | false => .fails

def not : Truth → Truth
  | .holds => .fails
  | .fails => .holds
  | .unknown => .unknown

/- A conjunction fails as soon as one side does. -/
def and : Truth → Truth → Truth
  | .fails, _ => .fails
  | _, .fails => .fails
  | .holds, .holds => .holds
  | _, _ => .unknown

/- A disjunction holds as soon as one side does. -/
def or : Truth → Truth → Truth
  | .holds, _ => .holds
  | _, .holds => .holds
  | .fails, .fails => .fails
  | _, _ => .unknown

def negateIf
    (t : Truth)
    (negated : Bool) : Truth :=
  if negated then t.not else t

@[simp] theorem negateIf_false
    (t : Truth) :
    t.negateIf false = t := rfl

@[simp] theorem negateIf_true
    (t : Truth) :
    t.negateIf true = t.not := rfl

@[simp] theorem not_not
    (t : Truth) :
    t.not.not = t := by
  cases t <;> rfl

/- De Morgan's law for conjunctions. -/
theorem not_and
    (t u : Truth) :
    (t.and u).not = t.not.or u.not := by
  cases t <;> cases u <;> rfl

/- De Morgan's law for disjunctions. -/
theorem not_or
    (t u : Truth) :
    (t.or u).not = t.not.and u.not := by
  cases t <;> cases u <;> rfl

/- A negation in front turns the parity around. -/
theorem not_negateIf
    (t : Truth)
    (negated : Bool) :
    t.not.negateIf negated = t.negateIf (!negated) := by
  cases negated <;> simp

theorem ofBool_inj
    {a b : Bool} :
    ofBool a = ofBool b ↔ a = b := by
  cases a <;> cases b <;> simp [ofBool]

theorem ofBool_not
    (b : Bool) :
    ofBool (!b) = (ofBool b).not := by
  cases b <;> rfl

/- Comparing a constant with the parity negates it. -/
theorem ofBool_bne
    (b negated : Bool) :
    ofBool (b != negated) = (ofBool b).negateIf negated := by
  cases b <;> cases negated <;> rfl

end Truth

------------------------------------------------------------
-- Tests of columns
------------------------------------------------------------

/- The operators that are not the negation of another one. -/
inductive TestOp where
  | eq
  | lt
  | gt
  | isIn
  | like
  | isNull
  deriving DecidableEq, Repr

/- What a column is tested against. -/
inductive TestOperand where
  | none
  | value (v : Value)
  | values (vs : List Value)
  | column (c : ColumnExpr)
  deriving DecidableEq, Repr

/- A test of a column that is not negated. -/
structure ColumnTest where
  column : ColumnExpr
  op : TestOp
  operand : TestOperand
  deriving DecidableEq, Repr

/- The truth of every test on one row. -/
abbrev Valuation :=
  ColumnTest → Truth

------------------------------------------------------------
-- Conditions
------------------------------------------------------------

namespace SqlOperator

/-
  The truth of a condition from the truths of the tests on
  its operands: half of the operators negate a test.
-/
def truth
    (test : TestOp → Truth) : SqlOperator → Truth
  | .eq => test .eq
  | .ne => (test .eq).not
  | .lt => test .lt
  | .ge => (test .lt).not
  | .gt => test .gt
  | .le => (test .gt).not
  | .isIn => test .isIn
  | .notIn => (test .isIn).not
  | .like => test .like
  | .notLike => (test .like).not
  | .isNull => test .isNull
  | .isNotNull => (test .isNull).not

/- Negating an operator negates the condition. -/
theorem truth_negateIf
    (test : TestOp → Truth)
    (op : SqlOperator)
    (negated : Bool) :
    (op.negateIf negated).truth test =
      (op.truth test).negateIf negated := by
  cases negated with
  | false => rfl
  | true => cases op <;> simp [negateIf, negate, truth]

end SqlOperator

/- What the operand of a condition stands for. -/
def ConditionOperand.tested : ConditionOperand → TestOperand
  | .none => .none
  | .parameter p => .value p.value
  | .list ps => .values (ps.map Parameter.value)
  | .column c => .column c

/- The truth of a condition on one row. -/
def Condition.truth
    (ν : Valuation)
    (c : Condition) : Truth :=
  c.op.truth fun op => ν ⟨c.column, op, c.operand.tested⟩

------------------------------------------------------------
-- Predicates
------------------------------------------------------------

namespace CompareOp

/- The truth of a comparison with the column on the left. -/
def truth
    (test : TestOp → Truth) : CompareOp → Truth
  | .eq => test .eq
  | .ne => (test .eq).not
  | .lt => test .lt
  | .le => (test .gt).not
  | .gt => test .gt
  | .ge => (test .lt).not

/- The truth of a comparison with the column on the right. -/
def mirroredTruth
    (test : TestOp → Truth) : CompareOp → Truth
  | .eq => test .eq
  | .ne => (test .eq).not
  | .lt => test .gt
  | .le => (test .lt).not
  | .gt => test .lt
  | .ge => (test .gt).not

/- NULL is compared for equality only, whatever the side. -/
def nullTruth?
    (test : TestOp → Truth) : CompareOp → Option Truth
  | .eq => some (test .isNull)
  | .ne => some (test .isNull).not
  | _ => none

/- Swapping the operands mirrors the comparison. -/
theorem truth_swapped
    (test : TestOp → Truth)
    (op : CompareOp) :
    op.swapped.truth test = op.mirroredTruth test := by
  cases op <;> rfl

theorem nullTruth?_swapped
    (test : TestOp → Truth)
    (op : CompareOp) :
    op.swapped.nullTruth? test = op.nullTruth? test := by
  cases op <;> rfl

end CompareOp

/- A comparison and its compiled operator mean the same. -/
theorem SqlOperator.truth_ofCompare
    (test : TestOp → Truth)
    (op : CompareOp) :
    (SqlOperator.ofCompare op).truth test = op.truth test := by
  cases op <;> rfl

/- The expression of a column that is in scope. -/
def Scope.column?
    (scope : Scope)
    (c : ColumnRef) : Option ColumnExpr :=
  (scope.column c).toOption

namespace Settled

/-
  The truth of a comparison. NULL beside a column asks for
  the absence of a value, and two constants are compared at
  once.
-/
def comparisonTruth?
    (scope : Scope)
    (ν : Valuation)
    (op : CompareOp) : Settled → Settled → Option Truth
  | .column c, .value .null => do
      let e ← scope.column? c
      op.nullTruth? fun test => ν ⟨e, test, .none⟩
  | .value .null, .column c => do
      let e ← scope.column? c
      op.nullTruth? fun test => ν ⟨e, test, .none⟩
  | .column c, .value v => do
      let e ← scope.column? c
      some (op.truth fun test => ν ⟨e, test, .value v⟩)
  | .value v, .column c => do
      let e ← scope.column? c
      some (op.mirroredTruth fun test => ν ⟨e, test, .value v⟩)
  | .column l, .column r => do
      let e ← scope.column? l
      let other ← scope.column? r
      some (op.truth fun test => ν ⟨e, test, .column other⟩)
  | .value l, .value r =>
      (l.foldComparison op r).toOption.map Truth.ofBool
  | _, _ => none

/-
  The truth of a membership test. No column is in the empty
  list, and a single value is a list of its own.
-/
def membershipTruth?
    (scope : Scope)
    (ν : Valuation) : Settled → Settled → Option Truth
  | .column _, .list [] => some .fails
  | .column c, .list vs => do
      let e ← scope.column? c
      some (ν ⟨e, .isIn, .values vs⟩)
  | .column c, .value v => do
      let e ← scope.column? c
      some (ν ⟨e, .isIn, .values [v]⟩)
  | .value v, .list vs =>
      some (.ofBool (vs.any v.sameConstant))
  | .value v, .value w => some (.ofBool (v.sameConstant w))
  | _, _ => none

/- The truth of a pattern test; the pattern is a text. -/
def patternTruth?
    (scope : Scope)
    (ν : Valuation)
    (kind : PatternKind) : Settled → Settled → Option Truth
  | .column c, .value (.text s) => do
      let e ← scope.column? c
      some (ν ⟨e, .like, .value (.text (kind.likePattern s))⟩)
  | .value (.text subject), .value (.text s) =>
      some (.ofBool (kind.holds subject s))
  | _, _ => none

end Settled

/-
  The truth of a predicate on one row, if it has one: every
  column must be in scope and every test one that SQL has.
-/
def Predicate.truth?
    (scope : Scope)
    (ν : Valuation) : Predicate → Option Truth
  | .comparison left op right =>
      left.settled.comparisonTruth? scope ν op right.settled
  | .membership column values =>
      column.settled.membershipTruth? scope ν values.settled
  | .pattern column kind value =>
      column.settled.patternTruth? scope ν kind value.settled
  | .and left right => do
      let l ← truth? scope ν left
      let r ← truth? scope ν right
      some (l.and r)
  | .or left right => do
      let l ← truth? scope ν left
      let r ← truth? scope ν right
      some (l.or r)
  | .not inner => (truth? scope ν inner).map Truth.not
  | .literal value => some (.ofBool value)

end EntitySql
