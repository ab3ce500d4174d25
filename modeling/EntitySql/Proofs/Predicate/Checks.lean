import EntitySql.Proofs.Predicate.Outcome
import EntitySql.Proofs.Predicate.References

/-
  The error with which a predicate is refused among some
  tables: that of the first of its checks which does not hold.

  Key definitions include:
    * `Check`, `Check.firstFault`
    * `Predicate.checks`

  Key theorems include:
    * `Scope.faultOf_resolve`
    * `Scope.comparison_ends`, `Scope.membership_ends`
    * `Scope.compile_ends`

  The checks are listed in the order in which compilation makes
  them. All references of a predicate are among them.
-/

namespace EntitySql

------------------------------------------------------------
-- Checks
------------------------------------------------------------

/-
  What has to hold before there is SQL: a part of a request has
  a form that can be written, or an entity has an n-th table
  among those that are known.
-/
inductive Check where
  | form (fault : Option MappingError)
  | occurrence (tables : List EntityKey) (entity : EntityKey) (n : Nat)

/- The error of a check that does not hold. -/
def Check.fault : Check → Option MappingError
  | .form fault => fault
  | .occurrence tables entity n =>
      if 1 ≤ n ∧ n ≤ tables.count entity then none
      else some (.unresolvedAlias (.noOccurrence entity n))

/- The error of the first check that does not hold. -/
def Check.firstFault
    (checks : List Check) : Option MappingError :=
  checks.findSome? Check.fault

def ColumnRef.check
    (tables : List EntityKey)
    (c : ColumnRef) : Check :=
  .occurrence tables c.entity (c.occurrence.getD 1)

/- NULL has no place in an order. -/
def ColumnRef.nullFault
    (c : ColumnRef)
    (op : CompareOp)
    (v : Value) : Option MappingError :=
  match op with
  | .eq | .ne => none
  | op =>
      if v.isNull then some (.unsupported (.orderedNull c op)) else none

namespace Settled

/- Lists are not compared. -/
def comparedList
    (op : CompareOp) : Settled → Settled → Option MappingError
  | .list _, _ | _, .list _ => some (.unsupported (.comparedList op))
  | _, _ => none

/- A constant cannot be compared with what stands beside it. -/
def comparedValue
    (op : CompareOp) : Settled → Settled → Option MappingError
  | .column c, .value v => c.nullFault op v
  | .value v, .column c => c.nullFault op.swapped v
  | .value l, .value r => Binding.faultOf (l.foldComparison op r)
  | _, _ => none

/- A membership needs a list of values and no list as member. -/
def memberForm : Settled → Settled → Option MappingError
  | _, .column c => some (.unsupported (.columnAsList c))
  | .list _, _ => some (.unsupported .listAsMember)
  | _, _ => none

/- A pattern is a text, for a column or another text. -/
def patternForm
    (column value : Settled) : Option MappingError :=
  match value with
  | .value (.text _) =>
      match column with
      | .column _ | .value (.text _) => none
      | _ => some (.unsupported .patternSubject)
  | _ => some (.unsupported .patternNotText)

end Settled

/-
  The checks of a predicate among some tables. The form of a
  test is checked first, and then its references.
-/
def Predicate.checks
    (tables : List EntityKey) : Predicate → List Check
  | .comparison left op right =>
      [.form (left.settled.comparedList op right.settled)] ++
        (left.settled.references ++ right.settled.references).map
          (ColumnRef.check tables) ++
        [.form (left.settled.comparedValue op right.settled)]
  | .membership column values =>
      .form (column.settled.memberForm values.settled) ::
        (Predicate.membership column values).references.map
          (ColumnRef.check tables)
  | .pattern column kind value =>
      .form (column.settled.patternForm value.settled) ::
        (Predicate.pattern column kind value).references.map
          (ColumnRef.check tables)
  | .and left right | .or left right =>
      left.checks tables ++ right.checks tables
  | .not inner => inner.checks tables
  | .literal _ => []

namespace Check

@[simp] theorem firstFault_nil :
    firstFault [] = none :=
  rfl

@[simp] theorem firstFault_cons
    (check : Check)
    (checks : List Check) :
    firstFault (check :: checks) =
      check.fault.or (firstFault checks) := by
  rw [firstFault, List.findSome?_cons]
  cases check.fault <;> rfl

@[simp] theorem firstFault_append
    (left right : List Check) :
    firstFault (left ++ right) =
      (firstFault left).or (firstFault right) := by
  rw [firstFault, List.findSome?_append]
  rfl

@[simp] theorem fault_form
    (fault : Option MappingError) :
    (Check.form fault).fault = fault :=
  rfl

end Check

------------------------------------------------------------
-- The error of a predicate
------------------------------------------------------------

namespace Scope

open Binding

variable (tables : List EntityKey)

/- The check of an occurrence fails as its resolution does. -/
theorem faultOf_resolve
    (entity : EntityKey)
    (occurrence : Option Nat) :
    faultOf (AliasMap.resolve ⟨tables⟩ entity occurrence) =
      Check.fault
        (.occurrence tables entity (occurrence.getD 1)) := by
  rw [Check.fault]
  split
  · rename_i hBounds
    rcases exists_isOccurrence_iff.mpr hBounds with ⟨i, hOccurs⟩
    rw [AliasMap.resolve_eq_ok_iff.mpr ⟨i, hOccurs, rfl⟩]
    rfl
  · rename_i hBounds
    rw [AliasMap.resolve_eq_error
      (mt exists_isOccurrence_iff.mp hBounds)]
    rfl

theorem faultOf_column
    (c : ColumnRef) :
    faultOf ((Scope.aliased ⟨tables⟩).column c) =
      (c.check tables).fault := by
  rw [ColumnRef.check, ← faultOf_resolve, Scope.column]
  cases AliasMap.resolve ⟨tables⟩ c.entity c.occurrence <;> rfl

theorem column_ends
    (c : ColumnRef) :
    Ends (MonadLiftT.monadLift ((Scope.aliased ⟨tables⟩).column c))
      (c.check tables).fault := by
  rw [← faultOf_column]
  exact .liftM _

theorem valueCondition_ends
    (c : ColumnRef)
    (op : CompareOp)
    (v : Value)
    (negated : Bool) :
    ((Scope.aliased ⟨tables⟩).valueCondition c op v negated).Ends
      ((c.check tables).fault.or (c.nullFault op v)) := by
  unfold valueCondition
  refine .bind (column_ends tables c) fun e => ?_
  cases hNull : v.isNull with
  | true =>
      simp only [if_true]
      cases op with
      | eq | ne => exact Ends.bind (.pure _) fun _ => .pure _
      | lt | le | gt | ge =>
          simp only [ColumnRef.nullFault, hNull, if_true]
          exact Ends.bind (.refuse _) fun _ => .pure _
  | false =>
      have hNone : c.nullFault op v = none := by
        cases op <;> simp [ColumnRef.nullFault, hNull]
      simp only [hNone, Bool.false_eq_true, if_false]
      exact .silent (.bindValue c.column v) fun _ =>
        .silent (.pure _) fun _ => .pure _

theorem comparison_ends
    (left : Settled)
    (op : CompareOp)
    (right : Settled)
    (negated : Bool) :
    ((Scope.aliased ⟨tables⟩).comparison left op right negated).Ends
      (Check.firstFault
        ([.form (left.comparedList op right)] ++
          (left.references ++ right.references).map
            (ColumnRef.check tables) ++
          [.form (left.comparedValue op right)])) := by
  simp only [List.map_append, Check.firstFault_append,
    Check.firstFault_cons, Check.firstFault_nil, Check.fault_form,
    Option.or_none]
  cases left with
  | list vs => cases right <;> exact .refuse _
  | column l =>
      cases right with
      | list vs => exact .refuse _
      | value v =>
          simp only [Settled.comparedList, Settled.references,
            Settled.comparedValue, List.map_cons, List.map_nil,
            Check.firstFault_cons, Check.firstFault_nil,
            Option.none_or, Option.or_none]
          exact valueCondition_ends tables l op v negated
      | column r =>
          simp only [Settled.comparedList, Settled.references,
            Settled.comparedValue, List.map_cons, List.map_nil,
            Check.firstFault_cons, Check.firstFault_nil,
            Option.none_or, Option.or_none]
          exact .bind (column_ends tables l) fun _ =>
            .last (column_ends tables r) fun _ => .pure _
  | value v =>
      cases right with
      | list vs => exact .refuse _
      | value w =>
          exact .last (.liftM (v.foldComparison op w)) fun _ => .pure _
      | column r =>
          simp only [Settled.comparedList, Settled.references,
            Settled.comparedValue, List.map_cons, List.map_nil,
            Check.firstFault_cons, Check.firstFault_nil,
            Option.none_or, Option.or_none]
          exact valueCondition_ends tables r op.swapped v negated

/- The member is looked for in a list of values. -/
theorem listMembership_ends
    (column : Settled)
    (vs : List Value)
    (negated : Bool) :
    ((Scope.aliased ⟨tables⟩).membership column (.list vs)
      negated).Ends
      ((column.memberForm (.list vs)).or
        (Check.firstFault
          ((if vs = [] then [] else column.references).map
            (ColumnRef.check tables)))) := by
  simp only [membership, pure_bind]
  cases column with
  | column c =>
      cases vs with
      | nil => exact .pure _
      | cons v vs =>
          have hFault :
              ((Settled.column c).memberForm (.list (v :: vs))).or
                  (Check.firstFault
                    ((if v :: vs = [] then [] else
                      (Settled.column c).references).map
                      (ColumnRef.check tables))) =
                (c.check tables).fault := by
            simp [Settled.memberForm, Settled.references]
          rw [hFault]
          exact .last (column_ends tables c) fun _ =>
            .silent (.bindValues c.column _) fun _ => .pure _
  | value v =>
      have hFault :
          ((Settled.value v).memberForm (.list vs)).or
              (Check.firstFault
                ((if vs = [] then [] else
                  (Settled.value v).references).map
                  (ColumnRef.check tables))) =
            none := by
        simp [Settled.memberForm, Settled.references]
      rw [hFault]
      exact .pure _
  | list ws => exact .refuse _

/- A single value stands for a list of one. -/
theorem membership_ends
    (column values : Settled)
    (negated : Bool) :
    ((Scope.aliased ⟨tables⟩).membership column values negated).Ends
      ((column.memberForm values).or
        (Check.firstFault
          ((if values = .list [] then []
            else column.references ++ values.references).map
            (ColumnRef.check tables)))) := by
  cases values with
  | list vs =>
      have hSame :
          (if Settled.list vs = .list [] then [] else
            column.references ++ (Settled.list vs).references) =
            if vs = [] then [] else column.references := by
        simp [Settled.references]
      rw [hSame]
      exact listMembership_ends tables column vs negated
  | value v =>
      have hSame :
          (if Settled.value v = .list [] then [] else
            column.references ++ (Settled.value v).references) =
            if [v] = [] then [] else column.references := by
        simp [Settled.references]
      have hForm :
          column.memberForm (.value v) =
            column.memberForm (.list [v]) := by
        cases column <;> rfl
      rw [hSame, hForm]
      exact listMembership_ends tables column [v] negated
  | column c => exact .refuse _

theorem pattern_ends
    (column : Settled)
    (kind : PatternKind)
    (value : Settled)
    (negated : Bool) :
    ((Scope.aliased ⟨tables⟩).pattern column kind value negated).Ends
      ((column.patternForm value).or
        (Check.firstFault
          ((column.references ++ value.references).map
            (ColumnRef.check tables)))) := by
  cases value with
  | column c | list vs => exact .refuse _
  | value v =>
      cases v with
      | null | bool b | int n | float x | blob bytes =>
          exact .refuse _
      | text text =>
          cases column with
          | list vs => exact .refuse _
          | column c =>
              simp only [Settled.patternForm, Settled.references,
                List.append_nil, List.map_cons, List.map_nil,
                Check.firstFault_cons, Check.firstFault_nil,
                Option.none_or, Option.or_none]
              exact .last (column_ends tables c) fun _ =>
                .silent (.bindValue c.column _) fun _ => .pure _
          | value subject =>
              cases subject with
              | text subject => exact .pure _
              | null | bool b | int n | float x | blob bytes =>
                  exact .refuse _

/-
  The error of a predicate is that of its first check that does
  not hold. The induction is on the predicate for both parities.
-/
theorem fragments_ends
    (p : Predicate)
    (negated : Bool) :
    ((Scope.aliased ⟨tables⟩).fragments negated p).Ends
      (Check.firstFault (p.checks tables)) := by
  induction p generalizing negated with
  | comparison left op right =>
      exact .last (comparison_ends tables _ op _ negated)
        fun _ => .pure _
  | membership column values =>
      rw [Predicate.checks, Check.firstFault_cons]
      exact .last (membership_ends tables _ _ negated)
        fun _ => .pure _
  | pattern column kind value =>
      rw [Predicate.checks, Check.firstFault_cons]
      exact .last (pattern_ends tables _ kind _ negated)
        fun _ => .pure _
  | and left right ihLeft ihRight
  | or left right ihLeft ihRight =>
      rw [Predicate.checks, Check.firstFault_append]
      exact .bind (ihLeft negated) fun _ =>
        .last (ihRight negated) fun _ => .pure _
  | not inner ih => exact ih (!negated)
  | literal value => exact .pure _

theorem compile_ends
    (p : Predicate) :
    ((Scope.aliased ⟨tables⟩).compile p).Ends
      (Check.firstFault (p.checks tables)) :=
  .last (fragments_ends tables p false) fun _ => .pure _

end Scope

end EntitySql
