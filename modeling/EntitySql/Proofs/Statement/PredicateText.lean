import EntitySql.Proofs.Predicate.TwinRuns
import EntitySql.Proofs.Statement.Shape

/-
  The shape of a predicate fixes its SQL, up to which of its
  values are equal.

  Key definitions include:
    * `Fragment.SameText`

  Key theorems include:
    * `Scope.comparison_twins`
    * `Scope.membership_twins`
    * `Scope.pattern_twins`
    * `Scope.fragments_twins`

  Predicates of one shape compile as twins. That both fail or
  both succeed holds for any values; that their SQL is the same
  needs values that are equal in the same places. The
  proposition `inStep` stands for that, so that one induction
  over predicates serves both.
-/

namespace EntitySql

open Binding

variable {inStep : Prop}

------------------------------------------------------------
-- Tests
------------------------------------------------------------

/- Fragments with the same SQL, if the runs are in step. -/
abbrev Fragment.SameText
    (inStep : Prop)
    (f f' : Fragment) : Prop :=
  inStep → f.sql = f'.sql

namespace Scope

variable {scope : Scope}
variable {negated : Bool}

/- Conditions on one column with operands of the same SQL. -/
theorem sameText_parameter
    (property : String)
    (column : ColumnExpr)
    (op : SqlOperator)
    {p p' : Parameter}
    (hName : inStep → p.name = p'.name) :
    Fragment.SameText inStep
      (.condition ⟨property, column, op, .parameter p⟩)
      (.condition ⟨property, column, op, .parameter p'⟩) := by
  intro hIn
  simp only [Fragment.sql, Condition.sql, hName hIn]

theorem sameText_list
    (property : String)
    (column : ColumnExpr)
    (op : SqlOperator)
    {ps ps' : List Parameter}
    (hNames : inStep →
      ps.map Parameter.name = ps'.map Parameter.name) :
    Fragment.SameText inStep
      (.condition ⟨property, column, op, .list ps⟩)
      (.condition ⟨property, column, op, .list ps'⟩) := by
  intro hIn
  have hSame :
      (ps.map fun p => Sql.placeholder p.name) =
        ps'.map fun p => Sql.placeholder p.name := by
    have hMapped := congrArg (List.map Sql.placeholder) (hNames hIn)
    simpa [Function.comp_def] using hMapped
  simp only [Fragment.sql, Condition.sql, hSame]

/- NULL stays NULL, and any other value gets a placeholder. -/
theorem valueCondition_twins
    (c : ColumnRef)
    (op : CompareOp)
    {v w : Value}
    (hNull : v.isNull = w.isNull) :
    Twins inStep (scope.valueCondition c op v negated)
      (scope.valueCondition c op w negated)
      (if v.isNull then [] else [v])
      (if w.isNull then [] else [w])
      (Fragment.SameText inStep) := by
  unfold valueCondition
  rw [← hNull]
  apply (Twins.liftM _).bindSilent
  rintro column _ ⟨_, rfl⟩
  cases v.isNull with
  | true =>
      simp only [if_true]
      cases op with
      | eq =>
          simp only [pure_bind]
          exact Twins.pure fun _ => rfl
      | ne =>
          simp only [pure_bind]
          exact Twins.pure fun _ => rfl
      | lt => exact Twins.refuseBind _ _ _ _
      | le => exact Twins.refuseBind _ _ _ _
      | gt => exact Twins.refuseBind _ _ _ _
      | ge => exact Twins.refuseBind _ _ _ _
  | false =>
      simp only [Bool.false_eq_true, if_false, pure_bind]
      apply (Twins.bindValue _ v w).bindPure
      intro p p' hName
      exact sameText_parameter _ _ _ hName

theorem comparison_twins
    {left left' right right' : Settled}
    (op : CompareOp)
    (hLeft : left.SameForm left')
    (hRight : right.SameForm right')
    (hColumn : left.isColumn ∨ right.isColumn)
    (hLeftNull : left.isNull = left'.isNull)
    (hRightNull : right.isNull = right'.isNull) :
    Twins inStep (scope.comparison left op right negated)
      (scope.comparison left' op right' negated)
      ((left.comparisonSupplied right).map Prod.snd)
      ((left'.comparisonSupplied right').map Prod.snd)
      (Fragment.SameText inStep) := by
  have hMap (c : ColumnRef) (v : Value) :
      ((if v.isNull then [] else [(c.column, v)] :
          List (String × Value)).map Prod.snd) =
        if v.isNull then [] else [v] := by
    split <;> rfl
  cases hLeft with
  | list hLength =>
      cases hRight with
      | column c => exact Twins.refuse _ _
      | value v w => exact Twins.refuse _ _
      | list hLength' => exact Twins.refuse _ _
  | column c =>
      cases hRight with
      | column other =>
          unfold comparison
          apply (Twins.liftM _).bindSilent
          rintro column _ ⟨_, rfl⟩
          apply (Twins.liftM _).bindPure
          rintro otherColumn _ ⟨_, rfl⟩
          exact fun _ => rfl
      | value v w =>
          simp only [Settled.comparisonSupplied, hMap]
          exact valueCondition_twins c op hRightNull
      | list hLength => exact Twins.refuse _ _
  | value v w =>
      cases hRight with
      | column c =>
          simp only [Settled.comparisonSupplied, hMap]
          exact valueCondition_twins c op.swapped hLeftNull
      | value v' w' => simp [Settled.isColumn] at hColumn
      | list hLength => exact Twins.refuse _ _

/- Lists of one length are bound element by element. -/
theorem listMembership_twins
    (c : ColumnRef)
    {vs ws : List Value}
    (hLength : vs.length = ws.length) :
    Twins inStep
      (scope.membership (.column c) (.list vs) negated)
      (scope.membership (.column c) (.list ws) negated)
      vs ws (Fragment.SameText inStep) := by
  have hEmpty : vs.isEmpty = ws.isEmpty := by
    cases vs <;> cases ws <;> simp at hLength ⊢
  unfold membership
  simp only [pure_bind, ← hEmpty]
  by_cases hNil : vs = []
  · subst hNil
    have hNil' := List.eq_nil_of_length_eq_zero hLength.symm
    subst hNil'
    exact Twins.pure fun _ => rfl
  · have hNonempty : vs.isEmpty = false := by
      simpa using hNil
    simp only [hNonempty, Bool.false_eq_true, if_false]
    apply (Twins.liftM _).bindSilent
    rintro column _ ⟨_, rfl⟩
    apply (Twins.bindValues _ hLength).bindPure
    intro ps ps' hNames
    exact sameText_list _ _ _ hNames

theorem membership_twins
    {column column' values values' : Settled}
    (hMember : column.SameForm column')
    (hValues : values.SameForm values')
    (hColumn : column.isColumn ∨ values.isColumn) :
    Twins inStep (scope.membership column values negated)
      (scope.membership column' values' negated)
      ((column.membershipSupplied values).map Prod.snd)
      ((column'.membershipSupplied values').map Prod.snd)
      (Fragment.SameText inStep) := by
  have hMap (c : ColumnRef) (vs : List Value) :
      (vs.map fun v => (c.column, v)).map Prod.snd = vs := by
    simp
  cases hValues with
  | column c =>
      unfold membership
      exact Twins.refuseBind _ _ _ _
  | value v w =>
      cases hMember with
      | column c =>
          simp only [Settled.membershipSupplied, listed?,
            Option.getD_some, hMap]
          exact listMembership_twins c rfl
      | value v' w' => simp [Settled.isColumn] at hColumn
      | list hLength => simp [Settled.isColumn] at hColumn
  | list hLength =>
      cases hMember with
      | column c =>
          simp only [Settled.membershipSupplied, listed?,
            Option.getD_some, hMap]
          exact listMembership_twins c hLength
      | value v' w' => simp [Settled.isColumn] at hColumn
      | list hLength' => simp [Settled.isColumn] at hColumn

theorem pattern_twins
    {column column' value value' : Settled}
    (kind : PatternKind)
    (hSubject : column.SameForm column')
    (hValue : value.SameForm value')
    (hColumn : column.isColumn ∨ value.isColumn)
    (hText : value.isText = value'.isText) :
    Twins inStep (scope.pattern column kind value negated)
      (scope.pattern column' kind value' negated)
      ((column.patternSupplied kind value).map Prod.snd)
      ((column'.patternSupplied kind value').map Prod.snd)
      (Fragment.SameText inStep) := by
  cases hValue with
  | column c => exact Twins.refuse _ _
  | list hLength => exact Twins.refuse _ _
  | value v w =>
      cases hSubject with
      | value v' w' => simp [Settled.isColumn] at hColumn
      | list hLength => simp [Settled.isColumn] at hColumn
      | column c =>
          cases v <;> cases w <;>
            simp only [Settled.isText, Bool.true_eq_false,
              Bool.false_eq_true] at hText
          case text.text s s' =>
            unfold pattern
            apply (Twins.liftM _).bindSilent
            rintro rendered _ ⟨_, rfl⟩
            apply (Twins.bindValue _ _ _).bindPure
            intro p p' hName
            exact sameText_parameter _ _ _ hName
          all_goals exact Twins.refuse _ _

------------------------------------------------------------
-- Predicates
------------------------------------------------------------

theorem listSql_combine
    (c : Combinator)
    (left right : List Fragment) :
    Fragment.listSql (combine c left right) =
      Sql.words "(" ++ Fragment.listSql left ++ Sql.words ")" ++
        Sql.words (" " ++ c.text ++ " ") ++ Sql.words "(" ++
        Fragment.listSql right ++ Sql.words ")" := by
  simp [Fragment.listSql, combine, Fragment.sql]

/- A single test, as the fragments of a predicate. -/
theorem single_twins
    {step step' : Binding Fragment}
    {vs ws : List Value}
    (hTest :
      Twins inStep step step' vs ws (Fragment.SameText inStep)) :
    Twins inStep (do pure [← step]) (do pure [← step']) vs ws
      fun fs fs' =>
        inStep → Fragment.listSql fs = Fragment.listSql fs' := by
  apply hTest.bindPure
  intro f f' hSame hIn
  simp only [Fragment.listSql, List.flatMap_singleton, hSame hIn]

/- The operands of a combinator, one after the other. -/
theorem combine_twins
    (c : Combinator)
    {left left' right right' : Binding (List Fragment)}
    {vs ws vs' ws' : List Value}
    (hLeft : Twins inStep left left' vs ws fun fs fs' =>
      inStep → Fragment.listSql fs = Fragment.listSql fs')
    (hRight : Twins inStep right right' vs' ws' fun fs fs' =>
      inStep → Fragment.listSql fs = Fragment.listSql fs') :
    Twins inStep
      (do
        let l ← left
        let r ← right
        pure (combine c l r))
      (do
        let l ← left'
        let r ← right'
        pure (combine c l r))
      (vs ++ vs') (ws ++ ws')
      fun fs fs' =>
        inStep → Fragment.listSql fs = Fragment.listSql fs' := by
  apply hLeft.bind
  intro l l' hSameLeft
  apply hRight.bindPure
  intro r r' hSameRight hIn
  simp only [listSql_combine, hSameLeft hIn, hSameRight hIn]

/- Negations go the same way through predicates of one shape. -/
theorem fragments_twins
    {p p' : Predicate}
    (hShape : p.SameShape p') :
    Twins inStep (scope.fragments negated p)
      (scope.fragments negated p')
      (p.supplied.map Prod.snd) (p'.supplied.map Prod.snd)
      fun fs fs' =>
        inStep → Fragment.listSql fs = Fragment.listSql fs' := by
  induction hShape generalizing negated with
  | literal value => exact Twins.pure fun _ => rfl
  | not _ ih => exact ih
  | and _ _ ihLeft ihRight =>
      simp only [Predicate.supplied, List.map_append]
      exact combine_twins _ ihLeft ihRight
  | or _ _ ihLeft ihRight =>
      simp only [Predicate.supplied, List.map_append]
      exact combine_twins _ ihLeft ihRight
  | comparison op hLeft hRight hColumn hLeftNull hRightNull =>
      exact single_twins
        (comparison_twins op hLeft hRight hColumn hLeftNull
          hRightNull)
  | membership hMember hValues hColumn =>
      exact single_twins (membership_twins hMember hValues hColumn)
  | pattern kind hSubject hValue hColumn hText =>
      exact single_twins
        (pattern_twins kind hSubject hValue hColumn hText)

theorem compile_twins
    (inStep : Prop)
    (scope : Scope)
    {p p' : Predicate}
    (hShape : p.SameShape p') :
    Twins inStep (scope.compile p) (scope.compile p')
      (p.supplied.map Prod.snd) (p'.supplied.map Prod.snd)
      fun compiled compiled' =>
        inStep → compiled.sql = compiled'.sql :=
  (fragments_twins hShape).bindPure fun _ _ hSame => hSame

theorem compileList_twins
    (inStep : Prop)
    (scope : Scope)
    {ps ps' : List Predicate}
    (hShape : List.Forall₂ Predicate.SameShape ps ps') :
    Twins inStep (scope.compileList ps) (scope.compileList ps')
      ((ps.flatMap Predicate.supplied).map Prod.snd)
      ((ps'.flatMap Predicate.supplied).map Prod.snd)
      (List.Forall₂ fun compiled compiled' =>
        inStep → compiled.sql = compiled'.sql) := by
  simp only [List.map_flatMap]
  exact Twins.mapM (fun p => p.supplied.map Prod.snd)
    (fun p => p.supplied.map Prod.snd)
    (fun _ _ hEach => compile_twins inStep scope hEach) hShape

end Scope

end EntitySql
