import EntitySql.Proofs.Predicate.Binding

/-
  Whether a predicate compiles, and with which error it fails,
  does not depend on the parameters that are bound before it.

  Key definitions include:
    * `Binding.Ends`

  Key theorems include:
    * `Binding.Ends.bind`
    * `Scope.exists_fragments_ends`
    * `Scope.exists_compile_ends`
-/

namespace EntitySql

namespace Binding

variable {α β : Type}
variable {step : Binding α}

/- The error of a result, if it is one. -/
def faultOf
    (result : Except MappingError α) : Option MappingError :=
  match result with
  | .ok _ => none
  | .error cause => some cause

theorem faultOf_eq_some_iff
    {result : Except MappingError α}
    {cause : MappingError} :
    faultOf result = some cause ↔ result = .error cause := by
  cases result <;> simp [faultOf]

/-
  From every parameter set the step succeeds, or fails with
  the one error that is given.
-/
def Ends
    (step : Binding α)
    (fault : Option MappingError) : Prop :=
  ∀ s, faultOf (step.run.run s).1 = fault

------------------------------------------------------------
-- Rules
------------------------------------------------------------

theorem Ends.pure
    (a : α) :
    Ends (Pure.pure a) none :=
  fun _ => rfl

theorem Ends.refuse
    (cause : Unsupported) :
    Ends (α := α) (Binding.refuse cause) (some (.unsupported cause)) :=
  fun _ => rfl

theorem Ends.liftM
    (result : Except MappingError α) :
    Ends (MonadLiftT.monadLift result) (faultOf result) :=
  fun _ => rfl

theorem Ends.bindValue
    (base : String)
    (v : Value) :
    Ends (Binding.bindValue base v) none :=
  fun _ => rfl

theorem Ends.bindValues
    (base : String)
    (vs : List Value) :
    Ends (Binding.bindValues base vs) none :=
  fun _ => rfl

/- The first error counts. The rest may use what a step yields. -/
theorem Ends.bind_of_yields
    {next : α → Binding β}
    {fault fault' : Option MappingError}
    (hStep : Ends step fault)
    (hNext :
      ∀ s a t, step.Yields s a t → Ends (next a) fault') :
    Ends (step >>= next) (fault.or fault') := by
  intro s
  have hFault := hStep s
  rcases hRun : step.run.run s with ⟨cause | a, u⟩
  · rw [hRun] at hFault
    rw [run_bind_of_error next hRun, ← hFault]
    rfl
  · rw [hRun] at hFault
    rw [run_bind_of_ok next hRun, hNext s a u hRun u, ← hFault]
    rfl

theorem Ends.bind
    {next : α → Binding β}
    {fault fault' : Option MappingError}
    (hStep : Ends step fault)
    (hNext : ∀ a, Ends (next a) fault') :
    Ends (step >>= next) (fault.or fault') :=
  hStep.bind_of_yields fun _ a _ _ => hNext a

/- After a step that never fails the rest counts. -/
theorem Ends.silent
    {next : α → Binding β}
    {fault : Option MappingError}
    (hStep : Ends step none)
    (hNext : ∀ a, Ends (next a) fault) :
    Ends (step >>= next) fault :=
  hStep.bind hNext

/- A step counts alone if the rest never fails. -/
theorem Ends.last
    {next : α → Binding β}
    {fault : Option MappingError}
    (hStep : Ends step fault)
    (hNext : ∀ a, Ends (next a) none) :
    Ends (step >>= next) fault := by
  have hBoth := hStep.bind hNext
  rwa [Option.or_none] at hBoth

end Binding

------------------------------------------------------------
-- Tests
------------------------------------------------------------

namespace Scope

open Binding

variable (scope : Scope)

theorem exists_valueCondition_ends
    (c : ColumnRef)
    (op : CompareOp)
    (v : Value)
    (negated : Bool) :
    ∃ fault, (scope.valueCondition c op v negated).Ends fault := by
  unfold valueCondition
  cases hNull : v.isNull with
  | true =>
      cases op <;>
        exact ⟨_, .bind (.liftM _) fun e =>
          .bind (by first | exact .pure _ | exact .refuse _)
            fun _ => .pure _⟩
  | false =>
      exact ⟨_, .bind (.liftM _) fun e =>
        .bind (.bind (.bindValue c.column v) fun _ => .pure _)
          fun _ => .pure _⟩

theorem exists_comparison_ends
    (left : Settled)
    (op : CompareOp)
    (right : Settled)
    (negated : Bool) :
    ∃ fault, (scope.comparison left op right negated).Ends fault := by
  cases left with
  | list vs => cases right <;> exact ⟨_, .refuse _⟩
  | column l =>
      cases right with
      | list vs => exact ⟨_, .refuse _⟩
      | value v => exact scope.exists_valueCondition_ends l op v negated
      | column r =>
          exact ⟨_, .bind (.liftM _) fun _ =>
            .bind (.liftM _) fun _ => .pure _⟩
  | value v =>
      cases right with
      | list vs => exact ⟨_, .refuse _⟩
      | value w => exact ⟨_, .bind (.liftM _) fun _ => .pure _⟩
      | column r =>
          exact scope.exists_valueCondition_ends r op.swapped v negated

theorem exists_membership_ends
    (column values : Settled)
    (negated : Bool) :
    ∃ fault, (scope.membership column values negated).Ends fault := by
  have hListed (vs : List Value) :
      ∃ fault,
        (scope.membership column (.list vs) negated).Ends fault := by
    simp only [membership, pure_bind]
    cases column with
    | column c =>
        cases vs with
        | nil => exact ⟨_, .pure _⟩
        | cons v vs =>
            exact ⟨_, .bind (.liftM _) fun _ =>
              .bind (.bindValues c.column _) fun _ => .pure _⟩
    | value v => exact ⟨_, .pure _⟩
    | list ws => exact ⟨_, .refuse _⟩
  cases values with
  | list vs => exact hListed vs
  | value v => exact hListed [v]
  | column c => exact ⟨_, .refuse _⟩

theorem exists_pattern_ends
    (column : Settled)
    (kind : PatternKind)
    (value : Settled)
    (negated : Bool) :
    ∃ fault,
      (scope.pattern column kind value negated).Ends fault := by
  unfold pattern
  split
  · split
    · exact ⟨_, .bind (.liftM _) fun _ =>
        .bind (.bindValue _ _) fun _ => .pure _⟩
    · exact ⟨_, .pure _⟩
    · exact ⟨_, .refuse _⟩
  · exact ⟨_, .refuse _⟩

------------------------------------------------------------
-- Predicates
------------------------------------------------------------

/-
  The induction is on the predicate for both parities, and
  the error of two sides is that of the first one to fail.
-/
theorem exists_fragments_ends
    (p : Predicate)
    (negated : Bool) :
    ∃ fault, (scope.fragments negated p).Ends fault := by
  induction p generalizing negated with
  | comparison left op right =>
      rcases scope.exists_comparison_ends left.settled op
          right.settled negated with
        ⟨fault, hTest⟩
      exact ⟨_, hTest.bind fun _ => .pure _⟩
  | membership column values =>
      rcases scope.exists_membership_ends column.settled
          values.settled negated with
        ⟨fault, hTest⟩
      exact ⟨_, hTest.bind fun _ => .pure _⟩
  | pattern column kind value =>
      rcases scope.exists_pattern_ends column.settled kind
          value.settled negated with
        ⟨fault, hTest⟩
      exact ⟨_, hTest.bind fun _ => .pure _⟩
  | and left right ihLeft ihRight
  | or left right ihLeft ihRight =>
      rcases ihLeft negated with ⟨fault, hLeft⟩
      rcases ihRight negated with ⟨fault', hRight⟩
      exact ⟨_, hLeft.bind fun _ => hRight.bind fun _ => .pure _⟩
  | not inner ih => exact ih (!negated)
  | literal value => exact ⟨_, .pure _⟩

theorem exists_compile_ends
    (p : Predicate) :
    ∃ fault, (scope.compile p).Ends fault := by
  rcases scope.exists_fragments_ends p false with
    ⟨fault, hFragments⟩
  exact ⟨_, hFragments.bind fun _ => .pure _⟩

end Scope

end EntitySql
