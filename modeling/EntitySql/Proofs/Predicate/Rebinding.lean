import EntitySql.Proofs.Predicate.NameSearch
import EntitySql.Proofs.Value.Equality

/-
  Compiling a predicate only adds parameters, and compiling it
  a second time finds again all that it needs.

  Key definitions include:
    * `ParameterSet.GrowsTo`
    * `Binding.Appends`
    * `Predicate.HasNoMembership`, `Predicate.HasNoNaN`

  Key theorems include:
    * `ParameterSet.bind_again`
    * `Binding.Appends.bind`
    * `Scope.fragments_appends`
    * `Scope.compile_only_adds_and_repeats`

  Parameters that are added later stand behind those that were
  there, so the first one that serves for a value stays the
  first. A list is bound under new names every time, and NaN is
  not equal to the NaN that was bound before.
-/

namespace EntitySql

------------------------------------------------------------
-- Growing parameter sets
------------------------------------------------------------

namespace ParameterSet

/-
  Parameters were added behind those that were there, and names
  that were distinct still are.
-/
structure GrowsTo
    (s t : ParameterSet) : Prop where
  added : s.params <+: t.params
  distinct : s.names.Nodup → t.names.Nodup

variable {s t u : ParameterSet}

theorem GrowsTo.refl
    (s : ParameterSet) :
    s.GrowsTo s :=
  ⟨List.prefix_refl _, id⟩

theorem GrowsTo.trans
    (hFirst : s.GrowsTo t)
    (hNext : t.GrowsTo u) :
    s.GrowsTo u :=
  ⟨hFirst.added.trans hNext.added,
    fun hNodup => hNext.distinct (hFirst.distinct hNodup)⟩

theorem growsTo_bind
    (s : ParameterSet)
    (base : String)
    (v : Value) :
    s.GrowsTo (s.bind base v).2 := by
  rcases s.bind_cases base v with
    ⟨_, _, _, hBind⟩ | ⟨name, hFresh, hBind⟩
  · rw [hBind]
    exact .refl s
  · rw [hBind]
    exact ⟨List.prefix_append _ _, fun hNodup =>
      nodup_push hNodup hFresh⟩

theorem growsTo_bindList
    (s : ParameterSet)
    (base : String)
    (vs : List Value) :
    s.GrowsTo (s.bindList base vs).2 := by
  constructor
  · rw [bindList_params]
    exact List.prefix_append _ _
  · exact s.bindList_nodup base vs

------------------------------------------------------------
-- Binding a value again
------------------------------------------------------------

/- A parameter that was found is found in front of later ones. -/
theorem foundName?_of_added
    {base name : String}
    {v : Value}
    (hFound : s.foundName? base v = some name)
    (hAdded : s.params <+: u.params) :
    u.foundName? base v = some name := by
  rcases Option.map_eq_some_iff.mp hFound with ⟨p, hFind, rfl⟩
  rcases hAdded with ⟨added, hParams⟩
  unfold foundName?
  rw [← hParams, List.find?_append, hFind]
  rfl

/- What was just bound is found, unless it is NaN. -/
theorem foundName?_bind
    {v : Value}
    (s : ParameterSet)
    (base : String)
    (hNaN : v.isNaN = false) :
    (s.bind base v).2.foundName? base v = some (s.bind base v).1 := by
  cases hFound : s.foundName? base v with
  | some name => rw [bind_of_foundName?_some hFound, hFound]
  | none =>
      have hOld := Option.map_eq_none_iff.mp hFound
      rw [bind_of_foundName?_none hFound]
      simp [foundName?, push, List.find?_append, hOld,
        Value.equal_refl hNaN, extendsName_numbered]

/-
  Bound again into a set that has grown, a value has the name
  that it had, and nothing is added.
-/
theorem bind_again
    {base : String}
    {v : Value}
    (hNaN : v.isNaN = false)
    (hAdded : (s.bind base v).2.params <+: u.params) :
    u.bind base v = ((s.bind base v).1, u) :=
  bind_of_foundName?_some
    (foundName?_of_added (s.foundName?_bind base hNaN) hAdded)

end ParameterSet

------------------------------------------------------------
-- Steps that only add parameters
------------------------------------------------------------

namespace Binding

open ParameterSet

variable {α β : Type}
variable {again : Prop}

/-
  The step only adds parameters, also when it fails. If it can
  be done again, then once it has succeeded it yields the same
  from every set that has grown since, and adds nothing to it.
-/
structure Appends
    (again : Prop)
    (step : Binding α) : Prop where
  grows : ∀ s : ParameterSet, s.GrowsTo (step.run.run s).2
  repeats :
    again →
    ∀ s a t, step.Yields s a t →
    ∀ u, t.params <+: u.params → step.Yields u a u

namespace Appends

variable {step : Binding α}

theorem mono
    {once : Prop}
    (hStep : Appends again step)
    (hAgain : once → again) :
    Appends once step :=
  ⟨hStep.grows, fun hOnce => hStep.repeats (hAgain hOnce)⟩

theorem pure
    (a : α) :
    Appends again (pure a) := by
  refine ⟨.refl, ?_⟩
  intro _ s b t hYields u _
  rcases (yields_pure_iff a b s t).mp hYields with ⟨rfl, _⟩
  rfl

theorem refuse
    (cause : Unsupported) :
    Appends (α := α) again (Binding.refuse cause) := by
  refine ⟨.refl, ?_⟩
  intro _ s a t hYields
  exact absurd hYields (not_yields_refuse cause s t a)

theorem liftM
    (result : Except MappingError α) :
    Appends again (MonadLiftT.monadLift result) := by
  refine ⟨.refl, ?_⟩
  intro _ s a t hYields u _
  rcases (yields_liftM_iff result s t a).mp hYields with
    ⟨hResult, _⟩
  exact (yields_liftM_iff result u u a).mpr ⟨hResult, rfl⟩

theorem bindValue
    (base : String)
    {v : Value}
    (hNaN : again → v.isNaN = false) :
    Appends again (Binding.bindValue base v) := by
  refine ⟨fun s => s.growsTo_bind base v, ?_⟩
  intro hAgain s p t hYields u hAdded
  rcases (yields_bindValue_iff base v s t p).mp hYields with
    ⟨rfl, rfl⟩
  rw [yields_bindValue_iff, bind_again (hNaN hAgain) hAdded]
  exact ⟨rfl, rfl⟩

/- A list is not bound a second time. -/
theorem bindValues
    (base : String)
    (vs : List Value)
    (hOnce : ¬ again) :
    Appends again (Binding.bindValues base vs) :=
  ⟨fun s => s.growsTo_bindList base vs,
    fun hAgain => absurd hAgain hOnce⟩

/-
  What follows a step only adds to what the step left, so from
  a set grown out of the end both are done again.
-/
theorem bind
    {next : α → Binding β}
    (hStep : Appends again step)
    (hNext : ∀ a, Appends again (next a)) :
    Appends again (step >>= next) := by
  constructor
  case grows =>
    intro s
    have hGrows := hStep.grows s
    rcases hRun : step.run.run s with ⟨cause | a, t⟩
    · rw [hRun] at hGrows
      rw [run_bind_of_error next hRun]
      exact hGrows
    · rw [hRun] at hGrows
      rw [run_bind_of_ok next hRun]
      exact hGrows.trans ((hNext a).grows t)
  case repeats =>
    intro hAgain s b t hYields u hAdded
    rw [yields_bind_iff] at hYields ⊢
    rcases hYields with ⟨a, between, hFirst, hLast⟩
    have hGrows := (hNext a).grows between
    rw [hLast] at hGrows
    exact ⟨a, u,
      hStep.repeats hAgain s a between hFirst u
        (hGrows.added.trans hAdded),
      (hNext a).repeats hAgain between b t hLast u hAdded⟩

end Appends

end Binding

------------------------------------------------------------
-- Predicates that can be compiled again
------------------------------------------------------------

/- No constant of the operand is NaN. -/
def Operand.HasNoNaN
    (o : Operand) : Prop :=
  match o.settled with
  | .column _ => True
  | .value v => v.isNaN = false
  | .list vs => ∀ v ∈ vs, v.isNaN = false

theorem Operand.HasNoNaN.of_value
    {o : Operand}
    {v : Value}
    (hOperand : o.HasNoNaN)
    (hSettled : o.settled = .value v) :
    v.isNaN = false := by
  unfold HasNoNaN at hOperand
  rwa [hSettled] at hOperand

namespace Predicate

def HasNoMembership : Predicate → Prop
  | .comparison _ _ _ | .pattern _ _ _ | .literal _ => True
  | .membership _ _ => False
  | .and left right | .or left right =>
      left.HasNoMembership ∧ right.HasNoMembership
  | .not inner => inner.HasNoMembership

/- No constant of any operand is NaN. -/
def HasNoNaN : Predicate → Prop
  | .comparison left _ right => left.HasNoNaN ∧ right.HasNoNaN
  | .membership column values => column.HasNoNaN ∧ values.HasNoNaN
  | .pattern column _ value => column.HasNoNaN ∧ value.HasNoNaN
  | .and left right | .or left right =>
      left.HasNoNaN ∧ right.HasNoNaN
  | .not inner => inner.HasNoNaN
  | .literal _ => True

/- What can be compiled again without binding anything. -/
structure Repeatable
    (p : Predicate) : Prop where
  noMembership : p.HasNoMembership
  noNaN : p.HasNoNaN

end Predicate

------------------------------------------------------------
-- Tests
------------------------------------------------------------

namespace Scope

open Binding

variable (scope : Scope)
variable {again : Prop}

theorem valueCondition_appends
    (c : ColumnRef)
    (op : CompareOp)
    {v : Value}
    (negated : Bool)
    (hNaN : again → v.isNaN = false) :
    Appends again (scope.valueCondition c op v negated) := by
  unfold valueCondition
  cases hNull : v.isNull with
  | true =>
      cases op <;>
        exact .bind (.liftM _) fun _ =>
          .bind (by first | exact .pure _ | exact .refuse _)
            fun _ => .pure _
  | false =>
      have hBound := Appends.bindValue c.column hNaN
      exact .bind (.liftM _) fun _ =>
        .bind (hBound.bind fun _ => .pure _) fun _ => .pure _

theorem comparison_appends
    (left : Settled)
    (op : CompareOp)
    (right : Settled)
    (negated : Bool)
    (hLeft : again → ∀ v, left = .value v → v.isNaN = false)
    (hRight : again → ∀ v, right = .value v → v.isNaN = false) :
    Appends again (scope.comparison left op right negated) := by
  cases left with
  | list vs => cases right <;> exact .refuse _
  | column l =>
      cases right with
      | list vs => exact .refuse _
      | value v =>
          exact scope.valueCondition_appends l op negated
            fun hAgain => hRight hAgain v rfl
      | column r =>
          exact .bind (.liftM _) fun _ =>
            .bind (.liftM _) fun _ => .pure _
  | value v =>
      cases right with
      | list vs => exact .refuse _
      | value w => exact .bind (.liftM _) fun _ => .pure _
      | column r =>
          exact scope.valueCondition_appends r op.swapped negated
            fun hAgain => hLeft hAgain v rfl

theorem membership_appends
    (column values : Settled)
    (negated : Bool)
    (hOnce : ¬ again) :
    Appends again (scope.membership column values negated) := by
  have hListed (vs : List Value) :
      Appends again (scope.membership column (.list vs) negated) := by
    simp only [membership, pure_bind]
    cases column with
    | column c =>
        cases vs with
        | nil => exact .pure _
        | cons v vs =>
            exact .bind (.liftM _) fun _ =>
              .bind (.bindValues c.column _ hOnce) fun _ => .pure _
    | value v => exact .pure _
    | list ws => exact .refuse _
  cases values with
  | list vs => exact hListed vs
  | value v => exact hListed [v]
  | column c => exact .refuse _

/- A pattern is a text, which equals itself. -/
theorem pattern_appends
    (column : Settled)
    (kind : PatternKind)
    (value : Settled)
    (negated : Bool) :
    Appends again (scope.pattern column kind value negated) := by
  unfold pattern
  split
  · split
    · exact .bind (.liftM _) fun _ =>
        .bind (.bindValue _ fun _ => rfl) fun _ => .pure _
    · exact .pure _
    · exact .refuse _
  · exact .refuse _

------------------------------------------------------------
-- Predicates
------------------------------------------------------------

/- The induction is on the predicate for both parities. -/
theorem fragments_appends
    (p : Predicate)
    (negated : Bool) :
    Appends p.Repeatable (scope.fragments negated p) := by
  induction p generalizing negated with
  | comparison left op right =>
      have hTest :
          Appends (Predicate.comparison left op right).Repeatable
            (scope.comparison left.settled op right.settled
              negated) :=
        scope.comparison_appends _ _ _ _
          (fun hAgain _ => hAgain.noNaN.1.of_value)
          (fun hAgain _ => hAgain.noNaN.2.of_value)
      exact hTest.bind fun _ => .pure _
  | membership column values =>
      have hTest :=
        scope.membership_appends column.settled values.settled
          negated
          fun hAgain :
              (Predicate.membership column values).Repeatable =>
            hAgain.noMembership
      exact hTest.bind fun _ => .pure _
  | pattern column kind value =>
      exact (scope.pattern_appends column.settled kind value.settled
        negated).bind fun _ => .pure _
  | and left right ihLeft ihRight
  | or left right ihLeft ihRight =>
      refine
        .bind ((ihLeft negated).mono ?_) fun _ =>
          .bind ((ihRight negated).mono ?_) fun _ => .pure _
      · exact fun hAgain =>
          ⟨hAgain.noMembership.1, hAgain.noNaN.1⟩
      · exact fun hAgain =>
          ⟨hAgain.noMembership.2, hAgain.noNaN.2⟩
  | not inner ih =>
      exact (ih (!negated)).mono fun hAgain =>
        ⟨hAgain.noMembership, hAgain.noNaN⟩
  | literal value => exact .pure _

/-
  Whether or not a predicate compiles, parameters are only
  added behind those that were there, and distinct names stay
  distinct. Once a predicate without membership tests and NaN
  has compiled, it compiles again to the same fragments, and
  nothing is added.
-/
theorem compile_only_adds_and_repeats
    (scope : Scope)
    (p : Predicate)
    (s : ParameterSet) :
    (∃ added,
      ((scope.compile p).run.run s).2.params = s.params ++ added) ∧
    (s.names.Nodup →
      ((scope.compile p).run.run s).2.names.Nodup) ∧
    (p.HasNoMembership → p.HasNoNaN →
      ∀ compiled t, (scope.compile p).Yields s compiled t →
        (scope.compile p).Yields t compiled t) := by
  have hCompile : Appends p.Repeatable (scope.compile p) :=
    (scope.fragments_appends p false).bind fun _ => .pure _
  refine ⟨?_, (hCompile.grows s).distinct, ?_⟩
  · rcases (hCompile.grows s).added with ⟨added, hParams⟩
    exact ⟨added, hParams.symm⟩
  · intro hMembership hNaN compiled t hYields
    exact hCompile.repeats ⟨hMembership, hNaN⟩ s compiled t hYields t
      (List.prefix_refl _)

/-
  With a1 = 0 bound before, the test of a takes that name for
  negative zero, and the later a2 = 1 is bound under a name
  that the test of a with 1 could use as well.
-/
theorem compile_colliding_tests_again :
    let doc : EntityKey := ⟨0, "Doc"⟩
    let a : ColumnRef := { entity := doc, column := "a" }
    let a2 : ColumnRef := { entity := doc, column := "a2" }
    let scope : Scope := .table doc
    let negativeZero : Value := .float ⟨0x8000000000000000⟩
    let p : Predicate :=
      .and (a.compareValue .eq negativeZero)
        (.or (a.compareValue .lt (.int 1))
          (.not (a2.compareValue .eq (.int 1))))
    let s : ParameterSet := ⟨[⟨"a1", .float .zero⟩]⟩
    let t : ParameterSet :=
      ⟨[⟨"a1", .float .zero⟩, ⟨"a", .int 1⟩, ⟨"a2", .int 1⟩]⟩
    let compiled : CompiledPredicate :=
      ⟨[ .opening,
          .condition
            ⟨"a", .bare "a", .eq, .parameter ⟨"a1", negativeZero⟩⟩,
          .closing, .combinator .and, .opening,
          .opening,
          .condition
            ⟨"a", .bare "a", .lt, .parameter ⟨"a", .int 1⟩⟩,
          .closing, .combinator .or, .opening,
          .condition
            ⟨"a2", .bare "a2", .ne, .parameter ⟨"a2", .int 1⟩⟩,
          .closing, .closing ]⟩
    p.HasNoMembership ∧ p.HasNoNaN ∧
      (scope.compile p).Yields s compiled t ∧
      (scope.compile p).Yields t compiled t := by
  intro doc a a2 scope negativeZero p s t compiled
  have hMembership : p.HasNoMembership :=
    ⟨trivial, trivial, trivial⟩
  have hNaN : p.HasNoNaN :=
    ⟨⟨trivial, rfl⟩, ⟨trivial, rfl⟩, trivial, rfl⟩
  let run : Except MappingError CompiledPredicate × ParameterSet :=
    (scope.compile p).run.run s
  have hYields : run = (.ok compiled, t) := by decide +kernel
  exact ⟨hMembership, hNaN, hYields,
    (compile_only_adds_and_repeats scope p s).2.2 hMembership hNaN
      compiled t hYields⟩

end Scope

end EntitySql
