import EntitySql.Proofs.Predicate.Meaning

/-
  This file says how a database tests the columns of a row,
  and that every predicate with a meaning compiles.

  Key definitions include:
    * `Truth.any`
    * `ValueTests`, `ValueTests.truth`, `ValueTests.onRow`
    * `CompiledPredicate.HasTruth`

  Key theorems include:
    * `ValueTests.truth_onRow`
    * `Scope.exists_compile`
    * `Predicate.truth?_any`
-/

namespace EntitySql

------------------------------------------------------------
-- Disjunctions of many truths
------------------------------------------------------------

namespace Truth

/- A disjunction of truths, which fails if there are none. -/
def any
    (ts : List Truth) : Truth :=
  ts.foldr or .fails

@[simp] theorem any_nil :
    any [] = .fails := rfl

@[simp] theorem any_cons
    (t : Truth)
    (ts : List Truth) :
    any (t :: ts) = t.or (any ts) := rfl

theorem or_assoc
    (t u v : Truth) :
    (t.or u).or v = t.or (u.or v) := by
  cases t <;> cases u <;> cases v <;> rfl

@[simp] theorem or_fails
    (t : Truth) :
    t.or .fails = t := by
  cases t <;> rfl

theorem or_eq_holds_iff
    {t u : Truth} :
    t.or u = .holds ↔ t = .holds ∨ u = .holds := by
  cases t <;> cases u <;> simp [or]

theorem or_eq_fails_iff
    {t u : Truth} :
    t.or u = .fails ↔ t = .fails ∧ u = .fails := by
  cases t <;> cases u <;> simp [or]

/- A disjunction holds if one of its truths does. -/
theorem any_eq_holds_iff
    {ts : List Truth} :
    any ts = .holds ↔ .holds ∈ ts := by
  induction ts with
  | nil => simp
  | cons t ts ih =>
      rw [any_cons, or_eq_holds_iff, ih, List.mem_cons, eq_comm]

/- It fails if all of them do, and is unknown otherwise. -/
theorem any_eq_fails_iff
    {ts : List Truth} :
    any ts = .fails ↔ ∀ t ∈ ts, t = .fails := by
  induction ts with
  | nil => simp
  | cons t ts ih =>
      rw [any_cons, or_eq_fails_iff, ih, List.forall_mem_cons]

end Truth

------------------------------------------------------------
-- Tests of values
------------------------------------------------------------

/-
  How a database tests two values that are not NULL: their
  order, if they have one, and whether a text is like another.
-/
structure ValueTests where
  compare : Value → Value → Option Ordering
  like : Value → Value → Truth

namespace ValueTests

variable (κ : ValueTests)

/- A comparison in SQL, which is unknown beside NULL. -/
def truth
    (op : CompareOp)
    (a b : Value) : Truth :=
  if a.isNull || b.isNull then .unknown
  else
    match κ.compare a b with
    | some order => .ofBool (op.holds order)
    | none => .unknown

/-
  The truth of every test on a row. A membership test is the
  disjunction of equality with each element of the list.
-/
def onRow
    (row : ColumnExpr → Value) : Valuation
  | ⟨c, .isNull, _⟩ => .ofBool (row c).isNull
  | ⟨c, .isIn, .values vs⟩ => .any (vs.map (κ.truth .eq (row c)))
  | ⟨c, .like, .value v⟩ => κ.like (row c) v
  | ⟨c, .eq, .value v⟩ => κ.truth .eq (row c) v
  | ⟨c, .lt, .value v⟩ => κ.truth .lt (row c) v
  | ⟨c, .gt, .value v⟩ => κ.truth .gt (row c) v
  | ⟨c, .eq, .column d⟩ => κ.truth .eq (row c) (row d)
  | ⟨c, .lt, .column d⟩ => κ.truth .lt (row c) (row d)
  | ⟨c, .gt, .column d⟩ => κ.truth .gt (row c) (row d)
  | _ => .unknown

theorem truth_of_null
    {a b : Value}
    (op : CompareOp)
    (hNull : a.isNull = true ∨ b.isNull = true) :
    κ.truth op a b = .unknown := by
  unfold truth
  rw [if_pos (by simpa using hNull)]

theorem truth_of_compare
    {a b : Value}
    {order : Ordering}
    (op : CompareOp)
    (hLeft : a.isNull = false)
    (hRight : b.isNull = false)
    (hOrder : κ.compare a b = some order) :
    κ.truth op a b = .ofBool (op.holds order) := by
  unfold truth
  rw [hLeft, hRight, hOrder]
  rfl

/- Three of the comparisons negate a test of the database. -/
theorem truth_negated
    (op negation : CompareOp)
    (a b : Value)
    (hNegation : ∀ order, negation.holds order = !op.holds order) :
    κ.truth negation a b = (κ.truth op a b).not := by
  unfold truth
  split
  · rfl
  · cases κ.compare a b with
    | none => rfl
    | some order =>
        dsimp only
        rw [hNegation order]
        cases op.holds order <;> rfl

/- On a row a compiled comparison is the one of its value. -/
theorem truth_onRow
    (row : ColumnExpr → Value)
    (e : ColumnExpr)
    (op : CompareOp)
    (v : Value) :
    (op.truth fun test => κ.onRow row ⟨e, test, .value v⟩) =
      κ.truth op (row e) v := by
  cases op with
  | eq => rfl
  | lt => rfl
  | gt => rfl
  | ne => exact (κ.truth_negated .eq .ne _ _ fun _ => rfl).symm
  | le => exact (κ.truth_negated .gt .le _ _ fun _ => rfl).symm
  | ge => exact (κ.truth_negated .lt .ge _ _ fun _ => rfl).symm

end ValueTests

------------------------------------------------------------
-- Tests of one column
------------------------------------------------------------

namespace Scope

variable {scope : Scope}
variable {c : ColumnRef}
variable {e : ColumnExpr}

/- A column beside a constant, read on a row. -/
theorem constantTruth?_onRow
    (hColumn : scope.column c = .ok e)
    (κ : ValueTests)
    (row : ColumnExpr → Value)
    (op : CompareOp)
    (v : Value) :
    scope.constantTruth? (κ.onRow row) op c v =
      if v.isNull then
        op.nullTruth? fun _ => .ofBool (row e).isNull
      else some (κ.truth op (row e) v) := by
  simp only [constantTruth?, column?_eq_some hColumn,
    Option.bind_eq_bind, Option.bind_some, κ.truth_onRow]
  cases op <;> rfl

/- A column beside a list, read on a row. -/
theorem membershipTruth?_onRow
    (hColumn : scope.column c = .ok e)
    (κ : ValueTests)
    (row : ColumnExpr → Value)
    (vs : List Value) :
    Settled.membershipTruth? scope (κ.onRow row) (.column c)
        (.list vs) =
      some (.any (vs.map (κ.truth .eq (row e)))) := by
  cases vs with
  | nil => rfl
  | cons v vs =>
      simp [Settled.membershipTruth?, column?_eq_some hColumn,
        ValueTests.onRow]

end Scope

------------------------------------------------------------
-- Equality with an element
------------------------------------------------------------

namespace ValueTests

variable (κ : ValueTests)
variable {x : Value}
variable {vs : List Value}

/- Without a value equality with an element is not known. -/
theorem any_truth_of_null
    (hNull : x.isNull = true)
    (hListed : vs ≠ []) :
    .any (vs.map (κ.truth .eq x)) = Truth.unknown := by
  have hUnknown (v : Value) : κ.truth .eq x v = .unknown :=
    κ.truth_of_null .eq (Or.inl hNull)
  cases hAny : Truth.any (vs.map (κ.truth .eq x)) with
  | unknown => rfl
  | holds =>
      rw [Truth.any_eq_holds_iff, List.mem_map] at hAny
      rcases hAny with ⟨v, _, hHolds⟩
      cases (hUnknown v).symm.trans hHolds
  | fails =>
      rw [Truth.any_eq_fails_iff] at hAny
      rcases List.exists_mem_of_ne_nil vs hListed with ⟨v, hMem⟩
      have hFails := hAny _ (List.mem_map_of_mem hMem)
      cases (hUnknown v).symm.trans hFails

/- A NULL among the elements may always be the one. -/
theorem any_truth_ne_fails
    (hMem : .null ∈ vs) :
    .any (vs.map (κ.truth .eq x)) ≠ Truth.fails := by
  intro hFails
  rw [Truth.any_eq_fails_iff] at hFails
  have hNull := hFails _ (List.mem_map_of_mem hMem)
  rw [κ.truth_of_null .eq (Or.inr rfl)] at hNull
  cases hNull

end ValueTests

------------------------------------------------------------
-- Truths of compiled predicates
------------------------------------------------------------

/- The truth that a compiled predicate is read with. -/
def CompiledPredicate.HasTruth
    (p : CompiledPredicate)
    (ν : Valuation)
    (t : Truth) : Prop :=
  ∃ f, Fragment.Derives p.fragments f ∧ f.truth ν = t

/- There is no other truth. -/
theorem CompiledPredicate.HasTruth.unique
    {p : CompiledPredicate}
    {ν : Valuation}
    {t u : Truth}
    (hFirst : p.HasTruth ν t)
    (hSecond : p.HasTruth ν u) :
    t = u := by
  rcases hFirst with ⟨f, hDerives, rfl⟩
  rcases hSecond with ⟨g, hDerives', rfl⟩
  rw [hDerives.unique hDerives']

/- A folded predicate is as true as its constant. -/
theorem CompiledPredicate.hasTruth_constant
    (value : Bool)
    (ν : Valuation) :
    HasTruth ⟨[.constant value]⟩ ν (.ofBool value) :=
  ⟨_, .constant value, rfl⟩

namespace Scope

variable {scope : Scope}
variable {s s' : ParameterSet}
variable {ν : Valuation}
variable {negated : Bool}
variable {t : Truth}

/- A compiled predicate is as true as the predicate. -/
theorem truth?_of_compile
    {p : Predicate}
    {compiled : CompiledPredicate}
    (hYields : (scope.compile p).Yields s compiled s')
    (hTruth : compiled.HasTruth ν t) :
    p.truth? scope ν = some t := by
  rcases exists_formula_of_compile hYields with
    ⟨f, hDerives, hSame⟩
  rcases hTruth with ⟨g, hDerives', rfl⟩
  rw [hDerives'.unique hDerives]
  exact hSame ν

------------------------------------------------------------
-- Predicates with a meaning
------------------------------------------------------------

theorem column_of_column?
    {c : ColumnRef}
    {e : ColumnExpr}
    (hColumn : scope.column? c = some e) :
    scope.column c = .ok e := by
  unfold column? at hColumn
  cases hResolved : scope.column c with
  | error cause => rw [hResolved] at hColumn; cases hColumn
  | ok found => rw [hResolved] at hColumn; cases hColumn; rfl

theorem exists_valueCondition
    {c : ColumnRef}
    {op : CompareOp}
    {v : Value}
    (hTruth : scope.constantTruth? ν op c v = some t)
    (s : ParameterSet) :
    ∃ fragment s',
      (scope.valueCondition c op v negated).Yields
        s fragment s' := by
  unfold constantTruth? at hTruth
  rw [Option.bind_eq_bind, Option.bind_eq_some_iff] at hTruth
  rcases hTruth with ⟨e, hColumn, hTest⟩
  simp only [valueCondition, Binding.yields_bind_iff,
    Binding.yields_liftM_iff, column_of_column? hColumn]
  cases hNull : v.isNull with
  | true =>
      rw [hNull, if_pos rfl] at hTest
      cases op with
      | eq | ne => simp
      | lt | le | gt | ge => cases hTest
  | false => simp

/- A comparison that has a truth compiles. -/
theorem exists_comparison
    {left right : Settled}
    {op : CompareOp}
    (hTruth : left.comparisonTruth? scope ν op right = some t)
    (s : ParameterSet) :
    ∃ fragment s',
      (scope.comparison left op right negated).Yields
        s fragment s' := by
  cases left with
  | column l =>
      cases right with
      | value v =>
          rw [comparisonTruth?_column_value] at hTruth
          exact exists_valueCondition hTruth s
      | column r =>
          simp only [Settled.comparisonTruth?, Option.bind_eq_bind,
            Option.bind_eq_some_iff] at hTruth
          rcases hTruth with ⟨e, hLeft, other, hRight, _⟩
          simp [comparison, column_of_column? hLeft,
            column_of_column? hRight]
      | list vs => simp [Settled.comparisonTruth?] at hTruth
  | value v =>
      cases right with
      | column r =>
          rw [comparisonTruth?_value_column] at hTruth
          exact exists_valueCondition hTruth s
      | value w =>
          simp only [Settled.comparisonTruth?,
            Option.map_eq_some_iff] at hTruth
          rcases hTruth with ⟨holds, hFold, _⟩
          cases hResult : v.foldComparison op w with
          | error cause => rw [hResult] at hFold; cases hFold
          | ok found =>
              rw [comparison, hResult]
              exact ⟨_, s, rfl⟩
      | list vs => simp [Settled.comparisonTruth?] at hTruth
  | list vs => simp [Settled.comparisonTruth?] at hTruth

/- A membership test that has a truth compiles. -/
theorem exists_membership
    {column values : Settled}
    (hTruth : column.membershipTruth? scope ν values = some t)
    (s : ParameterSet) :
    ∃ fragment s',
      (scope.membership column values negated).Yields
        s fragment s' := by
  cases column with
  | column c =>
      cases values with
      | column d => simp [Settled.membershipTruth?] at hTruth
      | list vs =>
          cases vs with
          | nil => simp [membership]
          | cons v vs =>
              simp only [Settled.membershipTruth?,
                Option.bind_eq_bind, Option.bind_eq_some_iff]
                at hTruth
              rcases hTruth with ⟨e, hColumn, _⟩
              simp [membership, column_of_column? hColumn]
      | value v =>
          simp only [Settled.membershipTruth?,
            Option.bind_eq_bind, Option.bind_eq_some_iff] at hTruth
          rcases hTruth with ⟨e, hColumn, _⟩
          simp [membership, column_of_column? hColumn]
  | value v =>
      cases values with
      | column d => simp [Settled.membershipTruth?] at hTruth
      | list vs => simp [membership]
      | value w => simp [membership]
  | list vs => simp [Settled.membershipTruth?] at hTruth

/- A pattern test that has a truth compiles. -/
theorem exists_pattern
    {column value : Settled}
    {kind : PatternKind}
    (hTruth : column.patternTruth? scope ν kind value = some t)
    (s : ParameterSet) :
    ∃ fragment s',
      (scope.pattern column kind value negated).Yields
        s fragment s' := by
  unfold Settled.patternTruth? at hTruth
  split at hTruth
  · rw [Option.bind_eq_bind, Option.bind_eq_some_iff] at hTruth
    rcases hTruth with ⟨e, hColumn, _⟩
    simp [pattern, column_of_column? hColumn]
  · simp [pattern]
  · cases hTruth

/-
  A predicate that has a truth has fragments, under both
  parities.
-/
theorem exists_fragments
    {p : Predicate}
    (hTruth : p.truth? scope ν = some t)
    (negated : Bool)
    (s : ParameterSet) :
    ∃ fs s', (scope.fragments negated p).Yields s fs s' := by
  induction p generalizing negated s t with
  | comparison left op right =>
      rcases exists_comparison hTruth s with ⟨fragment, u, hTest⟩
      exact ⟨[fragment], u, by simpa [fragments] using hTest⟩
  | membership column values =>
      rcases exists_membership hTruth s with ⟨fragment, u, hTest⟩
      exact ⟨[fragment], u, by simpa [fragments] using hTest⟩
  | pattern column kind value =>
      rcases exists_pattern hTruth s with ⟨fragment, u, hTest⟩
      exact ⟨[fragment], u, by simpa [fragments] using hTest⟩
  | and left right ihLeft ihRight
  | or left right ihLeft ihRight =>
      simp only [Predicate.truth?, Option.bind_eq_bind,
        Option.bind_eq_some_iff] at hTruth
      rcases hTruth with ⟨l, hLeft, r, hRight, _⟩
      rcases ihLeft hLeft negated s with ⟨fs, u, hFirst⟩
      rcases ihRight hRight negated u with ⟨gs, v, hSecond⟩
      simp only [fragments, Binding.yields_bind_iff,
        Binding.yields_pure_iff]
      exact ⟨_, v, fs, u, hFirst, gs, v, hSecond, rfl, rfl⟩
  | not inner ih =>
      rw [Predicate.truth?, Option.map_eq_some_iff] at hTruth
      rcases hTruth with ⟨u, hInner, _⟩
      exact ih hInner (!negated) s
  | literal value => exact ⟨_, s, rfl⟩

/-
  A predicate that has a truth on some row compiles. On every
  row on which it has one, the compiled predicate has it too.
-/
theorem exists_compile
    {p : Predicate}
    (hTruth : p.truth? scope ν = some t)
    (s : ParameterSet) :
    ∃ compiled s', (scope.compile p).Yields s compiled s' ∧
      ∀ ν' t', p.truth? scope ν' = some t' →
        compiled.HasTruth ν' t' := by
  rcases exists_fragments hTruth false s with ⟨fs, u, hFragments⟩
  have hYields : (scope.compile p).Yields s ⟨fs⟩ u := by
    simpa [compile] using hFragments
  refine ⟨⟨fs⟩, u, hYields, ?_⟩
  intro ν' t' hTruth'
  rcases exists_formula_of_compile hYields with
    ⟨f, hDerives, hSame⟩
  rw [hSame ν'] at hTruth'
  exact ⟨f, hDerives, Option.some.inj hTruth'⟩

end Scope

------------------------------------------------------------
-- Disjunctions of predicates
------------------------------------------------------------

namespace Predicate

variable {scope : Scope}
variable {ν : Valuation}

theorem truth?_foldl_or
    {p : Predicate}
    {ps : List Predicate}
    {t : Truth}
    {ts : List Truth}
    (hFirst : p.truth? scope ν = some t)
    (hRest :
      List.Forall₂ (fun p t => p.truth? scope ν = some t) ps ts) :
    (ps.foldl or p).truth? scope ν = some (t.or (.any ts)) := by
  induction hRest generalizing p t with
  | nil => simpa using hFirst
  | @cons q u _ _ hNext _ ih =>
      have hBoth : (p.or q).truth? scope ν = some (t.or u) := by
        simp [truth?, hFirst, hNext]
      rw [List.foldl_cons, ih hBoth, Truth.or_assoc, Truth.any_cons]

/- Any of the predicates is true as any of their truths is. -/
theorem truth?_any
    {ps : List Predicate}
    {ts : List Truth}
    (hTruths :
      List.Forall₂ (fun p t => p.truth? scope ν = some t) ps ts) :
    (any ps).truth? scope ν = some (.any ts) := by
  cases hTruths with
  | nil => rfl
  | cons hFirst hRest => exact truth?_foldl_or hFirst hRest

end Predicate

end EntitySql
