import EntitySql.Proofs.Predicate.Tests

/-
  The column references of predicates, and the columns that
  they denote among some tables.

  Key definitions include:
    * `IsOccurrence`, `ColumnRef.Denotes`
    * `Predicate.references`
    * `CompiledPredicate.columns`
    * `Scope.Resolves`

  Key theorems include:
    * `exists_isOccurrence_iff`
    * `AliasMap.resolve_eq_ok_iff`
    * `Scope.resolves_compile`
    * `Scope.denotes_compile`

  An entity may have several tables. A reference names one of
  them by its number among these, and the alias of a table is
  its position among all.
-/

namespace EntitySql

------------------------------------------------------------
-- Occurrences
------------------------------------------------------------

/- A position has the n-th table of an entity, from one on. -/
structure IsOccurrence
    (tables : List EntityKey)
    (entity : EntityKey)
    (n i : Nat) : Prop where
  table : tables[i]? = some entity
  number : (tables.take i).count entity + 1 = n

/- The alias of the table at a position. -/
def TableAlias.ofPosition
    (i : Nat) : TableAlias :=
  ⟨i + 1⟩

theorem TableAlias.ofPosition_eq
    (i : Nat) :
    ofPosition i = ⟨1 + i⟩ := by
  rw [ofPosition, Nat.add_comm]

theorem TableAlias.ofPosition_inj
    {i j : Nat}
    (hSame : ofPosition i = ofPosition j) :
    i = j :=
  Nat.succ.inj (congrArg TableAlias.number hSame)

/- The column of the table that a reference names by entity. -/
def ColumnRef.Denotes
    (tables : List EntityKey)
    (c : ColumnRef)
    (e : ColumnExpr) : Prop :=
  ∃ i,
    IsOccurrence tables c.entity (c.occurrence.getD 1) i ∧
    e = .qualified (.ofPosition i) c.column

theorem not_isOccurrence_nil
    {entity : EntityKey}
    {n i : Nat} :
    ¬ IsOccurrence [] entity n i := by
  rintro ⟨hTable, _⟩
  cases hTable

/- The first table is the first occurrence of its entity. -/
theorem isOccurrence_zero_iff
    {key entity : EntityKey}
    {tables : List EntityKey}
    {n : Nat} :
    IsOccurrence (key :: tables) entity n 0 ↔ key = entity ∧ n = 1 := by
  constructor
  · rintro ⟨hTable, hNumber⟩
    exact ⟨Option.some.inj hTable, hNumber.symm⟩
  · rintro ⟨rfl, rfl⟩
    exact ⟨rfl, rfl⟩

/- Behind a table of the entity the numbers are one higher. -/
theorem isOccurrence_succ_self_iff
    {entity : EntityKey}
    {tables : List EntityKey}
    {n i : Nat} :
    IsOccurrence (entity :: tables) entity (n + 1) (i + 1) ↔
      IsOccurrence tables entity n i := by
  have hCount :
      ((entity :: tables).take (i + 1)).count entity =
        (tables.take i).count entity + 1 := by
    rw [List.take_succ_cons, List.count_cons_self]
  constructor
  · rintro ⟨hTable, hNumber⟩
    exact ⟨hTable, by omega⟩
  · rintro ⟨hTable, hNumber⟩
    exact ⟨hTable, by omega⟩

/- Behind another table they are the same. -/
theorem isOccurrence_succ_of_ne_iff
    {key entity : EntityKey}
    {tables : List EntityKey}
    {n i : Nat}
    (hOther : key ≠ entity) :
    IsOccurrence (key :: tables) entity n (i + 1) ↔
      IsOccurrence tables entity n i := by
  have hCount :
      ((key :: tables).take (i + 1)).count entity =
        (tables.take i).count entity := by
    rw [List.take_succ_cons, List.count_cons_of_ne hOther]
  constructor
  · rintro ⟨hTable, hNumber⟩
    exact ⟨hTable, by omega⟩
  · rintro ⟨hTable, hNumber⟩
    exact ⟨hTable, by omega⟩

/- Occurrences are counted from one. -/
theorem IsOccurrence.pos
    {entity : EntityKey}
    {tables : List EntityKey}
    {n i : Nat}
    (hOccurs : IsOccurrence tables entity n i) :
    1 ≤ n := by
  rw [← hOccurs.number]
  exact Nat.le_add_left _ _

theorem IsOccurrence.lt_length
    {tables : List EntityKey}
    {entity : EntityKey}
    {n i : Nat}
    (hOccurs : IsOccurrence tables entity n i) :
    i < tables.length :=
  (List.getElem?_eq_some_iff.mp hOccurs.table).1

/- Later tables leave the occurrences of earlier ones alone. -/
theorem IsOccurrence.append
    {tables : List EntityKey}
    {entity : EntityKey}
    {n i : Nat}
    (hOccurs : IsOccurrence tables entity n i)
    (later : List EntityKey) :
    IsOccurrence (tables ++ later) entity n i where
  table := by
    rw [List.getElem?_append_left hOccurs.lt_length]
    exact hOccurs.table
  number := by
    rw [List.take_append_of_le_length (Nat.le_of_lt hOccurs.lt_length)]
    exact hOccurs.number

/- An entity occurs as often as it has tables. -/
theorem exists_isOccurrence_iff
    {tables : List EntityKey}
    {entity : EntityKey}
    {n : Nat} :
    (∃ i, IsOccurrence tables entity n i) ↔
      1 ≤ n ∧ n ≤ tables.count entity := by
  induction tables generalizing n with
  | nil =>
      constructor
      · rintro ⟨i, hOccurs⟩
        exact absurd hOccurs not_isOccurrence_nil
      · rintro ⟨hPos, hBound⟩
        rw [List.count_nil] at hBound
        omega
  | cons key tables ih =>
      by_cases hKey : key = entity
      · subst hKey
        rw [List.count_cons_self]
        constructor
        · rintro ⟨i, hOccurs⟩
          refine ⟨hOccurs.pos, ?_⟩
          rcases Nat.exists_eq_add_of_le' hOccurs.pos with ⟨n, rfl⟩
          rcases i with _ | i
          · have hFirst := (isOccurrence_zero_iff.mp hOccurs).2
            omega
          · have hBound :=
              ih.mp ⟨i, isOccurrence_succ_self_iff.mp hOccurs⟩
            omega
        · rintro ⟨hPos, hBound⟩
          rcases Nat.exists_eq_add_of_le' hPos with ⟨n, rfl⟩
          rcases n with _ | n
          · exact ⟨0, isOccurrence_zero_iff.mpr ⟨rfl, rfl⟩⟩
          · rcases ih.mpr ⟨Nat.le_add_left 1 n, by omega⟩ with
              ⟨i, hOccurs⟩
            exact ⟨i + 1, isOccurrence_succ_self_iff.mpr hOccurs⟩
      · rw [List.count_cons_of_ne hKey, ← ih]
        constructor
        · rintro ⟨_ | i, hOccurs⟩
          · exact absurd (isOccurrence_zero_iff.mp hOccurs).1 hKey
          · exact ⟨i, (isOccurrence_succ_of_ne_iff hKey).mp hOccurs⟩
        · rintro ⟨i, hOccurs⟩
          exact ⟨i + 1,
            (isOccurrence_succ_of_ne_iff hKey).mpr hOccurs⟩

namespace AliasMap

/-
  The aliases of an entity, from a number on, are those of its
  occurrences in order.
-/
theorem getElem?_aliases_iff
    {tables : List EntityKey}
    {entity : EntityKey}
    {start k : Nat}
    {a : TableAlias} :
    ((tables.zipIdx start).filterMap fun (key, n) =>
        if key = entity then some (⟨n⟩ : TableAlias) else none)[k]? =
        some a ↔
      ∃ i, IsOccurrence tables entity (k + 1) i ∧ a = ⟨start + i⟩ := by
  induction tables generalizing start k with
  | nil =>
      constructor
      · intro hFound
        cases hFound
      · rintro ⟨i, hOccurs, _⟩
        exact absurd hOccurs not_isOccurrence_nil
  | cons key tables ih =>
      have hNext (i : Nat) : start + 1 + i = start + (i + 1) := by
        omega
      rw [List.zipIdx_cons, List.filterMap_cons]
      by_cases hKey : key = entity
      · subst hKey
        simp only [if_true]
        rcases k with _ | k
        · constructor
          · intro hFound
            cases hFound
            exact ⟨0, isOccurrence_zero_iff.mpr ⟨rfl, rfl⟩, rfl⟩
          · rintro ⟨_ | i, hOccurs, rfl⟩
            · rfl
            · have hPos := (isOccurrence_succ_self_iff.mp hOccurs).pos
              omega
        · rw [List.getElem?_cons_succ, ih]
          constructor
          · rintro ⟨i, hOccurs, rfl⟩
            exact ⟨i + 1, isOccurrence_succ_self_iff.mpr hOccurs,
              by rw [hNext]⟩
          · rintro ⟨_ | i, hOccurs, rfl⟩
            · have hFirst := (isOccurrence_zero_iff.mp hOccurs).2
              omega
            · exact ⟨i, isOccurrence_succ_self_iff.mp hOccurs,
                by rw [hNext]⟩
      · simp only [if_neg hKey]
        rw [ih]
        constructor
        · rintro ⟨i, hOccurs, rfl⟩
          exact ⟨i + 1, (isOccurrence_succ_of_ne_iff hKey).mpr hOccurs,
            by rw [hNext]⟩
        · rintro ⟨_ | i, hOccurs, rfl⟩
          · exact absurd (isOccurrence_zero_iff.mp hOccurs).1 hKey
          · exact ⟨i, (isOccurrence_succ_of_ne_iff hKey).mp hOccurs,
              by rw [hNext]⟩

/- An alias is resolved to that of the occurrence. -/
theorem resolve_eq_ok_iff
    {tables : List EntityKey}
    {entity : EntityKey}
    {occurrence : Option Nat}
    {a : TableAlias} :
    resolve ⟨tables⟩ entity occurrence = .ok a ↔
      ∃ i,
        IsOccurrence tables entity (occurrence.getD 1) i ∧
        a = .ofPosition i := by
  simp only [TableAlias.ofPosition_eq, resolve]
  rcases occurrence.getD 1 with _ | n
  · constructor
    · nofun
    · rintro ⟨i, hOccurs, _⟩
      exact absurd hOccurs.pos (Nat.not_succ_le_zero 0)
  · have hAliases :
        (aliases ⟨tables⟩ entity)[n]? = some a ↔
          ∃ i, IsOccurrence tables entity (n + 1) i ∧ a = ⟨1 + i⟩ :=
      getElem?_aliases_iff
    rw [← hAliases]
    simp only [Nat.succ_ne_self, Nat.add_eq_zero_iff, and_false,
      if_false, Nat.add_sub_cancel]
    cases (aliases ⟨tables⟩ entity)[n]? with
    | some b => simp
    | none => simp

/- Without the occurrence the entity and number are the error. -/
theorem resolve_eq_error
    {tables : List EntityKey}
    {entity : EntityKey}
    {occurrence : Option Nat}
    (hNone :
      ¬ ∃ i, IsOccurrence tables entity (occurrence.getD 1) i) :
    resolve ⟨tables⟩ entity occurrence =
      .error
        (.unresolvedAlias
          (.noOccurrence entity (occurrence.getD 1))) := by
  cases hResolve : resolve ⟨tables⟩ entity occurrence with
  | ok a =>
      rcases resolve_eq_ok_iff.mp hResolve with ⟨i, hOccurs, _⟩
      exact absurd ⟨i, hOccurs⟩ hNone
  | error e =>
      dsimp only [resolve] at hResolve
      split at hResolve
      · cases hResolve
      · exact hResolve.symm

end AliasMap

/- A reference is resolved to the column that it denotes. -/
theorem Scope.column_eq_ok_iff
    {tables : List EntityKey}
    {c : ColumnRef}
    {e : ColumnExpr} :
    (Scope.aliased ⟨tables⟩).column c = .ok e ↔
      c.Denotes tables e := by
  rw [Scope.column]
  cases hResolve : AliasMap.resolve ⟨tables⟩ c.entity c.occurrence with
  | ok a =>
      rcases AliasMap.resolve_eq_ok_iff.mp hResolve with
        ⟨i, hOccurs, rfl⟩
      constructor
      · intro hColumn
        cases hColumn
        exact ⟨i, hOccurs, rfl⟩
      · rintro ⟨j, hOther, rfl⟩
        have hSame := AliasMap.resolve_eq_ok_iff.mpr ⟨j, hOther, rfl⟩
        cases hResolve.symm.trans hSame
        rfl
  | error cause =>
      constructor
      · intro hColumn
        cases hColumn
      · rintro ⟨i, hOccurs, rfl⟩
        have hFound :=
          AliasMap.resolve_eq_ok_iff.mpr ⟨i, hOccurs, rfl⟩
        cases hResolve.symm.trans hFound

------------------------------------------------------------
-- References
------------------------------------------------------------

/- The column that an operand is, if it is one. -/
def Settled.references : Settled → List ColumnRef
  | .column c => [c]
  | _ => []

/-
  The columns that a predicate refers to, in the order of its
  tests. A column in an empty list is folded away.
-/
def Predicate.references : Predicate → List ColumnRef
  | .comparison left _ right =>
      left.settled.references ++ right.settled.references
  | .membership column values =>
      if values.settled = .list [] then []
      else column.settled.references ++ values.settled.references
  | .pattern column _ value =>
      column.settled.references ++ value.settled.references
  | .and left right | .or left right =>
      left.references ++ right.references
  | .not inner => inner.references
  | .literal _ => []

/- The columns of a compiled test, from left to right. -/
def Condition.columns
    (c : Condition) : List ColumnExpr :=
  c.column ::
    match c.operand with
    | .column other => [other]
    | _ => []

def Fragment.columns : Fragment → List ColumnExpr
  | .condition c => c.columns
  | _ => []

/- The columns of a compiled predicate, in the order of its SQL. -/
def CompiledPredicate.columns
    (p : CompiledPredicate) : List ColumnExpr :=
  p.fragments.flatMap Fragment.columns

/- The references are resolved to the columns, one by one. -/
def Scope.Resolves
    (scope : Scope)
    (references : List ColumnRef)
    (columns : List ColumnExpr) : Prop :=
  List.Forall₂ (fun c e => scope.column c = .ok e) references columns

/- The compiled columns are those that the references denote. -/
def Predicate.DenotesAll
    (tables : List EntityKey)
    (p : Predicate)
    (compiled : CompiledPredicate) : Prop :=
  List.Forall₂ (ColumnRef.Denotes tables) p.references
    compiled.columns

namespace Scope

variable {scope : Scope}
variable {s t : ParameterSet}
variable {fragment : Fragment}
variable {negated : Bool}

/- The columns of a combination are those of its sides. -/
theorem columns_combine
    (c : Combinator)
    (left right : List Fragment) :
    (combine c left right).flatMap Fragment.columns =
      left.flatMap Fragment.columns ++
        right.flatMap Fragment.columns := by
  simp [combine, Fragment.columns]

theorem resolves_valueCondition
    {c : ColumnRef}
    {op : CompareOp}
    {v : Value}
    (hYields :
      (scope.valueCondition c op v negated).Yields s fragment t) :
    scope.Resolves [c] fragment.columns := by
  rcases valueCondition_cases hYields with
    ⟨e, hColumn, ⟨_, _, _, rfl⟩ | ⟨_, _, _, rfl⟩ | ⟨_, _, rfl⟩⟩
  all_goals exact .cons hColumn .nil

theorem resolves_comparison
    {left right : Settled}
    {op : CompareOp}
    (hYields :
      (scope.comparison left op right negated).Yields
        s fragment t) :
    scope.Resolves (left.references ++ right.references)
      fragment.columns := by
  cases left with
  | list vs => exact absurd hYields comparison_list_left
  | column l =>
      cases right with
      | list vs => exact absurd hYields comparison_list_right
      | value v => exact resolves_valueCondition hYields
      | column r =>
          rcases columnComparison_cases hYields with
            ⟨e, other, hLeft, hRight, _, rfl⟩
          exact .cons hLeft (.cons hRight .nil)
  | value v =>
      cases right with
      | list vs => exact absurd hYields comparison_list_right
      | column r => exact resolves_valueCondition hYields
      | value w =>
          rcases valueComparison_cases hYields with ⟨_, _, _, rfl⟩
          exact .nil

theorem resolves_membership
    {column values : Settled}
    (hYields :
      (scope.membership column values negated).Yields
        s fragment t) :
    scope.Resolves
      (if values = .list [] then []
        else column.references ++ values.references)
      fragment.columns := by
  rcases membership_cases hYields with ⟨vs, hListed, hCases⟩
  have hNone : values.references = [] := by
    cases values with
    | column c => cases hListed
    | value v => rfl
    | list ws => rfl
  have hFolded : values = .list [] → vs = [] := by
    rintro rfl
    exact (Option.some.inj hListed).symm
  rw [hNone, List.append_nil]
  rcases hCases with
    ⟨c, rfl, rfl, _, rfl⟩ | ⟨c, e, rfl, hSome, hColumn, _, rfl⟩ |
      ⟨v, rfl, _, rfl⟩
  · have hEmpty : values = .list [] := by
      cases values with
      | column c => cases hListed
      | value v => cases hListed
      | list ws => rw [Option.some.inj hListed]
    rw [if_pos hEmpty]
    exact .nil
  · rw [if_neg fun hEmpty => hSome (hFolded hEmpty)]
    exact .cons hColumn .nil
  · split <;> exact .nil

theorem resolves_pattern
    {column value : Settled}
    {kind : PatternKind}
    (hYields :
      (scope.pattern column kind value negated).Yields
        s fragment t) :
    scope.Resolves (column.references ++ value.references)
      fragment.columns := by
  rcases pattern_cases hYields with
    ⟨text, rfl,
      ⟨c, e, rfl, hColumn, _, rfl⟩ | ⟨subject, rfl, _, rfl⟩⟩
  · exact .cons hColumn .nil
  · exact .nil

/-
  Every column in the fragments of a predicate is the one that
  its reference is resolved to. The induction is on the
  predicate for both parities.
-/
theorem resolves_fragments
    {p : Predicate}
    {fragments : List Fragment}
    (hYields : (scope.fragments negated p).Yields s fragments t) :
    scope.Resolves p.references
      (fragments.flatMap Fragment.columns) := by
  induction p generalizing negated s t fragments with
  | comparison left op right =>
      simp only [Scope.fragments, Binding.yields_bind_iff,
        Binding.yields_pure_iff] at hYields
      rcases hYields with ⟨fragment, _, hTest, rfl, _⟩
      rw [List.flatMap_singleton]
      exact resolves_comparison hTest
  | membership column values =>
      simp only [Scope.fragments, Binding.yields_bind_iff,
        Binding.yields_pure_iff] at hYields
      rcases hYields with ⟨fragment, _, hTest, rfl, _⟩
      rw [List.flatMap_singleton]
      exact resolves_membership hTest
  | pattern column kind value =>
      simp only [Scope.fragments, Binding.yields_bind_iff,
        Binding.yields_pure_iff] at hYields
      rcases hYields with ⟨fragment, _, hTest, rfl, _⟩
      rw [List.flatMap_singleton]
      exact resolves_pattern hTest
  | and left right ihLeft ihRight
  | or left right ihLeft ihRight =>
      simp only [Scope.fragments, Binding.yields_bind_iff,
        Binding.yields_pure_iff] at hYields
      rcases hYields with ⟨l, _, hLeft, r, _, hRight, rfl, _⟩
      rw [columns_combine]
      exact List.rel_append (ihLeft hLeft) (ihRight hRight)
  | not inner ih => exact ih hYields
  | literal value =>
      simp only [Scope.fragments, Binding.yields_pure_iff] at hYields
      rw [← hYields.1]
      exact .nil

/- The columns of a compiled predicate are what it refers to. -/
theorem resolves_compile
    {p : Predicate}
    {compiled : CompiledPredicate}
    (hYields : (scope.compile p).Yields s compiled t) :
    scope.Resolves p.references compiled.columns := by
  simp only [Scope.compile, Binding.yields_bind_iff,
    Binding.yields_pure_iff] at hYields
  rcases hYields with ⟨fragments, _, hFragments, rfl, _⟩
  exact resolves_fragments hFragments

theorem denotes_compile
    {tables : List EntityKey}
    {p : Predicate}
    {compiled : CompiledPredicate}
    (hYields :
      ((Scope.aliased ⟨tables⟩).compile p).Yields s compiled t) :
    p.DenotesAll tables compiled :=
  (resolves_compile hYields).imp fun _ _ => column_eq_ok_iff.mp

end Scope

end EntitySql
