import EntitySql.Proofs.Predicate.Outcome
import EntitySql.Proofs.Predicate.References

/-
  A predicate that mentions a column out of scope is refused,
  unless all that it asks of the column is to be in the empty
  list.

  Key definitions include:
    * `Scope.tables`, `ColumnRef.InScope`
    * `Predicate.mentions`
    * `Predicate.emptyFolded`

  Key theorems include:
    * `Scope.exists_column_iff`
    * `Predicate.mentions_emptyFolded`
    * `Scope.compile_emptyFolded`
    * `Scope.compile_fails_out_of_scope`
-/

namespace EntitySql

------------------------------------------------------------
-- Columns in scope
------------------------------------------------------------

/- The tables whose columns a scope has. -/
def Scope.tables : Scope → List EntityKey
  | .table entity => [entity]
  | .aliased aliases => aliases.tables

/- The entity of a column has the occurrence that it names. -/
def ColumnRef.InScope
    (scope : Scope)
    (c : ColumnRef) : Prop :=
  1 ≤ c.occurrence.getD 1 ∧
    c.occurrence.getD 1 ≤ scope.tables.count c.entity

instance
    (scope : Scope)
    (c : ColumnRef) :
    Decidable (c.InScope scope) :=
  inferInstanceAs (Decidable (_ ∧ _))

/- The columns in scope are those that are resolved. -/
theorem Scope.exists_column_iff
    {scope : Scope}
    {c : ColumnRef} :
    (∃ e, scope.column c = .ok e) ↔ c.InScope scope := by
  cases scope with
  | table entity =>
      rw [ColumnRef.InScope, Scope.tables]
      constructor
      · rintro ⟨e, hColumn⟩
        dsimp only [Scope.column] at hColumn
        split at hColumn
        · rename_i hOwn
          rw [hOwn.1, hOwn.2, List.count_singleton_self]
          exact ⟨Nat.le_refl 1, Nat.le_refl 1⟩
        · cases hColumn
      · rintro ⟨hPos, hBound⟩
        have hEntity : c.entity = entity :=
          List.mem_singleton.mp
            (List.count_pos_iff.mp (Nat.le_trans hPos hBound))
        rw [hEntity, List.count_singleton_self] at hBound
        exact ⟨_, if_pos ⟨hEntity, Nat.le_antisymm hBound hPos⟩⟩
  | aliased aliases =>
      rw [ColumnRef.InScope, Scope.tables, ← exists_isOccurrence_iff]
      constructor
      · rintro ⟨e, hColumn⟩
        rcases Scope.column_eq_ok_iff.mp hColumn with ⟨i, hOccurs, _⟩
        exact ⟨i, hOccurs⟩
      · rintro ⟨i, hOccurs⟩
        exact ⟨_, Scope.column_eq_ok_iff.mpr ⟨i, hOccurs, rfl⟩⟩

theorem Scope.Resolves.inScope
    {scope : Scope}
    {references : List ColumnRef}
    {columns : List ColumnExpr}
    (hResolves : scope.Resolves references columns) :
    ∀ c ∈ references, c.InScope scope := by
  induction hResolves with
  | nil => nofun
  | cons hColumn _ ih =>
      rw [List.forall_mem_cons]
      exact ⟨Scope.exists_column_iff.mp ⟨_, hColumn⟩, ih⟩

------------------------------------------------------------
-- Mentions
------------------------------------------------------------

namespace Predicate

/- The columns that a predicate mentions, as any operand. -/
def mentions : Predicate → List ColumnRef
  | .comparison left _ right =>
      left.settled.references ++ right.settled.references
  | .membership column values =>
      column.settled.references ++ values.settled.references
  | .pattern column _ value =>
      column.settled.references ++ value.settled.references
  | .and left right | .or left right =>
      left.mentions ++ right.mentions
  | .not inner => inner.mentions
  | .literal _ => []

/- The predicate says that a column is in no empty list. -/
def emptyFolded : Predicate → Predicate
  | .membership column values =>
      match column.settled, values.settled with
      | .column _, .list [] => .literal false
      | _, _ => .membership column values
  | .and left right => .and left.emptyFolded right.emptyFolded
  | .or left right => .or left.emptyFolded right.emptyFolded
  | .not inner => .not inner.emptyFolded
  | p => p

/- What is mentioned outside of empty lists is referred to. -/
theorem mentions_emptyFolded
    (p : Predicate) :
    p.emptyFolded.mentions = p.references := by
  induction p with
  | comparison left op right => rfl
  | pattern column kind value => rfl
  | literal value => rfl
  | not inner ih => exact ih
  | and left right ihLeft ihRight
  | or left right ihLeft ihRight =>
      simp only [emptyFolded, mentions, references, ihLeft, ihRight]
  | membership column values =>
      rw [emptyFolded, references]
      split
      · rename_i hValues
        rw [if_pos hValues]
        rfl
      · rename_i hOther
        rw [mentions]
        split
        · rename_i hValues
          rw [hValues]
          cases hColumn : column.settled with
          | column c => exact absurd hValues (hOther c hColumn)
          | value v => rfl
          | list vs => rfl
        · rfl

end Predicate

------------------------------------------------------------
-- Compilation
------------------------------------------------------------

namespace Scope

variable (scope : Scope)

/-
  A column in the empty list compiles like the constant false,
  under either parity and at every place.
-/
theorem fragments_emptyFolded
    (p : Predicate)
    (negated : Bool) :
    scope.fragments negated p =
      scope.fragments negated p.emptyFolded := by
  induction p generalizing negated with
  | comparison left op right => rfl
  | pattern column kind value => rfl
  | literal value => rfl
  | not inner ih => exact ih (!negated)
  | and left right ihLeft ihRight
  | or left right ihLeft ihRight =>
      simp only [Predicate.emptyFolded, fragments, ihLeft negated,
        ihRight negated]
  | membership column values =>
      rw [Predicate.emptyFolded]
      split
      · rename_i c hColumn hValues
        simp [fragments, membership, hColumn, hValues]
      · rfl

theorem compile_emptyFolded
    (p : Predicate) :
    scope.compile p = scope.compile p.emptyFolded := by
  rw [compile, compile, scope.fragments_emptyFolded]

/- What compiles refers to columns in scope only. -/
theorem inScope_of_compile
    {scope : Scope}
    {p : Predicate}
    {compiled : CompiledPredicate}
    {s t : ParameterSet}
    (hYields : (scope.compile p).Yields s compiled t) :
    ∀ c ∈ p.references, c.InScope scope :=
  (resolves_compile hYields).inScope

/-
  A predicate compiles as it does with its tests of columns in
  the empty list replaced by false, and fails if a column that
  it mentions otherwise is out of scope. The error is the same
  whatever is bound before.
-/
theorem compile_fails_out_of_scope
    (p : Predicate) :
    scope.compile p = scope.compile p.emptyFolded ∧
      ∀ c ∈ p.emptyFolded.mentions, ¬ c.InScope scope →
        ∃ cause, (scope.compile p).Ends (some cause) := by
  refine ⟨scope.compile_emptyFolded p, ?_⟩
  intro c hMem hOut
  rw [p.mentions_emptyFolded] at hMem
  rcases scope.exists_compile_ends p with ⟨fault, hEnds⟩
  cases fault with
  | some cause => exact ⟨cause, hEnds⟩
  | none =>
      have hNone := hEnds .empty
      rcases hRun : (scope.compile p).run.run .empty with
        ⟨cause | compiled, t⟩
      · rw [hRun] at hNone
        cases hNone
      · exact absurd (inScope_of_compile hRun c hMem) hOut

end Scope

namespace Labels

def blog : EntityKey :=
  ⟨0, "Blog"⟩

def category : EntityKey :=
  ⟨1, "Category"⟩

def rating : ColumnRef :=
  { entity := blog, column := "rating" }

def label : ColumnRef :=
  { entity := category, column := "label" }

/-
  rating IN () OR NOT (NULL = label AND rating = 5), with the
  label found on compilation. One of its tests is folded.
-/
theorem compile_fails_on_computed_label :
    let p : Predicate :=
      .or (rating.isIn [])
        (.not (.and
          (.comparison (.literal .null) .eq
            (.computed fun _ => .column label))
          (rating.compareValue .eq (.int 5))))
    label ∈ p.emptyFolded.mentions ∧
      ¬ label.InScope (.table blog) ∧
      ∃ cause, ((Scope.table blog).compile p).Ends (some cause) := by
  intro p
  have hMem : label ∈ p.emptyFolded.mentions := by
    decide +kernel
  have hOut : ¬ label.InScope (.table blog) := by
    decide +kernel
  exact ⟨hMem, hOut,
    (Scope.compile_fails_out_of_scope (.table blog) p).2 label hMem
      hOut⟩

/-
  A label in the empty list has a constant as its SQL, in the
  scope of a table that has no labels.
-/
theorem compile_empty_list_of_label :
    label ∈ (label.isIn []).mentions ∧
      ¬ label.InScope (.table blog) ∧
      ((Scope.table blog).compile (label.isIn [])).Yields .empty
        ⟨[.constant false]⟩ .empty := by
  refine ⟨List.mem_singleton.mpr rfl, ?_, rfl⟩
  decide +kernel

end Labels

end EntitySql
