import EntitySql.Proofs.Statement.Parameters
import EntitySql.Proofs.Statement.ReadableParts

/-
  Statements for drivers that bind by position. If tables and
  columns have identifiers for their names, numbering the text
  of a statement finds every placeholder and nothing else.

  Key definitions include:
    * `Predicate.HasIdentifiers`, `Query.HasIdentifiers`
    * `Request.HasIdentifiers`

  Key theorems include:
    * `Scope.compile_readable`
    * `Query.plan_readable`
    * `Request.command_readable`
    * `Request.numbered_statement_binds_alike`
-/

namespace EntitySql

open Binding
open Text (IsIdentifier)

variable {d : Dialect}

------------------------------------------------------------
-- Identifiers of requests
------------------------------------------------------------

/- The prefix and the schema that the naming adds. -/
structure TableNaming.HasIdentifiers
    (naming : TableNaming) : Prop where
  tablePrefix : ∀ s ∈ naming.tablePrefix, IsIdentifier s
  defaultSchema : ∀ s ∈ naming.defaultSchema, IsIdentifier s

structure EntityType.HasIdentifiers
    (e : EntityType) : Prop where
  table : IsIdentifier e.table
  schema : ∀ s ∈ e.schema, IsIdentifier s
  columns : ∀ column ∈ e.columns, IsIdentifier column

def Settled.HasIdentifiers : Settled → Prop
  | .column c => IsIdentifier c.column
  | .value _ => True
  | .list _ => True

/- Every column that is tested. -/
def Predicate.HasIdentifiers : Predicate → Prop
  | .comparison left _ right =>
      left.settled.HasIdentifiers ∧ right.settled.HasIdentifiers
  | .membership column values =>
      column.settled.HasIdentifiers ∧ values.settled.HasIdentifiers
  | .pattern column _ value =>
      column.settled.HasIdentifiers ∧ value.settled.HasIdentifiers
  | .and left right | .or left right =>
      left.HasIdentifiers ∧ right.HasIdentifiers
  | .not inner => inner.HasIdentifiers
  | .literal _ => True

structure Join.HasIdentifiers
    (j : Join) : Prop where
  target : j.target.HasIdentifiers
  sourceColumn : IsIdentifier j.sourceColumn
  destColumn : IsIdentifier j.destColumn
  condition : ∀ p ∈ j.condition, p.HasIdentifiers

structure Query.HasIdentifiers
    (q : Query) : Prop where
  root : q.root.HasIdentifiers
  filters : ∀ p ∈ q.filters, p.HasIdentifiers
  ordering : ∀ o ∈ q.ordering, IsIdentifier o.column.column
  joins : ∀ j ∈ q.joins, j.HasIdentifiers

/- Every name that a request gives for a table or column. -/
def Request.HasIdentifiers : Request → Prop
  | .insert r | .update r | .delete r => r.type.HasIdentifiers
  | .updateWhere e patch p =>
      e.HasIdentifiers ∧
        (∀ x ∈ patch.assignments, IsIdentifier x.1) ∧
        p.HasIdentifiers
  | .deleteWhere e p => e.HasIdentifiers ∧ p.HasIdentifiers
  | .selectByKey e _ => e.HasIdentifiers
  | .select q | .count q | .selectWithCount q => q.HasIdentifiers

------------------------------------------------------------
-- Tests
------------------------------------------------------------

namespace Scope

open ParameterSet (HasIdentifiers)

variable {scope : Scope}
variable {negated : Bool}

theorem column_isPlain
    {c : ColumnRef}
    {e : ColumnExpr}
    (hName : IsIdentifier c.column)
    (hColumn : scope.column c = .ok e) :
    d.IsPlain e.column := by
  rw [column_column hColumn]
  exact Dialect.isPlain_of_isIdentifier hName

theorem valueCondition_readable
    {c : ColumnRef}
    (hName : IsIdentifier c.column)
    (op : CompareOp)
    (v : Value) :
    Keeps HasIdentifiers (scope.valueCondition c op v negated)
      fun fragment => fragment.sql.Readable d := by
  intro s fragment t hNames hYields
  rcases valueCondition_cases hYields with
    ⟨e, hColumn,
      ⟨rfl, _, rfl, rfl⟩ | ⟨rfl, _, rfl, rfl⟩ | ⟨_, rfl, rfl⟩⟩
  · exact ⟨hNames,
      Condition.readable_sql (column_isPlain hName hColumn) trivial⟩
  · exact ⟨hNames,
      Condition.readable_sql (column_isPlain hName hColumn) trivial⟩
  · have hBound := ParameterSet.bind_identifiers hNames hName v
    exact ⟨hBound.2,
      Condition.readable_sql (column_isPlain hName hColumn) hBound.1⟩

theorem comparison_readable
    {left right : Settled}
    (hLeft : left.HasIdentifiers)
    (hRight : right.HasIdentifiers)
    (op : CompareOp) :
    Keeps HasIdentifiers (scope.comparison left op right negated)
      fun fragment => fragment.sql.Readable d := by
  cases left with
  | list vs =>
      intro s fragment t _ hYields
      exact absurd hYields comparison_list_left
  | column l =>
      cases right with
      | list vs =>
          intro s fragment t _ hYields
          exact absurd hYields comparison_list_right
      | value v => exact valueCondition_readable hLeft op v
      | column r =>
          intro s fragment t hNames hYields
          rcases columnComparison_cases hYields with
            ⟨e, other, hColumn, hOther, rfl, rfl⟩
          exact ⟨hNames,
            Condition.readable_sql (column_isPlain hLeft hColumn)
              (column_isPlain hRight hOther)⟩
  | value v =>
      cases right with
      | list vs =>
          intro s fragment t _ hYields
          exact absurd hYields comparison_list_right
      | column r => exact valueCondition_readable hRight op.swapped v
      | value w =>
          intro s fragment t hNames hYields
          rcases valueComparison_cases hYields with
            ⟨holds, _, rfl, rfl⟩
          exact ⟨hNames, (Fragment.sealed_constant _).toReadable⟩

theorem membership_readable
    {column : Settled}
    (hColumn : column.HasIdentifiers)
    (values : Settled) :
    Keeps HasIdentifiers (scope.membership column values negated)
      fun fragment => fragment.sql.Readable d := by
  intro s fragment t hNames hYields
  rcases membership_cases hYields with
    ⟨vs, _,
      ⟨c, rfl, _, rfl, rfl⟩ | ⟨c, e, rfl, _, hResolved, rfl, rfl⟩ |
        ⟨v, rfl, rfl, rfl⟩⟩
  · exact ⟨hNames, (Fragment.sealed_constant _).toReadable⟩
  · have hBound := ParameterSet.bindList_identifiers hNames hColumn vs
    exact ⟨hBound.2,
      Condition.readable_sql (column_isPlain hColumn hResolved)
        hBound.1⟩
  · exact ⟨hNames, (Fragment.sealed_constant _).toReadable⟩

theorem pattern_readable
    {column : Settled}
    (hColumn : column.HasIdentifiers)
    (kind : PatternKind)
    (value : Settled) :
    Keeps HasIdentifiers (scope.pattern column kind value negated)
      fun fragment => fragment.sql.Readable d := by
  intro s fragment t hNames hYields
  rcases pattern_cases hYields with
    ⟨text, rfl,
      ⟨c, e, rfl, hResolved, rfl, rfl⟩ | ⟨subject, rfl, rfl, rfl⟩⟩
  · have hBound :=
      ParameterSet.bind_identifiers hNames hColumn
        (.text (kind.likePattern text))
    exact ⟨hBound.2,
      Condition.readable_sql (column_isPlain hColumn hResolved)
        hBound.1⟩
  · exact ⟨hNames, (Fragment.sealed_constant _).toReadable⟩

------------------------------------------------------------
-- Predicates
------------------------------------------------------------

/- A test alone may end with a placeholder. -/
theorem single_readable
    {step : Binding Fragment}
    (hStep : Keeps HasIdentifiers step
      fun fragment => fragment.sql.Readable d) :
    Keeps HasIdentifiers (do pure [← step])
      fun fs => (Fragment.listSql fs).Readable d := by
  apply hStep.bind
  intro fragment hFragment
  apply Keeps.pure
  simpa [Fragment.listSql] using hFragment

theorem combine_readable
    {left right : Binding (List Fragment)}
    (c : Combinator)
    (hLeft : Keeps HasIdentifiers left
      fun fs => (Fragment.listSql fs).Readable d)
    (hRight : Keeps HasIdentifiers right
      fun fs => (Fragment.listSql fs).Readable d) :
    Keeps HasIdentifiers
      (do
        let l ← left
        let r ← right
        pure (combine c l r))
      fun fs => (Fragment.listSql fs).Readable d := by
  apply hLeft.bind
  intro l hLeftSql
  apply hRight.bind
  intro r hRightSql
  apply Keeps.pure
  exact (Fragment.sealed_combine c hLeftSql hRightSql).toReadable

theorem fragments_readable
    {p : Predicate}
    (hPredicate : p.HasIdentifiers) :
    Keeps HasIdentifiers (scope.fragments negated p)
      fun fs => (Fragment.listSql fs).Readable d := by
  induction p generalizing negated with
  | literal value =>
      apply Keeps.pure
      simpa [Fragment.listSql] using
        (Fragment.sealed_constant (value != negated)).toReadable
  | not inner ih => exact ih hPredicate
  | and left right ihLeft ihRight
  | or left right ihLeft ihRight =>
      exact combine_readable _ (ihLeft hPredicate.1)
        (ihRight hPredicate.2)
  | comparison left op right =>
      exact single_readable
        (comparison_readable hPredicate.1 hPredicate.2 op)
  | membership column values =>
      exact single_readable (membership_readable hPredicate.1 _)
  | pattern column kind value =>
      exact single_readable (pattern_readable hPredicate.1 kind _)

theorem compile_readable
    {p : Predicate}
    (hPredicate : p.HasIdentifiers) :
    Keeps HasIdentifiers (scope.compile p)
      fun compiled => compiled.sql.Readable d := by
  apply (fragments_readable hPredicate).bind
  intro fs hSql
  exact Keeps.pure hSql

theorem compileList_readable
    {ps : List Predicate}
    (hPredicates : ∀ p ∈ ps, p.HasIdentifiers) :
    Keeps HasIdentifiers (scope.compileList ps)
      fun compiled => ∀ p ∈ compiled, p.sql.Readable d := by
  apply Keeps.mapM
  intro p hMem
  exact compile_readable (hPredicates p hMem)

end Scope

------------------------------------------------------------
-- Plans
------------------------------------------------------------

variable {naming : TableNaming}

/- A prefix and a table make an identifier together. -/
theorem EntityType.sealed_tableName
    {e : EntityType}
    (hNaming : naming.HasIdentifiers)
    (hEntity : e.HasIdentifiers) :
    (Sql.table (e.tableName naming)).Sealed d := by
  apply Sql.sealed_table
  · apply Dialect.isPlain_of_isIdentifier
    unfold EntityType.tableName TableNaming.resolve
    cases hPrefix : naming.tablePrefix with
    | none => simpa using hEntity.table
    | some s =>
        exact (hNaming.tablePrefix s hPrefix).append
          hEntity.table.word
  · intro schema hSchema
    apply Dialect.isPlain_of_isIdentifier
    unfold EntityType.tableName TableNaming.resolve at hSchema
    cases hOwn : e.schema with
    | none =>
        rw [hOwn] at hSchema
        exact hNaming.defaultSchema schema hSchema
    | some own =>
        rw [hOwn] at hSchema
        cases hSchema
        exact hEntity.schema schema hOwn

theorem EntityType.bareColumns_isClean
    {e : EntityType}
    (hEntity : e.HasIdentifiers) :
    ∀ c ∈ e.bareColumns, c.IsClean d := by
  intro c hMem
  rcases List.mem_map.mp hMem with ⟨column, hIn, rfl⟩
  have hPlain : d.IsPlain column :=
    Dialect.isPlain_of_isIdentifier (hEntity.columns column hIn)
  exact ⟨hPlain, hPlain⟩

theorem EntityType.aliasedColumns_isClean
    {e : EntityType}
    (hEntity : e.HasIdentifiers)
    (a : TableAlias) :
    ∀ c ∈ e.aliasedColumns a, c.IsClean d := by
  intro c hMem
  rcases List.mem_map.mp hMem with ⟨column, hIn, rfl⟩
  have hColumn := hEntity.columns column hIn
  refine ⟨Dialect.isPlain_of_isIdentifier hColumn, ?_⟩
  apply Dialect.isPlain_of_isIdentifier
  have hLetter : IsIdentifier "t" :=
    .of_isAlphanum (by decide) (by decide)
  have hUnderscore : ∀ c ∈ "_".toList, Text.isWordChar c = true := by
    simp [Text.isWordChar]
  exact ((hLetter.append (Text.word_toString a.number)).append
    hUnderscore).append hColumn.word

theorem Join.clause_readable
    {j : Join}
    (hNaming : naming.HasIdentifiers)
    (hJoin : j.HasIdentifiers)
    (aliases : AliasMap) :
    Keeps ParameterSet.HasIdentifiers (j.clause naming aliases)
      fun x => x.1.IsReadable d := by
  have hSource := hJoin.sourceColumn
  have hDest := hJoin.destColumn
  unfold Join.clause
  apply (Keeps.liftM _).bind
  intro source _
  have hClause (condition : Option CompiledPredicate)
      (hCondition : ∀ p ∈ condition, p.sql.Readable d) :
      JoinClause.IsReadable d
        ⟨j.kind, j.target.tableName naming,
          (aliases.assign j.target.key).1,
          .qualified source j.sourceColumn,
          .qualified (aliases.assign j.target.key).1 j.destColumn,
          condition⟩ :=
    ⟨EntityType.sealed_tableName hNaming hJoin.target,
      Dialect.isPlain_of_isIdentifier hSource,
      Dialect.isPlain_of_isIdentifier hDest, hCondition⟩
  cases hCase : j.condition with
  | none => exact Keeps.pure (hClause none nofun)
  | some p =>
      have hPredicate := hJoin.condition p hCase
      have hCompiled :
          Keeps ParameterSet.HasIdentifiers
            (some <$> (Scope.aliased
              (aliases.assign j.target.key).2).compile p)
            fun condition => ∀ p ∈ condition, p.sql.Readable d := by
        apply (Scope.compile_readable hPredicate).map
        intro compiled hSql p hMem
        cases hMem
        exact hSql
      apply hCompiled.bind
      intro condition hCondition
      exact Keeps.pure (hClause condition hCondition)

theorem joinClauses_readable
    {joins : List Join}
    (hNaming : naming.HasIdentifiers)
    (hJoins : ∀ j ∈ joins, j.HasIdentifiers)
    (aliases : AliasMap) :
    Keeps ParameterSet.HasIdentifiers (joinClauses naming aliases joins)
      fun x => ∀ clause ∈ x.1, clause.IsReadable d := by
  induction joins generalizing aliases with
  | nil => exact Keeps.pure nofun
  | cons j joins ih =>
      rw [List.forall_mem_cons] at hJoins
      unfold joinClauses
      apply (Join.clause_readable hNaming hJoins.1 aliases).bind
      rintro ⟨clause, aliases₁⟩ hClause
      apply (ih hJoins.2 aliases₁).bind
      rintro ⟨clauses, aliases₂⟩ hClauses
      exact Keeps.pure (List.forall_mem_cons.mpr ⟨hClause, hClauses⟩)

theorem joinedColumns_isClean
    {joins : List Join}
    (hJoins : ∀ j ∈ joins, j.HasIdentifiers)
    (clauses : List JoinClause) :
    ∀ c ∈ joinedColumns joins clauses, c.IsClean d := by
  intro c hMem
  rcases List.mem_flatMap.mp hMem with ⟨⟨j, clause⟩, hZip, hIn⟩
  have hJoin := hJoins j (List.of_mem_zip hZip).1
  exact EntityType.aliasedColumns_isClean hJoin.target _ c hIn

theorem Scope.orderItems_isPlain
    {scope : Scope}
    {ordering : List OrderBy}
    {items : List OrderItem}
    (hOrdering : ∀ o ∈ ordering, IsIdentifier o.column.column)
    (hItems : scope.orderItems ordering = .ok items) :
    ∀ item ∈ items, d.IsPlain item.column.column := by
  intro item hMem
  rcases exists_mem_of_forall₂ (mapM_eq_ok_iff.mp hItems) hMem with
    ⟨o, hIn, hItem⟩
  cases hColumn : scope.column o.column with
  | error e =>
      rw [hColumn] at hItem
      cases hItem
  | ok column =>
      rw [hColumn] at hItem
      cases hItem
      exact column_isPlain (hOrdering o hIn) hColumn

/- The orders of a join add nothing but the key of the root. -/
theorem mem_rootOrder
    {a : TableAlias}
    {key : ColumnExpr}
    {items : List OrderItem}
    {item : OrderItem}
    (hMem : item ∈ rootOrder a key items) :
    item ∈ items ∨ item.column = key := by
  unfold rootOrder at hMem
  split at hMem
  · exact Or.inl (List.mem_filter.mp hMem).1
  · rcases List.mem_append.mp hMem with hRoot | hKey
    · exact Or.inl (List.mem_filter.mp hRoot).1
    · rw [List.mem_singleton.mp hKey]
      exact Or.inr rfl

theorem mem_joinedOrder
    {a : TableAlias}
    {key : ColumnExpr}
    {items : List OrderItem}
    {item : OrderItem}
    (hMem : item ∈ joinedOrder a key items) :
    item ∈ items ∨ item.column = key := by
  unfold joinedOrder at hMem
  dsimp only at hMem
  split at hMem
  · exact Or.inl hMem
  · split at hMem
    · rcases List.mem_append.mp hMem with hItem | hKey
      · exact Or.inl hItem
      · rw [List.mem_singleton.mp hKey]
        exact Or.inr rfl
    · rcases List.mem_append.mp hMem with hFront | hRest
      · rcases List.mem_append.mp hFront with hLeading | hKey
        · exact Or.inl (List.takeWhile_subset _ hLeading)
        · rw [List.mem_singleton.mp hKey]
          exact Or.inr rfl
      · exact Or.inl (List.dropWhile_subset _ hRest)

theorem EntityType.isIdentifier_identityColumn
    {e : EntityType}
    {column : String}
    (hEntity : e.HasIdentifiers)
    (hColumn : e.identityColumn = .ok column) :
    IsIdentifier column := by
  rcases identityColumn_eq_ok_iff.mp hColumn with ⟨i, hIndex, rfl⟩
  unfold identityIndex? at hIndex
  rcases List.findIdx?_eq_some_iff_getElem.mp hIndex with
    ⟨hBound, _⟩
  have hLength : i < e.columns.length := by
    simpa [columns] using hBound
  apply hEntity.columns
  rw [List.getD_eq_getElem _ _ hLength]
  exact List.getElem_mem hLength

namespace Query

variable {q : Query}

theorem planFlat_readable
    (hNaming : naming.HasIdentifiers)
    (hQuery : q.HasIdentifiers) :
    Keeps ParameterSet.HasIdentifiers (q.planFlat naming)
      fun plan => plan.IsReadable d := by
  unfold planFlat
  apply (Scope.compileList_readable hQuery.filters).bind
  intro filters hFilters
  apply (Keeps.liftM _).bind
  intro order hOrder
  apply Keeps.pure
  exact
    { table := EntityType.sealed_tableName hNaming hQuery.root
      key := nofun
      roots := nofun
      joins := nofun
      columns := EntityType.bareColumns_isClean hQuery.root
      filters := hFilters
      order := Scope.orderItems_isPlain hQuery.ordering hOrder }

theorem planJoined_readable
    (hNaming : naming.HasIdentifiers)
    (hQuery : q.HasIdentifiers) :
    Keeps ParameterSet.HasIdentifiers (q.planJoined naming)
      fun plan => plan.IsReadable d := by
  unfold planJoined
  apply (Keeps.liftM _).bind
  intro keyColumn hKeyColumn
  have hKey : d.IsPlain keyColumn :=
    Dialect.isPlain_of_isIdentifier
      (EntityType.isIdentifier_identityColumn hQuery.root hKeyColumn)
  apply (joinClauses_readable hNaming hQuery.joins _).bind
  rintro ⟨clauses, aliases⟩ hClauses
  apply (Scope.compileList_readable hQuery.filters).bind
  intro filters hFilters
  apply (Keeps.liftM _).bind
  intro items hItems
  have hPlain (item : OrderItem)
      (hFrom : item ∈ items ∨
        item.column =
          .qualified (AliasMap.empty.assign q.root.key).1 keyColumn) :
      d.IsPlain item.column.column := by
    rcases hFrom with hItem | hIsKey
    · exact Scope.orderItems_isPlain hQuery.ordering hItems item hItem
    · rw [hIsKey]
      exact hKey
  apply Keeps.pure
  constructor
  case table => exact EntityType.sealed_tableName hNaming hQuery.root
  case key =>
    intro r hMem
    cases hMem
    exact hKey
  case roots =>
    intro r hMem item hItem
    cases hMem
    exact hPlain item (mem_rootOrder hItem)
  case joins => exact hClauses
  case columns =>
    intro c hMem
    rcases List.mem_append.mp hMem with hRoot | hJoined
    · exact EntityType.aliasedColumns_isClean hQuery.root _ c hRoot
    · exact joinedColumns_isClean hQuery.joins clauses c hJoined
  case filters => exact hFilters
  case order =>
    intro item hItem
    exact hPlain item (mem_joinedOrder hItem)

theorem plan_readable
    (hNaming : naming.HasIdentifiers)
    (hQuery : q.HasIdentifiers) :
    Keeps ParameterSet.HasIdentifiers (q.plan naming)
      fun plan => plan.IsReadable d := by
  unfold Query.plan
  split
  · exact planJoined_readable hNaming hQuery
  · exact planFlat_readable hNaming hQuery

end Query

------------------------------------------------------------
-- Commands
------------------------------------------------------------

theorem bindCell_isClean
    {column : String}
    (hColumn : IsIdentifier column)
    (v : Value) :
    Keeps ParameterSet.HasIdentifiers (bindCell column v)
      fun cell => cell.IsClean d := by
  unfold bindCell
  apply (bindValue_identifiers hColumn v).bind
  intro p hName
  exact Keeps.pure ⟨Dialect.isPlain_of_isIdentifier hColumn, hName⟩

theorem Record.bindFields_isClean
    {r : Record}
    (hType : r.type.HasIdentifiers)
    (identity : Nat) :
    Keeps ParameterSet.HasIdentifiers (r.bindFields identity)
      fun cells => ∀ c ∈ cells, c.IsClean d := by
  apply Keeps.mapM
  rintro ⟨column, i⟩ hMem
  apply bindCell_isClean
  apply hType.columns
  exact List.fst_mem_of_mem_zipIdx (List.mem_filter.mp hMem).1

theorem Record.bindKey_isClean
    {r : Record}
    (hType : r.type.HasIdentifiers) :
    Keeps ParameterSet.HasIdentifiers r.bindKey
      fun cell => cell.IsClean d := by
  unfold bindKey
  apply (Keeps.liftM _).bind
  intro column hColumn
  apply (Keeps.liftM _).bind
  intro v _
  exact bindCell_isClean
    (EntityType.isIdentifier_identityColumn hType hColumn) v

theorem Patch.bindCells_isClean
    {patch : Patch}
    (hPatch : ∀ x ∈ patch.assignments, IsIdentifier x.1)
    (e : EntityType) :
    Keeps ParameterSet.HasIdentifiers (patch.bindCells e)
      fun cells => ∀ c ∈ cells, c.IsClean d := by
  apply Keeps.mapM
  rintro ⟨column, v⟩ hMem
  dsimp only
  split
  · exact Keeps.refuse _
  · exact bindCell_isClean (hPatch _ hMem) v

theorem EntityType.keyQuery_hasIdentifiers
    {e : EntityType}
    {key : Value}
    {q : Query}
    (hEntity : e.HasIdentifiers)
    (hQuery : e.keyQuery key = .ok q) :
    q.HasIdentifiers := by
  unfold keyQuery at hQuery
  cases hColumn : e.identityColumn with
  | error cause =>
      rw [hColumn] at hQuery
      cases hQuery
  | ok column =>
      rw [hColumn] at hQuery
      cases hQuery
      have hName := isIdentifier_identityColumn hEntity hColumn
      constructor
      case root => exact hEntity
      case filters =>
        intro p hMem
        rw [List.mem_singleton.mp hMem]
        exact ⟨hName, trivial⟩
      case ordering => exact nofun
      case joins => exact nofun

namespace Request

theorem command_readable
    {request : Request}
    (hNaming : naming.HasIdentifiers)
    (hRequest : request.HasIdentifiers) :
    Keeps ParameterSet.HasIdentifiers (request.command naming)
      fun command => command.IsReadable d := by
  cases request with
  | insert r =>
      apply (Keeps.liftM _).bind
      intro identity _
      apply (Record.bindFields_isClean hRequest identity).bind
      intro cells hCells
      apply (Keeps.liftM _).bind
      intro column hColumn
      apply Keeps.pure
      refine ⟨EntityType.sealed_tableName hNaming hRequest, hCells, ?_⟩
      apply Dialect.isPlain_of_isIdentifier
      exact EntityType.isIdentifier_identityColumn hRequest hColumn
  | update r =>
      apply (Keeps.liftM _).bind
      intro identity _
      apply (Record.bindFields_isClean hRequest identity).bind
      intro cells hCells
      split
      · exact Keeps.refuse _
      · apply (Record.bindKey_isClean hRequest).bind
        intro key hKey
        apply Keeps.pure
        exact ⟨EntityType.sealed_tableName hNaming hRequest, hCells,
          hKey⟩
  | updateWhere e patch p =>
      rcases hRequest with ⟨hEntity, hPatch, hPredicate⟩
      simp only [Request.command]
      split
      · exact Keeps.refuse _
      · apply (Patch.bindCells_isClean hPatch e).bind
        intro cells hCells
        apply (Scope.compile_readable hPredicate).bind
        intro rows hRows
        apply Keeps.pure
        exact ⟨EntityType.sealed_tableName hNaming hEntity, hCells,
          hRows⟩
  | delete r =>
      apply (Record.bindKey_isClean hRequest).bind
      intro key hKey
      apply Keeps.pure
      exact ⟨EntityType.sealed_tableName hNaming hRequest, hKey⟩
  | deleteWhere e p =>
      rcases hRequest with ⟨hEntity, hPredicate⟩
      apply (Scope.compile_readable hPredicate).bind
      intro rows hRows
      apply Keeps.pure
      exact ⟨EntityType.sealed_tableName hNaming hEntity, hRows⟩
  | selectByKey e key =>
      apply (Keeps.liftM _).bind
      intro q hQuery
      apply (Query.plan_readable hNaming
        (EntityType.keyQuery_hasIdentifiers hRequest hQuery)).bind
      intro plan hPlan
      exact Keeps.pure hPlan
  | select q =>
      apply (Keeps.liftM _).bind
      intro page _
      apply (Query.plan_readable hNaming hRequest).bind
      intro plan hPlan
      exact Keeps.pure hPlan
  | count q =>
      apply (Query.plan_readable hNaming hRequest).bind
      intro plan hPlan
      exact Keeps.pure hPlan
  | selectWithCount q =>
      apply (Keeps.liftM _).bind
      intro page _
      apply (Query.plan_readable hNaming hRequest).bind
      intro plan hPlan
      exact Keeps.pure hPlan

end Request

------------------------------------------------------------
-- Numbered statements
------------------------------------------------------------

/- The value in the place of a name is the one bound to it. -/
theorem getElem?_idxOf_name
    (params : List Parameter)
    (name : String) :
    (params.map Parameter.value)[
        (params.map Parameter.name).idxOf name]? =
      (params.find? fun p => p.name == name).map
        Parameter.value := by
  induction params with
  | nil => rfl
  | cons p params ih =>
      simp only [List.map_cons, List.idxOf_cons, List.find?_cons]
      by_cases hHere : p.name = name
      · simp [hHere]
      · have hDiffer : (p.name == name) = false := by
          simpa using hHere
        simp only [hDiffer, cond_false, List.getElem?_cons_succ]
        exact ih

/- The placeholders of a command are the names it has bound. -/
theorem Command.mem_placeholders_iff
    {params : List Parameter}
    {supply : List (String × Value)}
    (command : Command)
    (hFills :
      ParameterSet.Fills .empty ⟨params⟩ command.places supply)
    (d : Dialect)
    (name : String) :
    name ∈ (command.sql d).placeholders ↔
      name ∈ params.map Parameter.name := by
  rw [command.placeholders_sql d]
  constructor
  · exact hFills.mem_names
  · intro hName
    rcases List.mem_map.mp hName with ⟨p, hMem, rfl⟩
    rcases hFills.placed p hMem with hOld | hPlaced
    · cases hOld
    · exact hPlaced

/-
  A statement whose tables and columns are identifiers, for a
  driver that binds by position. Its text is the one that has
  the position of a parameter wherever the generator writes a
  placeholder; no mark is left, and every position occurs. The
  values are those of the parameters, so that every place gets
  the value that is bound under its name.
-/
theorem Request.numbered_statement_binds_alike
    {request : Request}
    {st : Statement}
    (hNaming : naming.HasIdentifiers)
    (hRequest : request.HasIdentifiers)
    (hStatement : request.statement naming d = .ok st) :
    ∃ command,
      request.draft naming = .ok ⟨command, st.params⟩ ∧
      st.sql = (command.sql d).text d ∧
      (st.params.map Parameter.name).Nodup ∧
      (st.numbered d).1 =
        (command.sql d).numberedText d
          (st.params.map Parameter.name) ∧
      d.placeholderMark ∉ (st.numbered d).1.toList ∧
      (∀ i, 1 ≤ i → i ≤ st.params.length →
        ∃ before after,
          (st.numbered d).1 =
            before ++ "$" ++ toString i ++ after ∧
          ∀ c ∈ after.toList.head?, Text.isWordChar c = false) ∧
      (st.numbered d).2 = st.params.map Parameter.value ∧
      ∀ name ∈ (command.sql d).placeholders,
        name ∈ st.params.map Parameter.name ∧
        (st.numbered d).2[
            (st.params.map Parameter.name).idxOf name]? =
          st.param? name := by
  rcases Request.exists_yields_of_statement hStatement with
    ⟨command, params, hYields, rfl⟩
  have hFills := command_fills hYields
  have hNodup : (params.map Parameter.name).Nodup :=
    hFills.distinct List.nodup_nil
  have hNames := command.mem_placeholders_iff hFills d
  have hKnown : ∀ name ∈ (command.sql d).placeholders,
      name ∈ params.map Parameter.name :=
    fun name => (hNames name).mp
  have hCommand : command.IsReadable d :=
    (command_readable hNaming hRequest _ _ _
      ParameterSet.hasIdentifiers_empty hYields).2
  have hReadable := Command.readable_sql hCommand
  have hText :
      ((Draft.mk command params).statement d |>.numbered d).1 =
        (command.sql d).numberedText d
          (params.map Parameter.name) := by
    have hScan := Sql.numberedChars_text hReadable hKnown
    simp only [Statement.numbered, Draft.statement, hScan,
      String.ofList_toList]
  refine ⟨command, Request.draft_eq_ok_iff.mpr hYields, rfl, hNodup,
    hText, ?_, ?_, rfl, ?_⟩
  · rw [hText]
    exact Sql.mark_notMem_numberedText hReadable.clean
  · intro i hPositive hBound
    obtain ⟨k, rfl⟩ : ∃ k, i = k + 1 := ⟨i - 1, by omega⟩
    have hIndex : k < (params.map Parameter.name).length := by
      rw [List.length_map]
      exact hBound
    have hPlaced : (params.map Parameter.name)[k] ∈
        (command.sql d).placeholders :=
      (hNames _).mpr (List.getElem_mem hIndex)
    rw [hText, ← hNodup.idxOf_getElem k hIndex]
    exact Sql.exists_numberedText_eq hReadable.parted hPlaced
  · intro name hPlaced
    exact ⟨hKnown name hPlaced, getElem?_idxOf_name params name⟩

/-
  UPDATE with the names a, a2 and a22, of which each begins
  with the one before.
-/
theorem Request.numbered_update_binds_alike :
    let column (name : String) : Property :=
      { column := name, declaredType := "i64",
        type := ⟨.integer .int64, false⟩ }
    let doc : EntityType :=
      { key := ⟨0, "Doc"⟩, table := "doc", schema := some "main",
        properties := [column "a", column "a2"] }
    let a2 := ColumnRef.of doc "a2"
    let request : Request :=
      .updateWhere doc ⟨[("a", .int 1), ("a2", .int 2)]⟩
        (.or (a2.isIn [.int 1, .null]) (a2.compareValue .lt (.int 3)))
    let st : Statement :=
      { sql :=
          "UPDATE [main].[doc] SET [a] = @a, [a2] = @a2 WHERE " ++
          "(([a2] IN (@a2_InParam_1, @a2_InParam_2)) OR " ++
          "([a2] < @a22))"
        params :=
          [⟨"a", .int 1⟩, ⟨"a2", .int 2⟩, ⟨"a2_InParam_1", .int 1⟩,
            ⟨"a2_InParam_2", .null⟩, ⟨"a22", .int 3⟩]
        kind := .update }
    let d := Dialect.sqlServer
    request.HasIdentifiers ∧
      request.statement {} d = .ok st ∧
      ∃ command,
        request.draft {} = .ok ⟨command, st.params⟩ ∧
        st.sql = (command.sql d).text d ∧
        (st.params.map Parameter.name).Nodup ∧
        (st.numbered d).1 =
          (command.sql d).numberedText d
            (st.params.map Parameter.name) ∧
        d.placeholderMark ∉ (st.numbered d).1.toList ∧
        (∀ i, 1 ≤ i → i ≤ st.params.length →
          ∃ before after,
            (st.numbered d).1 =
              before ++ "$" ++ toString i ++ after ∧
            ∀ c ∈ after.toList.head?, Text.isWordChar c = false) ∧
        (st.numbered d).2 = st.params.map Parameter.value ∧
        ∀ name ∈ (command.sql d).placeholders,
          name ∈ st.params.map Parameter.name ∧
          (st.numbered d).2[
              (st.params.map Parameter.name).idxOf name]? =
            st.param? name := by
  intro column doc a2 request st d
  have hMain : IsIdentifier "main" :=
    .of_isAlphanum (by decide) (by decide)
  have hDoc : IsIdentifier "doc" :=
    .of_isAlphanum (by decide) (by decide)
  have hA : IsIdentifier "a" :=
    .of_isAlphanum (by decide) (by decide)
  have hA2 : IsIdentifier "a2" :=
    .of_isAlphanum (by decide) (by decide)
  have hEntity : doc.HasIdentifiers := by
    constructor
    case table => exact hDoc
    case schema =>
      intro schema hMem
      cases hMem
      exact hMain
    case columns =>
      simp [doc, column, EntityType.columns, hA, hA2]
  have hRequest : request.HasIdentifiers := by
    refine ⟨hEntity, ?_, ⟨hA2, trivial⟩, ⟨hA2, trivial⟩⟩
    simp [hA, hA2]
  have hStatement : request.statement {} d = .ok st := by
    decide +kernel
  exact ⟨hRequest, hStatement,
    Request.numbered_statement_binds_alike ⟨nofun, nofun⟩ hRequest
      hStatement⟩

end EntitySql
