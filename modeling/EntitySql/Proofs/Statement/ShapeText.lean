import EntitySql.Proofs.Statement.Parameters
import EntitySql.Proofs.Statement.PredicateText

/-
  The shape of a request fixes the text of its statement, up to
  which of its values are equal.

  Key definitions include:
    * `JoinClause.SameText`, `SelectPlan.SameText`
    * `Command.SameText`

  Key theorems include:
    * `SelectPlan.SameText.selectSql_eq`
    * `Query.plan_twins`
    * `Request.command_twins`
    * `Request.statement_text_fixed_by_shape`

  Values go into parameters only. What is left of them in the
  text is whether they are NULL, which belongs to the shape,
  and under which names they are bound.
-/

namespace EntitySql

open Binding

variable {inStep : Prop}

------------------------------------------------------------
-- Joins
------------------------------------------------------------

/- Clauses that join the same alias by the same SQL. -/
structure JoinClause.SameText
    (c c' : JoinClause) : Prop where
  alias_eq : c.tableAlias = c'.tableAlias
  sql_eq : c.sql = c'.sql

theorem Join.clause_twins
    {j j' : Join}
    (hShape : j.SameShape j')
    (naming : TableNaming)
    (aliases : AliasMap) :
    Twins inStep (j.clause naming aliases)
      (j'.clause naming aliases)
      ((j.condition.toList.flatMap Predicate.supplied).map
        Prod.snd)
      ((j'.condition.toList.flatMap Predicate.supplied).map
        Prod.snd)
      fun x x' =>
        x.2 = x'.2 ∧ (inStep → x.1.SameText x'.1) := by
  rcases j with
    ⟨kind, target, sourceColumn, destColumn, source, condition⟩
  rcases j' with
    ⟨kind', target', sourceColumn', destColumn', source',
      condition'⟩
  rcases hShape with ⟨rfl, rfl, rfl, rfl, rfl, hCondition⟩
  unfold Join.clause
  apply (Twins.liftM _).bindSilent
  rintro a _ ⟨_, rfl⟩
  cases hCondition with
  | none =>
      simp only [pure_bind]
      exact Twins.pure ⟨rfl, fun _ => ⟨rfl, rfl⟩⟩
  | some hShape =>
      simp only [Option.toList_some, List.flatMap_singleton]
      have hCompiled :=
        Scope.compile_twins inStep
          (.aliased (aliases.assign target.key).2) hShape
      simp only [bind_map_left]
      apply hCompiled.bindPure
      intro compiled compiled' hSame
      refine ⟨rfl, fun hIn => ⟨rfl, ?_⟩⟩
      simp only [JoinClause.sql, hSame hIn]

theorem joinClauses_twins
    {joins joins' : List Join}
    (hShape : List.Forall₂ Join.SameShape joins joins')
    (naming : TableNaming)
    (aliases : AliasMap) :
    Twins inStep (joinClauses naming aliases joins)
      (joinClauses naming aliases joins')
      ((joins.flatMap fun j =>
        j.condition.toList.flatMap Predicate.supplied).map
          Prod.snd)
      ((joins'.flatMap fun j =>
        j.condition.toList.flatMap Predicate.supplied).map
          Prod.snd)
      fun x x' =>
        x.2 = x'.2 ∧
          List.Forall₂
            (fun c c' => inStep → JoinClause.SameText c c')
            x.1 x'.1 := by
  induction hShape generalizing aliases with
  | nil => exact Twins.pure ⟨rfl, .nil⟩
  | cons hFirst _ ih =>
      simp only [joinClauses, List.flatMap_cons, List.map_append]
      apply (Join.clause_twins hFirst naming aliases).bind
      rintro ⟨clause, aliases⟩ ⟨clause', _⟩ ⟨rfl, hClause⟩
      apply (ih aliases).bindPure
      rintro ⟨clauses, aliases⟩ ⟨clauses', _⟩ ⟨rfl, hClauses⟩
      exact ⟨rfl, .cons hClause hClauses⟩

------------------------------------------------------------
-- Plans
------------------------------------------------------------

/- Equal images, from elements that are related one by one. -/
theorem map_eq_of_forall₂
    {α β : Type}
    {related : α → α → Prop}
    {f : α → β}
    (hEach : ∀ x x', related x x' → f x = f x')
    {xs xs' : List α}
    (hRelated : List.Forall₂ related xs xs') :
    xs.map f = xs'.map f := by
  induction hRelated with
  | nil => rfl
  | cons hFirst _ ih =>
      rw [List.map_cons, List.map_cons, hEach _ _ hFirst, ih]

/- Plans that differ at most in the values of parameters. -/
structure SelectPlan.SameText
    (plan plan' : SelectPlan) : Prop where
  table_eq : plan.table = plan'.table
  ranking_eq : plan.ranking = plan'.ranking
  columns_eq : plan.columns = plan'.columns
  order_eq : plan.order = plan'.order
  joins_eq :
    plan.joins.map JoinClause.sql = plan'.joins.map JoinClause.sql
  filters_eq :
    plan.filters.map CompiledPredicate.sql =
      plan'.filters.map CompiledPredicate.sql

namespace SelectPlan.SameText

variable {plan plan' : SelectPlan}

theorem tailSql_eq
    (hSame : plan.SameText plan') :
    plan.tailSql = plan'.tailSql := by
  have hEmpty : plan.filters.isEmpty = plan'.filters.isEmpty := by
    have hMapped := congrArg List.isEmpty hSame.filters_eq
    simpa using hMapped
  have hConjunction :
      conjunctionSql plan.filters = conjunctionSql plan'.filters := by
    have hMapped :=
      congrArg (List.map Sql.parenthesized) hSame.filters_eq
    simp only [List.map_map, Function.comp_def] at hMapped
    unfold conjunctionSql
    rw [hMapped]
  have hJoins :
      plan.joins.flatMap JoinClause.sql =
        plan'.joins.flatMap JoinClause.sql := by
    rw [List.flatMap_def, List.flatMap_def, hSame.joins_eq]
  unfold tailSql
  rw [hSame.table_eq, hSame.ranking_eq, hJoins, hEmpty,
    hConjunction]

theorem columnsSql_eq
    (hSame : plan.SameText plan') :
    plan.columnsSql = plan'.columnsSql := by
  unfold columnsSql
  rw [hSame.columns_eq]

theorem labelsSql_eq
    (hSame : plan.SameText plan') :
    plan.labelsSql = plan'.labelsSql := by
  unfold labelsSql
  rw [hSame.columns_eq]

/- Every way to cut a page writes the same SQL. -/
theorem selectSql_eq
    (hSame : plan.SameText plan')
    (d : Dialect)
    (page : Option Page) :
    plan.selectSql d page = plan'.selectSql d page := by
  have hTail := hSame.tailSql_eq
  have hColumns := hSame.columnsSql_eq
  have hLabels := hSame.labelsSql_eq
  have hOrder := hSame.order_eq
  unfold selectSql
  cases page with
  | none =>
      unfold unpagedSql
      rw [hTail, hColumns, hOrder]
  | some page =>
      rw [hSame.ranking_eq]
      cases plan'.ranking with
      | some ranking =>
          change plan.rankedSql ranking page = plan'.rankedSql ranking page
          unfold rankedSql
          rw [hTail, hColumns, hLabels, hOrder]
      | none =>
          cases d.pageStyle with
          | limitOffset =>
              change plan.limitedSql page = plan'.limitedSql page
              unfold limitedSql
              rw [hTail, hColumns, hOrder]
          | rowNumber =>
              change plan.rowNumberedSql page = plan'.rowNumberedSql page
              unfold rowNumberedSql
              rw [hTail, hColumns, hLabels, hOrder]

theorem countSql_eq
    (hSame : plan.SameText plan') :
    plan.countSql = plan'.countSql := by
  unfold countSql
  rw [hSame.ranking_eq, hSame.tailSql_eq]

end SelectPlan.SameText

/- The select list needs the targets and aliases of joins only. -/
theorem joinedColumns_eq
    {joins joins' : List Join}
    {clauses clauses' : List JoinClause}
    (hJoins : List.Forall₂ Join.SameShape joins joins')
    (hClauses : List.Forall₂ JoinClause.SameText clauses clauses') :
    joinedColumns joins clauses = joinedColumns joins' clauses' := by
  unfold joinedColumns
  induction hJoins generalizing clauses clauses' with
  | nil => rfl
  | cons hJoin _ ih =>
      cases hClauses with
      | nil => rfl
      | cons hClause hRest =>
          simp only [List.zip_cons_cons, List.flatMap_cons,
            hJoin.target_eq, hClause.alias_eq, ih hRest]

namespace Query

variable {q q' : Query}

theorem planFlat_twins
    (inStep : Prop)
    (hShape : q.SameShape q')
    (hFlat : q.joins = [])
    (naming : TableNaming) :
    Twins inStep (q.planFlat naming) (q'.planFlat naming)
      (q.supplied.map Prod.snd) (q'.supplied.map Prod.snd)
      fun plan plan' => inStep → plan.SameText plan' := by
  have hFlat' : q'.joins = [] := by
    have hJoins := hShape.joins_shape
    rw [hFlat] at hJoins
    exact List.forall₂_nil_left_iff.mp hJoins
  have hFilters :=
    Scope.compileList_twins inStep (Scope.table q.root.key)
      hShape.filters_shape
  unfold planFlat supplied
  simp only [hFlat, hFlat', List.flatMap_nil, List.nil_append,
    ← hShape.root_eq, ← hShape.ordering_eq]
  apply hFilters.bindLast
  intro filters filters' hSame
  apply (Twins.liftM _).bindPure
  rintro order _ ⟨_, rfl⟩ hIn
  constructor
  case filters_eq =>
    exact map_eq_of_forall₂ (fun _ _ hEach => hEach hIn) hSame
  all_goals rfl

theorem planJoined_twins
    (inStep : Prop)
    (hShape : q.SameShape q')
    (naming : TableNaming) :
    Twins inStep (q.planJoined naming) (q'.planJoined naming)
      (q.supplied.map Prod.snd) (q'.supplied.map Prod.snd)
      fun plan plan' => inStep → plan.SameText plan' := by
  unfold planJoined supplied
  simp only [List.map_append, ← hShape.root_eq,
    ← hShape.ordering_eq]
  apply (Twins.liftM _).bindSilent
  rintro keyColumn _ ⟨_, rfl⟩
  apply (joinClauses_twins hShape.joins_shape naming _).bind
  rintro ⟨clauses, aliases⟩ ⟨clauses', _⟩ ⟨rfl, hClauses⟩
  apply (Scope.compileList_twins inStep (.aliased aliases)
    hShape.filters_shape).bindLast
  intro filters filters' hSame
  apply (Twins.liftM _).bindPure
  rintro items _ ⟨_, rfl⟩ hIn
  have hEach : List.Forall₂ JoinClause.SameText clauses clauses' :=
    hClauses.imp fun _ _ hClause => hClause hIn
  constructor
  case filters_eq =>
    exact map_eq_of_forall₂ (fun _ _ hEach => hEach hIn) hSame
  case joins_eq =>
    exact map_eq_of_forall₂ (fun _ _ hClause => hClause.sql_eq)
      hEach
  case columns_eq =>
    simp only [joinedColumns_eq hShape.joins_shape hEach]
  all_goals rfl

theorem plan_twins
    (inStep : Prop)
    (hShape : q.SameShape q')
    (naming : TableNaming) :
    Twins inStep (q.plan naming) (q'.plan naming)
      (q.supplied.map Prod.snd) (q'.supplied.map Prod.snd)
      fun plan plan' => inStep → plan.SameText plan' := by
  have hLength := hShape.joins_shape.length_eq
  have hJoined : q.isJoined = q'.isJoined := by
    unfold isJoined
    cases hJoins : q.joins <;> cases hJoins' : q'.joins <;>
      simp [hJoins, hJoins'] at hLength ⊢
  unfold plan
  rw [← hJoined]
  by_cases hJoins : q.isJoined = true
  · rw [if_pos hJoins, if_pos hJoins]
    exact planJoined_twins inStep hShape naming
  · rw [if_neg hJoins, if_neg hJoins]
    exact planFlat_twins inStep hShape
      (by simpa [isJoined] using hJoins) naming

end Query

------------------------------------------------------------
-- Cells
------------------------------------------------------------

/- Cells of one column, with one name if the runs are in step. -/
structure Cell.SameColumn
    (inStep : Prop)
    (cell cell' : Cell) : Prop where
  column_eq : cell.column = cell'.column
  eq_of_inStep : inStep → cell = cell'

theorem bindCell_twins
    (column : String)
    (v w : Value) :
    Twins inStep (bindCell column v) (bindCell column w) [v] [w]
      (Cell.SameColumn inStep) := by
  unfold bindCell
  apply (Twins.bindValue column v w).bindPure
  intro p p' hName
  exact ⟨rfl, fun hIn => by rw [hName hIn]⟩

/- Cells that are the same one by one are the same list. -/
theorem cells_eq_of_sameColumn
    {cells cells' : List Cell}
    (hIn : inStep)
    (hSame : List.Forall₂ (Cell.SameColumn inStep) cells cells') :
    cells = cells' := by
  have hEach : List.Forall₂ Eq cells cells' :=
    hSame.imp fun _ _ hCell => hCell.eq_of_inStep hIn
  rwa [List.forall₂_eq_eq_eq] at hEach

/- Cells that are bound one after the other. -/
theorem mapM_cell_twins
    {α : Type}
    {f f' : α → Binding Cell}
    {shape : α → α → Prop}
    (value value' : α → Value)
    (hStep : ∀ x x', shape x x' →
      Twins inStep (f x) (f' x') [value x] [value' x']
        (Cell.SameColumn inStep))
    {inputs inputs' : List α}
    (hShape : List.Forall₂ shape inputs inputs') :
    Twins inStep (inputs.mapM f) (inputs'.mapM f')
      (inputs.map value) (inputs'.map value')
      (List.Forall₂ (Cell.SameColumn inStep)) := by
  have hTwins :=
    Twins.mapM (fun x => [value x]) (fun x => [value' x]) hStep
      hShape
  simpa [← List.map_eq_flatMap] using hTwins

theorem Record.bindFields_twins
    (inStep : Prop)
    {r r' : Record}
    (hType : r.type = r'.type)
    {identity : Nat}
    (hPosition : r.type.identityPosition = .ok identity) :
    Twins inStep (r.bindFields identity) (r'.bindFields identity)
      (r.suppliedFields.map Prod.snd)
      (r'.suppliedFields.map Prod.snd)
      (List.Forall₂ (Cell.SameColumn inStep)) := by
  have hSame (i : Nat) :
      (r.type.identityIndex? != some i) = (i != identity) := by
    rw [EntityType.identityPosition_eq_ok_iff.mp hPosition]
    simp [bne, eq_comm]
  unfold bindFields suppliedFields
  simp only [← hType, hSame, List.map_map, Function.comp_def]
  have hInputs (xs : List (String × Nat)) :
      List.Forall₂ Eq xs xs :=
    List.forall₂_refl xs
  apply mapM_cell_twins (fun x => r.value x.2)
    (fun x => r'.value x.2) _ (hInputs _)
  rintro ⟨column, i⟩ _ rfl
  exact bindCell_twins column _ _

theorem Record.bindKey_twins
    (inStep : Prop)
    {r r' : Record}
    (hType : r.type = r'.type) :
    Twins inStep r.bindKey r'.bindKey
      (r.suppliedKey.map Prod.snd) (r'.suppliedKey.map Prod.snd)
      (Cell.SameColumn inStep) := by
  unfold bindKey suppliedKey identityValue EntityType.identityColumn
    EntityType.identityPosition
  simp only [← hType]
  cases r.type.identityIndex? with
  | none =>
      apply (Twins.liftM _).bindSilent
      rintro _ _ ⟨hColumn, _⟩
      cases hColumn
  | some i => exact bindCell_twins _ (r.value i) (r'.value i)

theorem Patch.bindCells_twins
    (inStep : Prop)
    {patch patch' : Patch}
    (hColumns :
      patch.assignments.map Prod.fst =
        patch'.assignments.map Prod.fst)
    (e : EntityType) :
    Twins inStep (patch.bindCells e) (patch'.bindCells e)
      (patch.assignments.map Prod.snd)
      (patch'.assignments.map Prod.snd)
      (List.Forall₂ (Cell.SameColumn inStep)) := by
  have hShape :
      List.Forall₂
        (fun (x x' : String × Value) => x.1 = x'.1)
        patch.assignments patch'.assignments := by
    rw [← List.forall₂_eq_eq_eq, List.forall₂_map_left_iff,
      List.forall₂_map_right_iff] at hColumns
    exact hColumns
  unfold bindCells
  apply mapM_cell_twins Prod.snd Prod.snd _ hShape
  rintro ⟨column, v⟩ ⟨_, w⟩ rfl
  simp only
  split
  · exact Twins.refuse _ _
  · exact bindCell_twins column v w

------------------------------------------------------------
-- Commands
------------------------------------------------------------

/- Commands of one kind with the same SQL in every dialect. -/
structure Command.SameText
    (command command' : Command) : Prop where
  kind_eq : command.kind = command'.kind
  sql_eq (d : Dialect) : command.sql d = command'.sql d

namespace Request

/- The select by key is a query whose shape shows NULL only. -/
theorem keyQuery_sameShape
    (e : EntityType)
    {key key' : Value}
    (hNull : key.isNull = key'.isNull)
    (column : String) :
    Query.SameShape
      ((Query.of e).filter
        ((ColumnRef.of e column).compareValue .eq key))
      ((Query.of e).filter
        ((ColumnRef.of e column).compareValue .eq key')) := by
  constructor
  case joins_shape => exact .nil
  case filters_shape =>
    refine .cons ?_ .nil
    exact .comparison .eq (.column _) (.value key key')
      (Or.inl rfl) rfl hNull
  all_goals rfl

theorem checkedPage_eq
    {q q' : Query}
    (hShape : q.SameShape q') :
    q.checkedPage = q'.checkedPage := by
  unfold Query.checkedPage
  rw [hShape.page_eq, hShape.ordering_eq]

/- Requests of one shape write their commands as twins. -/
theorem command_twins
    (inStep : Prop)
    {request request' : Request}
    (hShape : request.SameShape request')
    (naming : TableNaming) :
    Twins inStep (request.command naming)
      (request'.command naming) request.bound request'.bound
      fun command command' => inStep → command.SameText command' := by
  cases hShape with
  | @insert r r' hType =>
      simp only [command, ← hType]
      apply (Twins.liftM _).bindSilent
      rintro identity _ ⟨hPosition, rfl⟩
      apply (r.bindFields_twins inStep hType hPosition).bindLast
      intro cells cells' hSame
      apply (Twins.liftM _).bindPure
      rintro column _ ⟨_, rfl⟩ hIn
      rw [cells_eq_of_sameColumn hIn hSame]
      exact ⟨rfl, fun _ => rfl⟩
  | @update r r' hType =>
      simp only [command, bound, supplied, ← hType, List.map_append]
      apply (Twins.liftM _).bindSilent
      rintro identity _ ⟨hPosition, rfl⟩
      apply (r.bindFields_twins inStep hType hPosition).bind
      intro cells cells' hSame
      have hEmpty : cells.isEmpty = cells'.isEmpty := by
        have hLength := hSame.length_eq
        cases cells <;> cases cells' <;> simp at hLength ⊢
      rw [← hEmpty]
      by_cases hNone : cells.isEmpty = true
      · rw [if_pos hNone, if_pos hNone]
        exact Twins.refuse _ _
      · rw [if_neg hNone, if_neg hNone]
        apply (r.bindKey_twins inStep hType).bindPure
        intro key key' hKey hIn
        rw [cells_eq_of_sameColumn hIn hSame, hKey.eq_of_inStep hIn]
        exact ⟨rfl, fun _ => rfl⟩
  | @updateWhere e patch patch' p p' hColumns hPredicate =>
      have hEmpty :
          patch.assignments.isEmpty = patch'.assignments.isEmpty := by
        have hMapped := congrArg List.isEmpty hColumns
        simpa using hMapped
      simp only [command, bound, supplied, List.map_append, ← hEmpty]
      by_cases hNone : patch.assignments.isEmpty = true
      · rw [if_pos hNone, if_pos hNone]
        exact Twins.refuse _ _
      · rw [if_neg hNone, if_neg hNone]
        apply (patch.bindCells_twins inStep hColumns e).bind
        intro cells cells' hSame
        apply (Scope.compile_twins inStep _ hPredicate).bindPure
        intro rows rows' hRows hIn
        rw [cells_eq_of_sameColumn hIn hSame]
        refine ⟨rfl, fun d => ?_⟩
        simp only [Command.sql, RowFilter.sql, hRows hIn]
  | @delete r r' hType =>
      simp only [command, ← hType]
      apply (r.bindKey_twins inStep hType).bindPure
      intro key key' hKey hIn
      rw [hKey.eq_of_inStep hIn]
      exact ⟨rfl, fun _ => rfl⟩
  | deleteWhere e hPredicate =>
      apply (Scope.compile_twins inStep _ hPredicate).bindPure
      intro rows rows' hSame hIn
      refine ⟨rfl, fun d => ?_⟩
      simp only [Command.sql, RowFilter.sql, hSame hIn]
  | @selectByKey e key key' hNull =>
      cases hColumn : e.identityColumn with
      | error cause =>
          simp only [command, EntityType.keyQuery, hColumn]
          apply (Twins.liftM (.error cause)).bindSilent
          rintro _ _ ⟨hFailed, _⟩
          cases hFailed
      | ok column =>
          have hQuery (v : Value) :
              e.keyQuery v =
                .ok ((Query.of e).filter
                  ((ColumnRef.of e column).compareValue .eq v)) := by
            simp only [EntityType.keyQuery, hColumn]
            rfl
          have hPlan :=
            Query.plan_twins inStep
              (keyQuery_sameShape e hNull column) naming
          rw [keyQuery_supplied (hQuery key),
            keyQuery_supplied (hQuery key')] at hPlan
          simp only [command, hQuery]
          apply hPlan.bindPure
          intro plan plan' hSame hIn
          exact ⟨rfl, fun d => (hSame hIn).selectSql_eq d none⟩
  | @select q q' hQuery =>
      simp only [command, checkedPage_eq hQuery]
      apply (Twins.liftM _).bindSilent
      rintro page _ ⟨_, rfl⟩
      apply (Query.plan_twins inStep hQuery naming).bindPure
      intro plan plan' hSame hIn
      exact ⟨rfl, fun d => (hSame hIn).selectSql_eq d page⟩
  | count hQuery =>
      apply (Query.plan_twins inStep hQuery naming).bindPure
      intro plan plan' hSame hIn
      exact ⟨rfl, fun d => (hSame hIn).countSql_eq⟩
  | @selectWithCount q q' hQuery =>
      simp only [command, checkedPage_eq hQuery]
      apply (Twins.liftM _).bindSilent
      rintro page _ ⟨_, rfl⟩
      apply (Query.plan_twins inStep hQuery naming).bindPure
      intro plan plan' hSame hIn
      refine ⟨rfl, fun d => ?_⟩
      simp only [Command.sql, (hSame hIn).selectSql_eq d page,
        (hSame hIn).countSql_eq]

/- No statement is written for a command that fails. -/
theorem statement_of_fails
    {request : Request}
    {naming : TableNaming}
    (hFails : (request.command naming).Fails .empty)
    (d : Dialect)
    (st : Statement) :
    request.statement naming d ≠ .ok st := by
  intro hStatement
  rcases hFails with ⟨e, after, hRun⟩
  rcases exists_yields_of_statement hStatement with
    ⟨command, params, hYields, _⟩
  cases hRun.symm.trans hYields

/-
  Requests of one shape both have a statement or both have
  none. If their values are equal in the same places, the two
  statements have the same text, and their parameters have the
  same names in the same order.
-/
theorem statement_text_fixed_by_shape
    {request request' : Request}
    (hShape : request.SameShape request')
    (naming : TableNaming)
    (d : Dialect) :
    ((∃ st, request.statement naming d = .ok st) ↔
      ∃ st, request'.statement naming d = .ok st) ∧
    (EqualAlike request.bound request'.bound →
      ∀ st st',
        request.statement naming d = .ok st →
        request'.statement naming d = .ok st' →
        st.sql = st'.sql ∧
        st.params.map Parameter.name =
          st'.params.map Parameter.name ∧
        st.kind = st'.kind) := by
  have hEmpty (vs ws : List Value) (hAlike : EqualAlike vs ws) :
      ParameterSet.InStep .empty .empty (vs ++ []) (ws ++ []) := by
    refine ⟨rfl, ?_⟩
    simpa [ParameterSet.values, ParameterSet.empty] using hAlike
  constructor
  · have hTwins := command_twins False hShape naming
    rcases hTwins .empty .empty [] [] False.elim with
      ⟨hFails, hFails'⟩ | ⟨_, _, _, _, hYields, hYields', _, _⟩
    · constructor
      · rintro ⟨st, hStatement⟩
        exact absurd hStatement (statement_of_fails hFails d st)
      · rintro ⟨st, hStatement⟩
        exact absurd hStatement (statement_of_fails hFails' d st)
    · constructor
      · exact fun _ => ⟨_, statement_of_yields hYields' d⟩
      · exact fun _ => ⟨_, statement_of_yields hYields d⟩
  · intro hAlike st st' hStatement hStatement'
    have hTwins := command_twins True hShape naming
    rcases hTwins .empty .empty [] []
        (fun _ => hEmpty _ _ hAlike) with
      ⟨hFails, _⟩ |
        ⟨command, command', t, t', hYields, hYields', hSame,
          hAfter⟩
    · exact absurd hStatement (statement_of_fails hFails d st)
    · rw [statement_of_yields hYields d] at hStatement
      rw [statement_of_yields hYields' d] at hStatement'
      cases hStatement
      cases hStatement'
      have hText := (hSame trivial).sql_eq d
      have hKind := (hSame trivial).kind_eq
      have hNames := (hAfter trivial).names_eq
      refine ⟨?_, hNames, hKind⟩
      simp only [Draft.statement, hText]

/-
  Two updates with the same columns: in both the pattern for a
  equals the text that is set, and the other values are new.
-/
theorem update_text_fixed_by_shape :
    let column (name : String) : Property :=
      { column := name, declaredType := "String",
        type := ⟨.text, true⟩ }
    let doc : EntityType :=
      { key := ⟨0, "Doc"⟩, table := "doc",
        properties := [column "a", column "a2"] }
    let a := ColumnRef.of doc "a"
    let a2 := ColumnRef.of doc "a2"
    let request (set other listed : Value) (start : String) :
        Request :=
      .updateWhere doc ⟨[("a", set), ("a2", other)]⟩
        (.or (.not (a.startsWith start))
          (.and (a.isIn [listed, .null]) (a2.compareValue .gt listed)))
    let first :=
      request (.text "x%") (.int 1) (.text "y") "x"
    let second :=
      request (.text "%") (.bool true) (.float ⟨0⟩) ""
    first.SameShape second ∧
      EqualAlike first.bound second.bound ∧
      ((∃ st, first.statement {} .sqlite = .ok st) ↔
        ∃ st, second.statement {} .sqlite = .ok st) ∧
      (EqualAlike first.bound second.bound →
        ∀ st st',
          first.statement {} .sqlite = .ok st →
          second.statement {} .sqlite = .ok st' →
          st.sql = st'.sql ∧
          st.params.map Parameter.name =
            st'.params.map Parameter.name ∧
          st.kind = st'.kind) := by
  intro column doc a a2 request first second
  have hShape : first.SameShape second := by
    apply SameShape.updateWhere
    · rfl
    · apply Predicate.SameShape.or
      · apply Predicate.SameShape.not
        exact .pattern .startsWith (.column a) (.value _ _)
          (Or.inl rfl) rfl
      · apply Predicate.SameShape.and
        · exact .membership (.column a) (.list rfl) (Or.inl rfl)
        · exact .comparison .gt (.column a2) (.value _ _)
            (Or.inl rfl) rfl rfl
  have hAlike : EqualAlike first.bound second.bound := by
    unfold EqualAlike
    decide
  exact ⟨hShape, hAlike,
    statement_text_fixed_by_shape hShape {} .sqlite⟩

end Request

end EntitySql
