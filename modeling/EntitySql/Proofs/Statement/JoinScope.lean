import EntitySql.Proofs.Statement.AliasUses
import EntitySql.Proofs.Statement.JoinPaging
import EntitySql.Proofs.Statement.Numbering
import EntitySql.Proofs.Statement.SelectChecks

/-
  The scopes of a select over several tables: which aliases its
  SQL declares, and under which alias every column stands.

  Key definitions include:
    * `Join.StartsAt`, `Join.ScopedAt`
    * `Query.PlansScoped`

  Key theorems include:
    * `Join.scopedAt_of_yields`
    * `joinClauses_scopedAt`
    * `Query.joins_are_scoped`

  The tables that are known grow with every join. An occurrence
  among the tables up to a join is the same one among all.
-/

namespace EntitySql

------------------------------------------------------------
-- Growing tables
------------------------------------------------------------

section growing

variable {tables : List EntityKey}

/- A column that is denoted is one of a table that is known. -/
theorem exists_lt_of_denotes
    {references : List ColumnRef}
    {columns : List ColumnExpr}
    {e : ColumnExpr}
    (hDenotes :
      List.Forall₂ (ColumnRef.Denotes tables) references columns)
    (hMem : e ∈ columns) :
    ∃ i < tables.length, ∃ column,
      e = .qualified (.ofPosition i) column := by
  rcases exists_mem_of_forall₂ hDenotes hMem with
    ⟨c, _, i, hOccurs, rfl⟩
  exact ⟨i, hOccurs.lt_length, c.column, rfl⟩

theorem isQualified_of_denotes
    {references : List ColumnRef}
    {columns : List ColumnExpr}
    (hDenotes :
      List.Forall₂ (ColumnRef.Denotes tables) references columns) :
    ∀ e ∈ columns, e.IsQualified := by
  intro e hMem
  rcases exists_lt_of_denotes hDenotes hMem with ⟨i, _, column, hEq⟩
  exact ⟨.ofPosition i, column, hEq⟩

/- What a reference denotes it denotes among more tables too. -/
theorem ColumnRef.Denotes.append
    {c : ColumnRef}
    {e : ColumnExpr}
    (hDenotes : c.Denotes tables e)
    (later : List EntityKey) :
    c.Denotes (tables ++ later) e := by
  rcases hDenotes with ⟨i, hOccurs, hEq⟩
  exact ⟨i, hOccurs.append later, hEq⟩

end growing

------------------------------------------------------------
-- Joins
------------------------------------------------------------

namespace Join

/-
  The position of the table that a join starts from: the one
  before its own, the first, or that of an occurrence.
-/
def StartsAt
    (j : Join)
    (tables : List EntityKey)
    (position i : Nat) : Prop :=
  match j.source with
  | .previous => i + 1 = position
  | .root => i = 0
  | .nth entity n => IsOccurrence tables entity n i

/- The columns that the predicate of a join refers to. -/
def references
    (j : Join) : List ColumnRef :=
  match j.condition with
  | some p => p.references
  | none => []

/-
  The clause of a join whose own table has a position. In its
  text it sets a column of the table that it starts from, which
  is an earlier one, equal to one of its own table, and it
  refers to no table behind its own.
-/
structure ScopedAt
    (j : Join)
    (naming : TableNaming)
    (tables : List EntityKey)
    (position : Nat)
    (clause : JoinClause) : Prop where
  kind_eq : clause.kind = j.kind
  table_eq : clause.table = j.target.tableName naming
  alias_eq : clause.tableAlias = .ofPosition position
  source :
    ∃ i < position,
      j.StartsAt tables position i ∧
      clause.source = .qualified (.ofPosition i) j.sourceColumn ∧
      ∀ d : Dialect,
        clause.sql.text d =
          " " ++ j.kind.text ++ " " ++
            d.quoteTable (j.target.tableName naming) ++ " " ++
            (TableAlias.ofPosition position).text ++ " ON " ++
            (TableAlias.ofPosition i).text ++ "." ++
            d.quoteName j.sourceColumn ++ " = " ++
            (TableAlias.ofPosition position).text ++ "." ++
            d.quoteName j.destColumn ++ clause.conditionText d
  dest_eq :
    clause.dest = .qualified (.ofPosition position) j.destColumn
  refers :
    ∃ columns,
      List.Forall₂ (ColumnRef.Denotes tables) j.references columns ∧
      clause.onSql.Refers (clause.source :: clause.dest :: columns)
  within :
    ∀ a, .tableAlias a ∈ clause.onSql →
      ∃ i ≤ position, a = .ofPosition i

variable {j : Join}
variable {naming : TableNaming}
variable {earlier later : List EntityKey}

theorem startsAt_of_sourceAlias
    {a : TableAlias}
    (hEarlier : earlier ≠ [])
    (hSource : j.sourceAlias ⟨earlier⟩ = .ok a) :
    ∃ i < earlier.length,
      j.StartsAt (earlier ++ later) earlier.length i ∧
      a = .ofPosition i := by
  have hPos : 0 < earlier.length := List.length_pos_of_ne_nil hEarlier
  unfold sourceAlias at hSource
  unfold StartsAt
  cases hStart : j.source with
  | previous =>
      rw [hStart] at hSource
      refine ⟨earlier.length - 1, by omega, by omega, ?_⟩
      have hLast :
          AliasMap.last? ⟨earlier⟩ = some ⟨earlier.length⟩ := by
        rw [AliasMap.last?, AliasMap.size, if_neg hPos.ne']
      dsimp only at hSource
      rw [hLast] at hSource
      cases hSource
      rw [TableAlias.ofPosition, Nat.sub_add_cancel hPos,
        Option.getD_some]
  | root =>
      rw [hStart] at hSource
      cases hSource
      exact ⟨0, hPos, rfl, rfl⟩
  | nth entity n =>
      rw [hStart] at hSource
      rcases AliasMap.resolve_eq_ok_iff.mp hSource with
        ⟨i, hOccurs, rfl⟩
      exact ⟨i, hOccurs.lt_length, hOccurs.append later, rfl⟩

/- The parts of a clause that is planned behind some tables. -/
theorem clause_cases
    {aliases : AliasMap}
    {clause : JoinClause}
    {s t : ParameterSet}
    (hYields :
      (j.clause naming ⟨earlier⟩).Yields s (clause, aliases) t) :
    ∃ source condition,
      j.sourceAlias ⟨earlier⟩ = .ok source ∧
      clause =
        ⟨j.kind, j.target.tableName naming,
          .ofPosition earlier.length,
          .qualified source j.sourceColumn,
          .qualified (.ofPosition earlier.length) j.destColumn,
          condition⟩ ∧
      List.Forall₂
        (ColumnRef.Denotes (earlier ++ [j.target.key]))
        j.references clause.conditionColumns := by
  simp only [Join.clause, Binding.yields_bind_iff,
    Binding.yields_liftM_iff] at hYields
  rcases hYields with ⟨source, _, ⟨hSource, rfl⟩, hYields⟩
  unfold references
  cases hCondition : j.condition with
  | none =>
      simp only [hCondition, pure_bind, Binding.yields_pure_iff]
        at hYields
      cases hYields.1
      exact ⟨source, none, hSource, rfl, .nil⟩
  | some p =>
      simp only [hCondition, Binding.yields_bind_iff,
        Binding.yields_map_iff, Binding.yields_pure_iff] at hYields
      rcases hYields with
        ⟨_, _, ⟨compiled, hCompiled, rfl⟩, hClause, _⟩
      cases hClause
      exact ⟨source, some compiled, hSource, rfl,
        Scope.denotes_compile hCompiled⟩

/-
  A join is planned behind the tables before it. Its clause is
  scoped there, and stays so whatever tables follow.
-/
theorem scopedAt_of_yields
    {aliases : AliasMap}
    {clause : JoinClause}
    {s t : ParameterSet}
    (hEarlier : earlier ≠ [])
    (hYields :
      (j.clause naming ⟨earlier⟩).Yields s (clause, aliases) t) :
    j.ScopedAt naming (earlier ++ j.target.key :: later)
      earlier.length clause := by
  rcases clause_cases hYields with
    ⟨source, condition, hSource, hClause, hDenotes⟩
  rcases startsAt_of_sourceAlias hEarlier hSource with
    ⟨i, hBound, hStarts, rfl⟩
  have hFrom :
      clause.source = .qualified (.ofPosition i) j.sourceColumn := by
    rw [hClause]
  have hTo :
      clause.dest =
        .qualified (.ofPosition earlier.length) j.destColumn := by
    rw [hClause]
  have hOn := JoinClause.refers_onSql ⟨_, _, hFrom⟩ ⟨_, _, hTo⟩
    (isQualified_of_denotes hDenotes)
  have hText (d : Dialect) :
      clause.sql.text d =
        " " ++ j.kind.text ++ " " ++
          d.quoteTable (j.target.tableName naming) ++ " " ++
          (TableAlias.ofPosition earlier.length).text ++ " ON " ++
          (TableAlias.ofPosition i).text ++ "." ++
          d.quoteName j.sourceColumn ++ " = " ++
          (TableAlias.ofPosition earlier.length).text ++ "." ++
          d.quoteName j.destColumn ++ clause.conditionText d := by
    rw [JoinClause.text_sql_qualified hFrom hTo, hClause]
  refine
    { kind_eq := by rw [hClause]
      table_eq := by rw [hClause]
      alias_eq := by rw [hClause]
      source := ⟨i, hBound, hStarts, hFrom, hText⟩
      dest_eq := hTo
      refers := ⟨clause.conditionColumns, ?_, hOn⟩
      within := ?_ }
  · rw [List.append_cons]
    exact hDenotes.imp fun c e h => h.append later
  · intro a hMem
    rcases hOn.of_mem a hMem with ⟨column, hColumn⟩
    rcases List.mem_cons.mp hColumn with hEq | hColumn
    · rw [hFrom] at hEq
      cases hEq
      exact ⟨i, hBound.le, rfl⟩
    rcases List.mem_cons.mp hColumn with hEq | hColumn
    · rw [hTo] at hEq
      cases hEq
      exact ⟨_, le_rfl, rfl⟩
    · rcases exists_lt_of_denotes hDenotes hColumn with
        ⟨k, hLt, _, hEq⟩
      cases hEq
      rw [List.length_append, List.length_singleton] at hLt
      exact ⟨k, Nat.le_of_lt_succ hLt, rfl⟩

end Join

/-
  Every clause of a FROM clause is scoped at its own position.
  The induction is on the joins while the tables grow.
-/
theorem joinClauses_scopedAt
    {naming : TableNaming}
    {earlier : List EntityKey}
    {joins : List Join}
    {clauses : List JoinClause}
    {aliases : AliasMap}
    {s t : ParameterSet}
    (hEarlier : earlier ≠ [])
    (hYields :
      (joinClauses naming ⟨earlier⟩ joins).Yields s
        (clauses, aliases) t) :
    List.Forall₂
      (fun (join : Join × Nat) clause =>
        join.1.ScopedAt naming
          (earlier ++ joins.map fun j => j.target.key)
          join.2 clause)
      (joins.zipIdx earlier.length) clauses := by
  induction joins generalizing s earlier clauses with
  | nil =>
      simp only [joinClauses, Binding.yields_pure_iff] at hYields
      cases hYields.1
      exact .nil
  | cons j joins ih =>
      simp only [joinClauses, Binding.yields_bind_iff,
        Binding.yields_pure_iff] at hYields
      rcases hYields with
        ⟨⟨clause, grown⟩, u, hClause, ⟨rest, _⟩, _, hRest, hClauses,
          rfl⟩
      cases hClauses
      have hGrown : grown = ⟨earlier ++ [j.target.key]⟩ :=
        congrArg AliasMap.mk (Join.clause_spec hClause).2.2
      subst hGrown
      have hLater := ih (List.append_ne_nil_of_right_ne_nil _
        (List.cons_ne_nil _ _)) hRest
      rw [List.append_assoc, List.length_append] at hLater
      exact .cons (Join.scopedAt_of_yields hEarlier hClause) hLater

------------------------------------------------------------
-- Filters and orders
------------------------------------------------------------

namespace Scope

variable {tables : List EntityKey}

/- Filters are compiled to the columns that they denote. -/
theorem denotes_compileList
    {ps : List Predicate}
    {compiled : List CompiledPredicate}
    {s t : ParameterSet}
    (hYields :
      ((Scope.aliased ⟨tables⟩).compileList ps).Yields s compiled t) :
    List.Forall₂ (ColumnRef.Denotes tables)
      (ps.flatMap Predicate.references)
      (compiled.flatMap CompiledPredicate.columns) := by
  unfold compileList at hYields
  induction ps generalizing s t compiled with
  | nil =>
      simp only [List.mapM_nil, Binding.yields_pure_iff] at hYields
      cases hYields.1
      exact .nil
  | cons p ps ih =>
      simp only [List.mapM_cons, Binding.yields_bind_iff,
        Binding.yields_pure_iff] at hYields
      rcases hYields with
        ⟨first, _, hFirst, rest, _, hRest, rfl, _⟩
      exact List.rel_append (denotes_compile hFirst) (ih hRest)

end Scope

/- An item is planned on the column that its reference denotes. -/
structure OrderBy.Denotes
    (tables : List EntityKey)
    (o : OrderBy)
    (item : OrderItem) : Prop where
  column : o.column.Denotes tables item.column
  direction_eq : item.direction = o.direction

theorem Scope.denotes_orderItems
    {tables : List EntityKey}
    {ordering : List OrderBy}
    {items : List OrderItem}
    (hItems :
      (Scope.aliased ⟨tables⟩).orderItems ordering = .ok items) :
    List.Forall₂ (OrderBy.Denotes tables) ordering items := by
  apply (mapM_eq_ok_iff.mp hItems).imp
  intro o item hItem
  cases hColumn : (Scope.aliased ⟨tables⟩).column o.column with
  | error cause =>
      rw [hColumn] at hItem
      cases hItem
  | ok e =>
      rw [hColumn] at hItem
      cases hItem
      exact ⟨Scope.column_eq_ok_iff.mp hColumn, rfl⟩

/- An order on the columns of some items and on a key. -/
structure OrdersOn
    (items : List OrderItem)
    (key : ColumnExpr)
    (order : List OrderItem) : Prop where
  of_mem : ∀ item ∈ order, item ∈ items ∨ item.column = key
  refers : (orderSql order).Refers (order.map OrderItem.column)

theorem ordersOn_of_mem
    {tables : List EntityKey}
    {ordering : List OrderBy}
    {items order : List OrderItem}
    {key : ColumnExpr}
    (hItems : List.Forall₂ (OrderBy.Denotes tables) ordering items)
    (hKey : key.IsQualified)
    (hMem : ∀ item ∈ order, item ∈ items ∨ item.column = key) :
    OrdersOn items key order := by
  refine ⟨hMem, refers_orderSql ?_⟩
  intro item hIn
  rcases hMem item hIn with hItem | hEq
  · rcases exists_mem_of_forall₂ hItems hItem with
      ⟨o, _, ⟨i, _, hColumn⟩, _⟩
    exact ⟨_, _, hColumn⟩
  · rw [hEq]
    exact hKey

/- The key is added to the items and takes none away. -/
theorem sublist_joinedOrder
    (a : TableAlias)
    (key : ColumnExpr)
    (items : List OrderItem) :
    items.Sublist (joinedOrder a key items) := by
  unfold joinedOrder
  dsimp only
  split
  · exact .refl _
  · split
    · exact List.sublist_append_left _ _
    · conv =>
        lhs
        rw [← List.takeWhile_append_dropWhile
          (l := items) (p := fun item => item.column.isOf a)]
      exact (List.sublist_append_left _ _).append (.refl _)

------------------------------------------------------------
-- Selects
------------------------------------------------------------

namespace Query

/-
  A plan whose FROM clause declares one alias for each table, in
  their order, and whose columns stand under the alias of the
  table that their reference denotes.
-/
structure PlansScoped
    (q : Query)
    (naming : TableNaming)
    (plan : SelectPlan) : Prop where
  fromSql_eq :
    plan.fromSql =
      Sql.words " FROM " ++ Sql.table (q.root.tableName naming) ++
        [.words " ", .tableAlias (.ofPosition 0)] ++
        plan.joins.flatMap JoinClause.sql
  declared_eq :
    plan.fromSql.declared =
      (List.range (q.joins.length + 1)).map .ofPosition
  joins :
    List.Forall₂
      (fun (join : Join × Nat) clause =>
        join.1.ScopedAt naming q.tableKeys join.2 clause)
      (q.joins.zipIdx 1) plan.joins
  filters :
    ∃ columns,
      List.Forall₂ (ColumnRef.Denotes q.tableKeys)
        (q.filters.flatMap Predicate.references) columns ∧
      plan.whereSql.Refers columns
  order :
    ∃ key ranking items,
      q.root.identityColumn = .ok key ∧
      plan.ranking = some ranking ∧
      List.Forall₂ (OrderBy.Denotes q.tableKeys) q.ordering items ∧
      items.Sublist plan.order ∧
      OrdersOn items (.qualified (.ofPosition 0) key) plan.order ∧
      OrdersOn items (.qualified (.ofPosition 0) key) ranking.order

variable {q : Query}
variable {naming : TableNaming}

/- The aliases of clauses at consecutive positions. -/
theorem map_tableAlias_of_scopedAt
    {tables : List EntityKey}
    {joins : List Join}
    {clauses : List JoinClause}
    {start : Nat}
    (hScoped :
      List.Forall₂
        (fun (join : Join × Nat) clause =>
          join.1.ScopedAt naming tables join.2 clause)
        (joins.zipIdx start) clauses) :
    clauses.map JoinClause.tableAlias =
      (List.range' start joins.length).map .ofPosition := by
  induction joins generalizing start clauses with
  | nil =>
      cases hScoped
      rfl
  | cons j joins ih =>
      cases hScoped with
      | cons hFirst hRest =>
          rw [List.map_cons, hFirst.alias_eq, ih hRest,
            List.length_cons, List.range'_succ, List.map_cons]

theorem plansScoped_of_yields
    {plan : SelectPlan}
    {s t : ParameterSet}
    (hJoined : q.isJoined = true)
    (hPlan : (q.plan naming).Yields s plan t) :
    q.PlansScoped naming plan := by
  rw [Query.plan, if_pos hJoined] at hPlan
  simp only [planJoined, Binding.yields_bind_iff,
    Binding.yields_liftM_iff, Binding.yields_pure_iff] at hPlan
  rcases hPlan with
    ⟨key, _, ⟨hIdentity, rfl⟩, ⟨clauses, aliases⟩, _, hClauses,
      filters, _, hFilters, items, _, ⟨hItems, rfl⟩, hPlan, _⟩
  have hTables : aliases = ⟨q.tableKeys⟩ :=
    congrArg AliasMap.mk (joinClauses_spec hClauses).2.2
  subst hTables
  have hScoped :=
    joinClauses_scopedAt (List.cons_ne_nil _ _) hClauses
  have hKept : plan.filters = filters := by
    rw [← hPlan]
  rw [← hKept] at hFilters
  have hWhere := Scope.denotes_compileList hFilters
  have hRefers :=
    SelectPlan.refers_whereSql fun p hMem e hColumn =>
      isQualified_of_denotes hWhere e
        (List.mem_flatMap.mpr ⟨p, hMem, hColumn⟩)
  have hOrder := Scope.denotes_orderItems hItems
  have hKey :
      (ColumnExpr.qualified (.ofPosition 0) key).IsQualified :=
    ⟨_, _, rfl⟩
  subst hPlan
  refine
    { fromSql_eq := rfl
      declared_eq := ?_
      joins := hScoped
      filters := ⟨_, hWhere, hRefers⟩
      order :=
        ⟨key, _, items, hIdentity, rfl, hOrder,
          sublist_joinedOrder _ _ _,
          ordersOn_of_mem hOrder hKey fun _ => mem_joinedOrder,
          ordersOn_of_mem hOrder hKey fun _ => mem_rootOrder⟩ }
  rw [SelectPlan.declared_fromSql rfl, List.range_eq_range',
    List.range'_succ, List.map_cons]
  · exact congrArg _ (map_tableAlias_of_scopedAt hScoped)
  · intro clause hMem
    rcases exists_mem_of_forall₂ hScoped hMem with
      ⟨join, _, hClause⟩
    rcases hClause.refers with ⟨columns, _, hOn⟩
    exact ⟨_, hOn⟩

/-
  If a select over several tables has a statement, its plan is
  scoped, and the text has the parts of the plan in their
  places: tables and joins, filters, and the order behind ORDER
  BY. If somewhere a table is named that is not among those
  known there, it has none: it is refused with that name, or
  with the error of an earlier check.
-/
theorem joins_are_scoped
    (hJoined : q.isJoined = true)
    (naming : TableNaming)
    (d : Dialect) :
    (∀ st, (Request.select q).statement naming d = .ok st →
      ∃ plan page before after,
        (Request.select q).draft naming =
          .ok ⟨.select plan page, st.params⟩ ∧
        st.sql =
          Sql.text d
            (before ++ (plan.fromSql ++ plan.whereSql) ++ after) ∧
        plan.selectSql d page =
          before ++ (plan.fromSql ++ plan.whereSql) ++ after ∧
        q.PlansScoped naming plan ∧
        ∃ ranking,
          plan.ranking = some ranking ∧
          st.sql =
            match page with
            | none => plan.orderedText d
            | some page =>
                plan.rankedText d ranking.order page.offset
                  page.upper) ∧
    (∀ tables entity n,
      q.Names tables entity n →
      (¬ ∃ i, IsOccurrence tables entity n i) →
      ∃ before after cause,
        q.checks = before ++ .occurrence tables entity n :: after ∧
        (Request.select q).statement naming d = .error cause ∧
        (cause = .unresolvedAlias (.noOccurrence entity n) ∨
          ∃ check ∈ before, check.fault = some cause)) := by
  constructor
  · intro st hStatement
    rcases exists_plan_of_select hStatement with
      ⟨plan, page, _, hPlan, hDraft, hSql⟩
    have hScoped := plansScoped_of_yields hJoined hPlan
    rcases hScoped.order with ⟨_, ranking, _, _, hRanking, _⟩
    rcases plan.exists_selectSql_around d page with
      ⟨before, after, hAround⟩
    have hSelect := hAround plan rfl rfl rfl
    rw [SelectPlan.tailSql_eq_from] at hSelect
    refine ⟨plan, page, before, after, hDraft, ?_, hSelect, hScoped,
      ranking, hRanking, ?_⟩
    · rw [hSql, hSelect]
    · rw [hSql]
      cases page with
      | none =>
          rcases plansJoin_of_yields hJoined hPlan with
            ⟨column, items, hPlans⟩
          exact SelectPlan.text_selectSql_none hPlans.order_ne_nil d
      | some page =>
          exact SelectPlan.text_selectSql_joined hRanking d page
  · intro tables entity n hNames hNone
    rcases List.append_of_mem hNames.mem_checks with
      ⟨before, after, hChecks⟩
    have hFault :
        (Check.occurrence tables entity n).fault =
          some (.unresolvedAlias (.noOccurrence entity n)) :=
      if_neg (mt exists_isOccurrence_iff.mpr hNone)
    rcases Check.exists_firstFault_append before after hFault with
      ⟨cause, hFirst, hCause⟩
    refine ⟨before, after, cause, hChecks, ?_, hCause⟩
    rw [← hChecks, ← faultOf_select hJoined naming d] at hFirst
    exact Binding.faultOf_eq_some_iff.mp hFirst

end Query

------------------------------------------------------------
-- Blogs and posts
------------------------------------------------------------

namespace BlogPosts

/-
  Blogs with their posts, and with the later posts of the blog
  of the n-th post among the tables.
-/
def laterPosts
    (n : Nat) : Query :=
  { root := blog
    filters := [(ColumnRef.of post "id").compareValue .gt (.int 3)]
    ordering := [⟨(ColumnRef.of post "id").nth 2, .desc⟩]
    joins :=
      [ { kind := .inner, target := post, sourceColumn := "id",
          destColumn := "blog_id" },
        { kind := .left, target := post, sourceColumn := "blog_id",
          destColumn := "blog_id", source := .nth post.key n,
          condition :=
            some ((ColumnRef.of post "id").compareColumn .lt
              ((ColumnRef.of post "id").nth 2)) } ] }

/-
  Posts have two aliases, and the later ones stand under the
  second. A join from the second post is not behind it.
-/
theorem later_posts_stand_under_third_alias :
    let st : Statement :=
      { sql :=
          "SELECT t1.\"id\" AS \"t1_id\", " ++
          "t1.\"rating\" AS \"t1_rating\", " ++
          "t2.\"id\" AS \"t2_id\", " ++
          "t2.\"blog_id\" AS \"t2_blog_id\", " ++
          "t3.\"id\" AS \"t3_id\", " ++
          "t3.\"blog_id\" AS \"t3_blog_id\" " ++
          "FROM \"blogs\" t1 INNER JOIN \"posts\" t2 " ++
          "ON t1.\"id\" = t2.\"blog_id\" " ++
          "LEFT JOIN \"posts\" t3 " ++
          "ON t2.\"blog_id\" = t3.\"blog_id\" " ++
          "AND (t2.\"id\" < t3.\"id\") WHERE (t2.\"id\" > @id) " ++
          "ORDER BY t3.\"id\" DESC, t1.\"id\" ASC"
        params := [⟨"id", .int 3⟩]
        kind := .select }
    (Request.select (laterPosts 1)).statement {} .sqlite = .ok st ∧
      (∃ plan page before after,
        (Request.select (laterPosts 1)).draft {} =
          .ok ⟨.select plan page, st.params⟩ ∧
        st.sql =
          Sql.text .sqlite
            (before ++ (plan.fromSql ++ plan.whereSql) ++ after) ∧
        plan.selectSql .sqlite page =
          before ++ (plan.fromSql ++ plan.whereSql) ++ after ∧
        (laterPosts 1).PlansScoped {} plan ∧
        ∃ ranking,
          plan.ranking = some ranking ∧
          st.sql =
            match page with
            | none => plan.orderedText .sqlite
            | some page =>
                plan.rankedText .sqlite ranking.order page.offset
                  page.upper) ∧
      ∃ before after cause,
        (laterPosts 2).checks =
          before ++
            .occurrence [blog.key, post.key] post.key 2 :: after ∧
        (Request.select (laterPosts 2)).statement {} .sqlite =
          .error cause ∧
        (cause = .unresolvedAlias (.noOccurrence post.key 2) ∨
          ∃ check ∈ before, check.fault = some cause) := by
  intro st
  have hStatement :
      (Request.select (laterPosts 1)).statement {} .sqlite =
        .ok st := by
    decide +kernel
  have hNames :
      (laterPosts 2).Names [blog.key, post.key] post.key 2 :=
    @Query.Names.source (laterPosts 2) 1 _ _ _ rfl rfl
  have hNone :
      ¬ ∃ i, IsOccurrence [blog.key, post.key] post.key 2 i := by
    rw [exists_isOccurrence_iff]
    decide
  exact ⟨hStatement,
    (Query.joins_are_scoped rfl {} .sqlite).1 st hStatement,
    (Query.joins_are_scoped rfl {} .sqlite).2 _ _ _ hNames hNone⟩

end BlogPosts

end EntitySql
