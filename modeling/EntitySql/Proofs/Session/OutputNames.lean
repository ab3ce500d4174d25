import EntitySql.Proofs.Session.JoinLayout

/-
  The names of a join. Every column of every table has a label
  of its own, which stays its own between quotes, and no label
  is the name of a number of a page.

  Key definitions include:
    * `Sql.names`
    * `SelectPlan.innerNames`

  Key theorems include:
    * `Query.nodup_aliases`
    * `nodup_labels`
    * `SelectPlan.nodup_innerNames`
    * `Query.outer_names_denote_one_column`

  What makes labels differ is the underscore behind the number
  of an alias: digits in front of a column name do not reach
  into the number.
-/

namespace EntitySql

------------------------------------------------------------
-- Labels
------------------------------------------------------------

/- The aliases of a join count its tables. -/
theorem Query.map_snd_tables
    (q : Query) :
    q.tables.map Prod.snd =
      (List.range' 1 (q.joins.length + 1)).map TableAlias.mk := by
  have hJoins :
      (q.joins.zipIdx 2).map (TableAlias.mk ∘ Prod.snd) =
        (List.range' 2 q.joins.length).map TableAlias.mk := by
    rw [← List.map_map, List.zipIdx_map_snd]
  rw [tables, List.map_cons, List.map_map, List.range'_succ,
    List.map_cons]
  exact congrArg (TableAlias.root :: ·) hJoins

theorem Query.nodup_aliases
    (q : Query) :
    (q.tables.map Prod.snd).Nodup := by
  rw [q.map_snd_tables]
  refine List.Nodup.map ?_ List.nodup_range'
  intro n m hAlias
  exact congrArg TableAlias.number hAlias

/- Columns of different tables, or of one, differ in labels. -/
theorem nodup_labels
    {tables : List (EntityType × TableAlias)}
    (hAliases : (tables.map Prod.snd).Nodup)
    (hColumns : ∀ table ∈ tables, table.1.columns.Nodup) :
    ((columnsOfTables tables).map OutputColumn.label).Nodup := by
  have hLabels :
      (columnsOfTables tables).map OutputColumn.label =
        tables.flatMap fun table => table.1.columns.map table.2.label := by
    simp [columnsOfTables, EntityType.aliasedColumns,
      List.map_flatMap, Function.comp_def]
  rw [hLabels, List.nodup_flatMap]
  constructor
  · intro table hMem
    refine (hColumns table hMem).map ?_
    exact fun _ _ hLabel => (TableAlias.label_injective hLabel).2
  · refine (List.pairwise_map.mp hAliases).imp ?_
    intro table other hAlias label hMem hOther
    rcases List.mem_map.mp hMem with ⟨column, _, rfl⟩
    rcases List.mem_map.mp hOther with ⟨column', _, hLabel⟩
    exact hAlias (TableAlias.label_injective hLabel).1.symm

------------------------------------------------------------
-- Names
------------------------------------------------------------

/- The names that SQL mentions, in order. -/
def Sql.names
    (sql : Sql) : List String :=
  sql.filterMap fun
    | .name identifier => some identifier
    | _ => none

theorem Sql.names_append
    (sql rest : Sql) :
    Sql.names (sql ++ rest) = sql.names ++ rest.names :=
  List.filterMap_append

theorem Sql.names_joinWith
    (separator : String)
    (items : List Sql) :
    Sql.names (joinWith separator items) = items.flatMap Sql.names := by
  cases items with
  | nil => rfl
  | cons first rest =>
      rw [joinWith, names_append, List.flatMap_cons]
      congr 1
      induction rest with
      | nil => rfl
      | cons item rest ih =>
          rw [List.flatMap_cons, List.flatMap_cons, names_append,
            names_append, ih]
          rfl

theorem Dialect.nodup_quoteName_iff
    {names : List String}
    (d : Dialect) :
    (names.map d.quoteName).Nodup ↔ names.Nodup :=
  List.nodup_map_iff fun _ _ => quoteName_injective

namespace SelectPlan

variable {plan : SelectPlan}

/- The names of the columns of the query inside a page. -/
def innerNames
    (plan : SelectPlan)
    (ranking : RootRanking) : List String :=
  (plan.innerColumns ranking).map Prod.snd

theorem innerNames_eq
    (plan : SelectPlan)
    (ranking : RootRanking) :
    plan.innerNames ranking =
      "RootNum" :: "RowNum" :: plan.columns.map OutputColumn.label := by
  simp [innerNames, innerColumns, Function.comp_def]

/- No label is the name of a number. -/
theorem nodup_innerNames
    (hColumns : ∀ c ∈ plan.columns, ∃ a column,
      c = ⟨.qualified a column, a.label column, true⟩)
    (hLabels : (plan.columns.map OutputColumn.label).Nodup)
    (ranking : RootRanking) :
    (plan.innerNames ranking).Nodup := by
  have hOther :
      ∀ name : String, name.toList.head? = some 'R' →
        name ∉ plan.columns.map OutputColumn.label := by
    intro name hName hMem
    rcases List.mem_map.mp hMem with ⟨c, hColumn, hLabel⟩
    rcases hColumns c hColumn with ⟨a, column, rfl⟩
    exact TableAlias.label_ne hName hLabel
  rw [innerNames_eq, List.nodup_cons, List.nodup_cons, List.mem_cons,
    not_or]
  exact ⟨⟨by decide, hOther _ rfl⟩, hOther _ rfl, hLabels⟩

/- The query around the inner one has the names of this one. -/
theorem mem_innerNames_of_outer
    {ranking : RootRanking}
    {page : Page}
    {name : String}
    (hMem : name ∈ Sql.names (plan.labelsSql ++ pageClauses page)) :
    name ∈ plan.innerNames ranking := by
  rw [Sql.names_append, List.mem_append] at hMem
  rw [innerNames_eq]
  rcases hMem with hLabel | hNumber
  · have hLabels :
        plan.labelsSql.names = plan.columns.map OutputColumn.label := by
      rw [labelsSql, Sql.commaList, Sql.names_joinWith,
        List.flatMap_map]
      exact List.map_eq_flatMap.symm
    rw [hLabels] at hLabel
    exact List.mem_cons_of_mem _ (List.mem_cons_of_mem _ hLabel)
  · have hNumbers :
        (pageClauses page).names =
          ["RootNum", "RootNum", "RootNum", "RowNum"] := by
      rfl
    rw [hNumbers] at hNumber
    simp only [List.mem_cons, List.not_mem_nil, or_false] at hNumber
    rcases hNumber with rfl | rfl | rfl | rfl <;> simp

end SelectPlan

------------------------------------------------------------
-- Joins
------------------------------------------------------------

/-
  In every dialect, and for any number of tables and any column
  names, the outputs of a join have distinct names as quoted
  text. With a page the two numbers have other names than they,
  and each name that the outer select mentions is the name of
  exactly one column of the query inside it.
-/
theorem Query.outer_names_denote_one_column
    {q : Query}
    {naming : TableNaming}
    {d : Dialect}
    {st : Statement}
    (hJoined : q.isJoined = true)
    (hRoot : q.root.columns.Nodup)
    (hTargets : ∀ j ∈ q.joins, j.target.columns.Nodup)
    (hStatement : (Request.select q).statement naming d = .ok st) :
    ∃ (plan : SelectPlan) (ranking : RootRanking),
      (Request.select q).draft naming =
        .ok ⟨.select plan q.page, st.params⟩ ∧
      plan.ranking = some ranking ∧
      plan.columns = columnsOfTables q.tables ∧
      (plan.columns.map fun c => d.quoteName c.label).Nodup ∧
      match q.page with
      | none => plan.Writes d none st.sql
      | some page =>
          st.sql =
            (Sql.words "SELECT " ++ plan.labelsSql ++
              Sql.words " FROM (SELECT " ++
              Sql.commaList
                ((plan.innerColumns ranking).map fun (e, name) =>
                  Sql.named e name) ++
              plan.tailSql ++ Sql.words ") AS " ++
              SelectPlan.pagedTable ++
              SelectPlan.pageClauses page).text d ∧
          ((plan.innerNames ranking).map d.quoteName).Nodup ∧
          ∀ name ∈
            Sql.names (plan.labelsSql ++ SelectPlan.pageClauses page),
            ((plan.innerNames ranking).map d.quoteName).count
              (d.quoteName name) = 1 := by
  rcases exists_plan_of_joined_select hJoined hStatement with
    ⟨plan, ranking, hDraft, hSql, hRanking, hColumns, hNonempty⟩
  have hLabelled : ∀ c ∈ plan.columns, ∃ a column,
      c = ⟨.qualified a column, a.label column, true⟩ := by
    rw [hColumns]
    exact fun _ hMem => mem_columnsOfTables hMem
  have hTypes : ∀ table ∈ q.tables, table.1.columns.Nodup := by
    intro table hMem
    have hType : table.1 ∈ q.tables.map Prod.fst :=
      List.mem_map_of_mem hMem
    rw [q.map_fst_tables, List.mem_cons, List.mem_map] at hType
    rcases hType with hType | ⟨j, hJoin, hType⟩
    · rw [hType]
      exact hRoot
    · rw [← hType]
      exact hTargets j hJoin
  have hLabels : (plan.columns.map OutputColumn.label).Nodup := by
    rw [hColumns]
    exact nodup_labels q.nodup_aliases hTypes
  refine ⟨plan, ranking, hDraft, hRanking, hColumns, ?_, ?_⟩
  · rw [← Dialect.nodup_quoteName_iff d, List.map_map] at hLabels
    exact hLabels
  · cases hPage : q.page with
    | none =>
        rw [hPage] at hSql
        rw [hSql]
        exact SelectPlan.writes_unpagedSql hLabelled d
    | some page =>
        have hInner :
            ((plan.innerNames ranking).map d.quoteName).Nodup :=
          (Dialect.nodup_quoteName_iff d).mpr
            (SelectPlan.nodup_innerNames hLabelled hLabels ranking)
        refine ⟨?_, hInner, ?_⟩
        · rw [hSql, hPage, SelectPlan.selectSql, hRanking]
          exact SelectPlan.text_rankedSql_layout hLabelled hNonempty d
            ranking page
        · intro name hMem
          exact List.count_eq_one_of_mem hInner
            (List.mem_map_of_mem (SelectPlan.mem_innerNames_of_outer hMem))

/-
  Eleven tables of one type, so that the digits of an alias and
  those of a column name stand side by side: `t1_1_id` and
  `t11_id`, `t1_0_id` and `t10_id`. One name closes the quotes.
-/
theorem Query.eleven_tables_have_distinct_names :
    let tag : EntityType :=
      { key := ⟨0, "Tag"⟩
        table := "tags"
        properties :=
          [ { column := "id", declaredType := "i64",
              type := ⟨.integer .int64, false⟩, identity := true },
            { column := "0_id", declaredType := "i64",
              type := ⟨.integer .int64, false⟩ },
            { column := "1_id", declaredType := "i64",
              type := ⟨.integer .int64, false⟩ },
            { column := "].\"RowNum", declaredType := "i64",
              type := ⟨.integer .int64, false⟩ } ] }
    let q : Query :=
      { root := tag
        joins :=
          List.replicate 10
            { kind := .inner, target := tag, sourceColumn := "id",
              destColumn := "0_id" }
        ordering := [⟨ColumnRef.of tag "id", .asc⟩]
        page := some ⟨1, 5⟩ }
    q.isJoined = true ∧
      tag.columns.Nodup ∧
      ∃ st,
        (Request.select q).statement {} .sqlServer = .ok st ∧
        ∃ (plan : SelectPlan) (ranking : RootRanking),
          (Request.select q).draft {} =
            .ok ⟨.select plan q.page, st.params⟩ ∧
          plan.columns = columnsOfTables q.tables ∧
          (plan.columns.map fun c =>
            Dialect.sqlServer.quoteName c.label).Nodup ∧
          ((plan.innerNames ranking).map
            Dialect.sqlServer.quoteName).Nodup ∧
          ∀ name ∈
            Sql.names
              (plan.labelsSql ++ SelectPlan.pageClauses ⟨1, 5⟩),
            ((plan.innerNames ranking).map
              Dialect.sqlServer.quoteName).count
              (Dialect.sqlServer.quoteName name) = 1 := by
  intro tag q
  have hJoined : q.isJoined = true := rfl
  have hRoot : tag.columns.Nodup := by decide +kernel
  have hTargets : ∀ j ∈ q.joins, j.target.columns.Nodup := by
    intro j hMem
    rw [(List.mem_replicate.mp hMem).2]
    exact hRoot
  have hOk :
      ((Request.select q).statement {} .sqlServer).isOk = true := by
    decide +kernel
  refine ⟨hJoined, hRoot, ?_⟩
  cases hStatement : (Request.select q).statement {} .sqlServer with
  | error e =>
      rw [hStatement] at hOk
      cases hOk
  | ok st =>
      rcases Query.outer_names_denote_one_column hJoined hRoot hTargets
        hStatement with
        ⟨plan, ranking, hDraft, _, hColumns, hNames, _, hInner, hOuter⟩
      exact ⟨st, rfl, plan, ranking, hDraft, hColumns, hNames, hInner,
        hOuter⟩

end EntitySql
