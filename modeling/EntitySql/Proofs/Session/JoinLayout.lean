import EntitySql.Proofs.Dialect.NameReading
import EntitySql.Proofs.Hydrate.Slices
import EntitySql.Proofs.Session.SelectAnswers
import EntitySql.Proofs.Statement.Readable

/-
  The select list of a join is laid out as nested hydration
  reads its rows: the columns of the root and then those of
  every joined table, in join order.

  Key definitions include:
    * `Query.tables`
    * `SelectPlan.Writes`, `SelectPlan.outputs`
    * `TableAlias.slice`

  Key theorems include:
    * `Query.columns_of_yields`
    * `TableAlias.label_injective`
    * `SelectPlan.outputs_eq`
    * `Query.select_lists_tables_for_hydration`

  A page names the outputs of the query that it is cut from.
  Their labels tell the tables apart, so that every name is
  found again, and none is one of the two numbers of a page.
-/

namespace EntitySql

------------------------------------------------------------
-- Tables of a join
------------------------------------------------------------

/-
  The entity types of a query with the aliases of their tables:
  the root is `t1`, and the join at position `i`, counted from
  zero, is `t(i + 2)`.
-/
def Query.tables
    (q : Query) : List (EntityType × TableAlias) :=
  (q.root, .root) ::
    (q.joins.zipIdx 2).map fun (j, n) => (j.target, ⟨n⟩)

/- All columns of some tables, under their aliases. -/
def columnsOfTables
    (tables : List (EntityType × TableAlias)) : List OutputColumn :=
  tables.flatMap fun (e, a) => e.aliasedColumns a

theorem mem_columnsOfTables
    {tables : List (EntityType × TableAlias)}
    {c : OutputColumn}
    (hMem : c ∈ columnsOfTables tables) :
    ∃ a column,
      c = ⟨.qualified a column, a.label column, true⟩ := by
  rcases List.mem_flatMap.mp hMem with ⟨⟨e, a⟩, _, hColumn⟩
  rcases List.mem_map.mp hColumn with ⟨column, _, rfl⟩
  exact ⟨a, column, rfl⟩

/- A type with an identity has a column. -/
theorem EntityType.aliasedColumns_ne_nil
    {e : EntityType}
    {column : String}
    (hIdentity : e.identityColumn = .ok column)
    (a : TableAlias) :
    e.aliasedColumns a ≠ [] := by
  rcases EntityType.identityColumn_eq_ok_iff.mp hIdentity with
    ⟨i, hIndex, _⟩
  intro hNone
  have hProperties : e.properties = [] := by
    simpa [aliasedColumns, columns] using hNone
  rw [identityIndex?, hProperties] at hIndex
  cases hIndex

/- Every join lists its columns under the next alias. -/
theorem joinedColumns_of_yields
    {naming : TableNaming}
    {aliases aliases' : AliasMap}
    {joins : List Join}
    {clauses : List JoinClause}
    {s t : ParameterSet}
    (hYields :
      (joinClauses naming aliases joins).Yields s
        (clauses, aliases') t) :
    joinedColumns joins clauses =
      columnsOfTables
        ((joins.zipIdx (aliases.size + 1)).map fun (j, n) =>
          (j.target, ⟨n⟩)) := by
  induction joins generalizing s aliases clauses with
  | nil =>
      simp only [joinClauses, Binding.yields_pure_iff] at hYields
      cases hYields.1
      rfl
  | cons j joins ih =>
      simp only [joinClauses, Binding.yields_bind_iff,
        Binding.yields_pure_iff] at hYields
      rcases hYields with
        ⟨⟨clause, aliases₁⟩, u, hClause, ⟨rest, aliases₂⟩, _,
          hRest, hClauses, rfl⟩
      cases hClauses
      rcases Join.clause_spec hClause with ⟨_, hAlias, hTables⟩
      have hSize : aliases₁.size = aliases.size + 1 := by
        simp [AliasMap.size, hTables]
      have hColumns := ih hRest
      rw [hSize] at hColumns
      simp only [joinedColumns, columnsOfTables, List.zip_cons_cons,
        List.flatMap_cons, List.zipIdx_cons, List.map_cons, hAlias]
          at hColumns ⊢
      rw [hColumns]

/- The plan of a join lists the columns of all its tables. -/
theorem Query.columns_of_yields
    {q : Query}
    {naming : TableNaming}
    {plan : SelectPlan}
    {s t : ParameterSet}
    (hJoined : q.isJoined = true)
    (hPlan : (q.plan naming).Yields s plan t) :
    plan.columns = columnsOfTables q.tables := by
  rw [Query.plan, if_pos hJoined] at hPlan
  simp only [planJoined, Binding.yields_bind_iff,
    Binding.yields_liftM_iff, Binding.yields_pure_iff] at hPlan
  rcases hPlan with
    ⟨column, _, _, ⟨clauses, aliases⟩, _, hClauses, filters, _, _,
      items, _, _, rfl, _⟩
  have hJoins := joinedColumns_of_yields hClauses
  change
    q.root.aliasedColumns ⟨1⟩ ++ joinedColumns q.joins clauses = _
  rw [hJoins]
  rfl

theorem Query.map_fst_tables
    (q : Query) :
    q.tables.map Prod.fst = q.root :: q.joins.map Join.target := by
  have hJoins :
      (q.joins.zipIdx 2).map (Join.target ∘ Prod.fst) =
        q.joins.map Join.target := by
    rw [← List.map_map, List.zipIdx_map_fst]
  rw [tables, List.map_cons, List.map_map]
  exact congrArg (q.root :: ·) hJoins

/- The columns are as many as hydration expects. -/
theorem Query.length_columnsOfTables
    {ρ : Type}
    {q : Query}
    {slots : List (Slot ρ)}
    (hSlots : slots.map Slot.type = q.joins.map Join.target) :
    (columnsOfTables q.tables).length =
      Nesting.expectedWidth q.root slots := by
  have hTables :
      (columnsOfTables q.tables).length =
        ((q.tables.map Prod.fst).map EntityType.width).sum := by
    simp [columnsOfTables, EntityType.aliasedColumns,
      EntityType.columns, EntityType.width, Function.comp_def]
  have hWidths :
      slots.map (fun s => s.type.width) =
        (slots.map Slot.type).map EntityType.width := by
    simp
  rw [hTables, q.map_fst_tables, Nesting.expectedWidth, hWidths,
    hSlots]
  rfl

------------------------------------------------------------
-- Labels
------------------------------------------------------------

/-
  A label belongs to one column of one table: the number of an
  alias ends at the first underscore.
-/
theorem TableAlias.label_injective
    {a b : TableAlias}
    {column other : String}
    (hLabel : a.label column = b.label other) :
    a = b ∧ column = other := by
  have hText :
      a.text.toList ++ '_' :: column.toList =
        b.text.toList ++ '_' :: other.toList := by
    simpa [TableAlias.label] using congrArg String.toList hLabel
  rcases TableAlias.text_append_inj (by decide) hText with
    ⟨hAlias, hColumn⟩
  exact ⟨hAlias, String.toList_injective hColumn⟩

/- The numbers of a page have names that are no labels. -/
theorem TableAlias.label_ne
    {a : TableAlias}
    {column name : String}
    (hName : name.toList.head? = some 'R') :
    a.label column ≠ name := by
  rintro rfl
  simp [TableAlias.label, TableAlias.text] at hName

------------------------------------------------------------
-- Outputs
------------------------------------------------------------

/- An expression of a select list under a name. -/
def Sql.named
    (expression : Sql)
    (label : String) : Sql :=
  expression ++ Sql.words " AS " ++ Sql.name label

namespace SelectPlan

/- The columns of a plan under their labels. -/
def namedColumns
    (plan : SelectPlan) : List Sql :=
  plan.columns.map fun c => Sql.named c.column.sql c.label

/- The numbers of a page: that of the root, and of the row. -/
def rankSql
    (ranking : RootRanking) : Sql :=
  Sql.words "DENSE_RANK() OVER (ORDER BY " ++
    orderSql ranking.order ++ Sql.words ")"

def numberSql
    (plan : SelectPlan) : Sql :=
  Sql.words "ROW_NUMBER() OVER (ORDER BY " ++
    orderSql plan.order ++ Sql.words ")"

/-
  The columns of the query inside a page under their names: its
  two numbers, and the columns of the plan.
-/
def innerColumns
    (plan : SelectPlan)
    (ranking : RootRanking) : List (Sql × String) :=
  (rankSql ranking, "RootNum") :: (plan.numberSql, "RowNum") ::
    plan.columns.map fun c => (c.column.sql, c.label)

/- What a page of roots says after the query inside it. -/
def pageClauses
    (page : Page) : Sql :=
  Sql.words " WHERE " ++ withinPage rootNumber page ++
    Sql.words " ORDER BY " ++ rootNumber ++ Sql.words ", " ++
    rowNumber

/-
  The text lists the columns of the plan under their labels.
  With a page it lists these labels only, and the query inside
  it defines them after the two numbers, in the same order.
-/
def Writes
    (plan : SelectPlan)
    (d : Dialect)
    (page : Option Page)
    (text : String) : Prop :=
  match page with
  | none =>
      ∃ rest,
        text =
          (Sql.words "SELECT " ++ Sql.commaList plan.namedColumns ++
            Sql.words " FROM " ++ rest).text d
  | some _ =>
      ∃ rank number tables rest,
        text =
          (Sql.words "SELECT " ++
            Sql.commaList
              (plan.columns.map fun c => Sql.name c.label) ++
            Sql.words " FROM (SELECT " ++
            Sql.commaList
              (Sql.named rank "RootNum" ::
                Sql.named number "RowNum" :: plan.namedColumns) ++
            Sql.words " FROM " ++ tables ++
            Sql.words ") AS " ++ Sql.name "Paged" ++ rest).text d

/- A row of the query inside a page, under its names. -/
def numberedRow
    (plan : SelectPlan)
    (rank number : Value)
    (r : SelectRow) : List (String × Value) :=
  ("RootNum", rank) :: ("RowNum", number) ::
    plan.columns.map fun c => (c.label, r c.column)

/-
  What a select lists for a row: its columns, or with a page
  what the query inside it has under their labels.
-/
def outputs
    (plan : SelectPlan)
    (page : Option Page)
    (rank number : Value)
    (r : SelectRow) : List Value :=
  match page with
  | none => plan.columns.map fun c => r c.column
  | some _ =>
      plan.columns.map fun c =>
        ((plan.numberedRow rank number r).lookup c.label).getD .null

end SelectPlan

/- Among columns of tables a label finds the column it is of. -/
theorem lookup_label
    {columns : List OutputColumn}
    {c : OutputColumn}
    (hColumns : ∀ c ∈ columns, ∃ a column,
      c = ⟨.qualified a column, a.label column, true⟩)
    (hMem : c ∈ columns)
    (r : SelectRow) :
    (columns.map fun c => (c.label, r c.column)).lookup c.label =
      some (r c.column) := by
  induction columns with
  | nil => cases hMem
  | cons first columns ih =>
      rw [List.map_cons, List.lookup_cons]
      cases hLabel : c.label == first.label with
      | true =>
          rcases hColumns c hMem with ⟨a, column, rfl⟩
          rcases hColumns first List.mem_cons_self with
            ⟨b, other, rfl⟩
          rcases TableAlias.label_injective (beq_iff_eq.mp hLabel)
            with ⟨rfl, rfl⟩
          rfl
      | false =>
          rw [List.forall_mem_cons] at hColumns
          rcases List.mem_cons.mp hMem with rfl | hRest
          · simp at hLabel
          · exact ih hColumns.2 hRest

/- With or without a page every output is its own column. -/
theorem SelectPlan.outputs_eq
    {plan : SelectPlan}
    (hColumns : ∀ c ∈ plan.columns, ∃ a column,
      c = ⟨.qualified a column, a.label column, true⟩)
    (page : Option Page)
    (rank number : Value)
    (r : SelectRow) :
    plan.outputs page rank number r =
      plan.columns.map fun c => r c.column := by
  cases page with
  | none => rfl
  | some page =>
      apply List.map_congr_left
      intro c hMem
      have hFound := lookup_label hColumns hMem r
      rcases hColumns c hMem with ⟨a, column, rfl⟩
      have hRank : a.label column ≠ "RootNum" :=
        TableAlias.label_ne rfl
      have hNumber : a.label column ≠ "RowNum" :=
        TableAlias.label_ne rfl
      simp only [numberedRow, List.lookup_cons,
        beq_eq_false_iff_ne.mpr hRank,
        beq_eq_false_iff_ne.mpr hNumber, hFound, Option.getD_some]

------------------------------------------------------------
-- Text
------------------------------------------------------------

namespace Sql

variable {d : Dialect}

theorem commaList_cons
    {items : List Sql}
    (hItems : items ≠ [])
    (item : Sql) :
    commaList (item :: items) =
      item ++ words ", " ++ commaList items := by
  cases items with
  | nil => exact absurd rfl hItems
  | cons first rest => simp [commaList, joinWith]

end Sql

namespace SelectPlan

variable {plan : SelectPlan}

/- Labelled columns are written under their labels. -/
theorem columnsSql_eq_named
    (hColumns : ∀ c ∈ plan.columns, ∃ a column,
      c = ⟨.qualified a column, a.label column, true⟩) :
    plan.columnsSql = Sql.commaList plan.namedColumns := by
  unfold columnsSql namedColumns
  congr 1
  apply List.map_congr_left
  intro c hMem
  rcases hColumns c hMem with ⟨a, column, rfl⟩
  rfl

theorem exists_tailSql_eq
    (plan : SelectPlan) :
    ∃ tables, plan.tailSql = Sql.words " FROM " ++ tables := by
  unfold tailSql
  simp only [List.append_assoc]
  exact ⟨_, rfl⟩

theorem writes_unpagedSql
    (hColumns : ∀ c ∈ plan.columns, ∃ a column,
      c = ⟨.qualified a column, a.label column, true⟩)
    (d : Dialect) :
    plan.Writes d none (plan.unpagedSql.text d) := by
  rcases plan.exists_tailSql_eq with ⟨tables, hTail⟩
  refine ⟨tables ++ (if plan.order.isEmpty then []
    else Sql.words " ORDER BY " ++ orderSql plan.order), ?_⟩
  simp only [unpagedSql, hTail, columnsSql_eq_named hColumns,
    List.append_assoc]

/- The parts of a page: labels, inner query and clauses. -/
theorem text_rankedSql_layout
    (hColumns : ∀ c ∈ plan.columns, ∃ a column,
      c = ⟨.qualified a column, a.label column, true⟩)
    (hNonempty : plan.columns ≠ [])
    (d : Dialect)
    (ranking : RootRanking)
    (page : Page) :
    (plan.rankedSql ranking page).text d =
      (Sql.words "SELECT " ++ plan.labelsSql ++
        Sql.words " FROM (SELECT " ++
        Sql.commaList
          ((plan.innerColumns ranking).map fun (e, label) =>
            Sql.named e label) ++
        plan.tailSql ++ Sql.words ") AS " ++ pagedTable ++
        pageClauses page).text d := by
  have hNamed : plan.namedColumns ≠ [] := by
    simpa [namedColumns] using hNonempty
  have hInner :
      (plan.columns.map fun c => (c.column.sql, c.label)).map
          (fun (e, label) => Sql.named e label) =
        plan.namedColumns := by
    rw [List.map_map]
    rfl
  have hFrom :
      " FROM (SELECT DENSE_RANK() OVER (ORDER BY " =
        " FROM (SELECT " ++ "DENSE_RANK() OVER (ORDER BY " := by
    simp only [String.reduceAppend]
  have hNumber :
      ", ROW_NUMBER() OVER (ORDER BY " =
        ", " ++ "ROW_NUMBER() OVER (ORDER BY " := by
    simp only [String.reduceAppend]
  have hAs : ") AS " = ")" ++ " AS " := by
    simp only [String.reduceAppend]
  rw [innerColumns, List.map_cons, List.map_cons, hInner,
    Sql.commaList_cons (List.cons_ne_nil _ _),
    Sql.commaList_cons hNamed]
  unfold rankedSql rankSql numberSql pageClauses rootNumber rowNumber
    Sql.named
  rw [columnsSql_eq_named hColumns]
  simp only [Sql.text_append]
  simp only [Sql.text_words]
  rw [hFrom, hNumber, hAs]
  simp only [String.append_assoc]

/- A page lists the labels that the query inside it defines. -/
theorem writes_rankedSql
    (hColumns : ∀ c ∈ plan.columns, ∃ a column,
      c = ⟨.qualified a column, a.label column, true⟩)
    (hNonempty : plan.columns ≠ [])
    (d : Dialect)
    (ranking : RootRanking)
    (page : Page) :
    plan.Writes d (some page) ((plan.rankedSql ranking page).text d) := by
  rcases plan.exists_tailSql_eq with ⟨tables, hTail⟩
  refine ⟨rankSql ranking, plan.numberSql, tables, pageClauses page,
    (text_rankedSql_layout hColumns hNonempty d ranking page).trans ?_⟩
  rw [hTail, innerColumns, List.map_cons, List.map_cons, List.map_map]
  simp only [List.append_assoc]
  rfl

end SelectPlan

------------------------------------------------------------
-- Slices
------------------------------------------------------------

/- The columns of one table on a joined row. -/
def TableAlias.slice
    (a : TableAlias)
    (e : EntityType)
    (r : SelectRow) : Row :=
  ⟨e.columns.map a.label, e.columns.map fun c => r (.qualified a c)⟩

theorem TableAlias.slice_spans
    (a : TableAlias)
    (e : EntityType)
    (r : SelectRow) :
    (a.slice e r).Spans e.width := by
  simp [slice, Row.Spans, EntityType.columns, EntityType.width]

/- A row of all tables is one of their slices. -/
theorem joined_slices
    (tables : List (EntityType × TableAlias))
    (r : SelectRow) :
    Row.joined (tables.map fun (e, a) => a.slice e r) =
      ⟨(columnsOfTables tables).map OutputColumn.label,
        (columnsOfTables tables).map fun c => r c.column⟩ := by
  simp [Row.joined, columnsOfTables, EntityType.aliasedColumns,
    TableAlias.slice, List.flatMap_map, List.map_flatMap,
    Function.comp_def]

/- The slices of the root and of the joins on a row. -/
def Query.slices
    (q : Query)
    (r : SelectRow) : Row × List Row :=
  (TableAlias.root.slice q.root r,
    (q.joins.zipIdx 2).map fun (j, n) =>
      TableAlias.slice ⟨n⟩ j.target r)

theorem Query.slices_eq
    (q : Query)
    (r : SelectRow) :
    (q.slices r).1 :: (q.slices r).2 =
      q.tables.map fun (e, a) => a.slice e r := by
  rw [tables, List.map_cons, List.map_map]
  rfl

theorem Query.fits_slices
    {ρ : Type}
    {q : Query}
    {slots : List (Slot ρ)}
    (hSlots : slots.map Slot.type = q.joins.map Join.target)
    (r : SelectRow) :
    Nesting.Fits q.root slots (q.slices r) := by
  have hJoins (n : Nat) :
      List.Forall₂ (fun slice e => Row.Spans slice e.width)
        ((q.joins.zipIdx n).map fun (j, n) =>
          TableAlias.slice ⟨n⟩ j.target r)
        (q.joins.map Join.target) := by
    generalize q.joins = joins
    induction joins generalizing n with
    | nil => exact .nil
    | cons j joins ih =>
        exact .cons (TableAlias.slice_spans ⟨n⟩ j.target r) (ih (n + 1))
  constructor
  case root_spans => exact TableAlias.root.slice_spans q.root r
  case slots_span =>
    have hSpans := hJoins 2
    rw [← hSlots, List.forall₂_map_right_iff] at hSpans
    exact hSpans

------------------------------------------------------------
-- Layout
------------------------------------------------------------

/- The plan of a join select, and the text that it becomes. -/
theorem Query.exists_plan_of_joined_select
    {q : Query}
    {naming : TableNaming}
    {d : Dialect}
    {st : Statement}
    (hJoined : q.isJoined = true)
    (hStatement : (Request.select q).statement naming d = .ok st) :
    ∃ (plan : SelectPlan) (ranking : RootRanking),
      (Request.select q).draft naming =
        .ok ⟨.select plan q.page, st.params⟩ ∧
      st.sql = (plan.selectSql d q.page).text d ∧
      plan.ranking = some ranking ∧
      plan.columns = columnsOfTables q.tables ∧
      plan.columns ≠ [] := by
  rcases exists_plan_of_select hStatement with
    ⟨plan, checked, hChecked, hPlan, hDraft, hSql⟩
  have hPage : checked = q.page := by
    cases hGiven : q.page with
    | none =>
        unfold checkedPage at hChecked
        rw [hGiven] at hChecked
        cases hChecked
        rfl
    | some page => exact (checkedPage_eq_ok hGiven hChecked).1
  subst hPage
  rcases plansJoin_of_yields hJoined hPlan with
    ⟨column, items, hPlans⟩
  have hNonempty : plan.columns ≠ [] := by
    rw [hPlans.columns]
    exact List.append_ne_nil_of_left_ne_nil
      (EntityType.aliasedColumns_ne_nil hPlans.identity .root) _
  exact ⟨plan, _, hDraft, hSql, hPlans.ranking,
    columns_of_yields hJoined hPlan, hNonempty⟩

/-
  The select list of a join, in every dialect, with a page or
  without one: one output for each column of the root and of
  the joined tables in order, with the value of this column.
  For slots of the joined types these are as many as nested
  hydration expects, and it reads the root from the table `t1`
  and the slot at position `i` from the table `t(i + 2)`.
-/
theorem Query.select_lists_tables_for_hydration
    {q : Query}
    {naming : TableNaming}
    {d : Dialect}
    {st : Statement}
    (hJoined : q.isJoined = true)
    (hStatement : (Request.select q).statement naming d = .ok st) :
    ∃ plan : SelectPlan,
      (Request.select q).draft naming =
        .ok ⟨.select plan q.page, st.params⟩ ∧
      plan.columns = columnsOfTables q.tables ∧
      plan.Writes d q.page st.sql ∧
      (∀ rank number r,
        plan.outputs q.page rank number r =
          plan.columns.map fun c => r c.column) ∧
      ∀ (ρ : Type) (make : Record → ρ) (slots : List (Slot ρ)),
        slots.map Slot.type = q.joins.map Join.target →
        plan.columns.length = Nesting.expectedWidth q.root slots ∧
        ∀ rows : List SelectRow,
          hydrateNested q.root make slots (plan.resultSet rows) =
            hydrateSliced q.root make slots (rows.map q.slices) := by
  rcases exists_plan_of_joined_select hJoined hStatement with
    ⟨plan, ranking, hDraft, hSql, hRanking, hColumns, hNonempty⟩
  have hLabelled : ∀ c ∈ plan.columns, ∃ a column,
      c = ⟨.qualified a column, a.label column, true⟩ := by
    rw [hColumns]
    exact fun _ hMem => mem_columnsOfTables hMem
  refine ⟨plan, hDraft, hColumns, ?_, plan.outputs_eq hLabelled _, ?_⟩
  · rw [hSql]
    cases q.page with
    | none => exact SelectPlan.writes_unpagedSql hLabelled d
    | some page =>
        rw [SelectPlan.selectSql, hRanking]
        exact SelectPlan.writes_rankedSql hLabelled hNonempty d _ page
  · intro ρ make slots hSlots
    have hWidth :
        plan.columns.length = Nesting.expectedWidth q.root slots := by
      rw [hColumns]
      exact q.length_columnsOfTables hSlots
    refine ⟨hWidth, ?_⟩
    intro rows
    apply hydrateNested_joined
    case hColumns => simpa [SelectPlan.resultSet] using hWidth
    case hRows =>
      have hJoinedRow (r : SelectRow) :
          Row.joined ((q.slices r).1 :: (q.slices r).2) =
            ⟨plan.columns.map OutputColumn.label,
              plan.columns.map fun c => r c.column⟩ := by
        rw [q.slices_eq, joined_slices, hColumns]
      simp [SelectPlan.resultSet, ResultSet.rowViews, hJoinedRow]
    case hFits =>
      intro row hMem
      rcases List.mem_map.mp hMem with ⟨r, _, rfl⟩
      exact q.fits_slices hSlots r

------------------------------------------------------------
-- Blogs and posts
------------------------------------------------------------

namespace BlogPosts

/-
  A page of blogs with their posts, and with the blogs of these
  posts in the third table.
-/
theorem rated_page_lists_three_tables :
    let st : Statement :=
      { sql :=
          "SELECT \"t1_id\", \"t1_rating\", \"t2_id\", " ++
          "\"t2_blog_id\", \"t3_id\", \"t3_rating\" FROM " ++
          "(SELECT DENSE_RANK() OVER (ORDER BY " ++
          "t1.\"rating\" DESC, t1.\"id\" ASC) AS " ++
          "\"RootNum\", ROW_NUMBER() OVER (ORDER BY " ++
          "t3.\"rating\" ASC, t1.\"rating\" DESC, " ++
          "t2.\"id\" ASC, t1.\"id\" ASC) AS \"RowNum\", " ++
          "t1.\"id\" AS \"t1_id\", " ++
          "t1.\"rating\" AS \"t1_rating\", " ++
          "t2.\"id\" AS \"t2_id\", " ++
          "t2.\"blog_id\" AS \"t2_blog_id\", " ++
          "t3.\"id\" AS \"t3_id\", " ++
          "t3.\"rating\" AS \"t3_rating\" " ++
          "FROM \"blogs\" t1 LEFT JOIN \"posts\" t2 " ++
          "ON t1.\"id\" = t2.\"blog_id\" " ++
          "INNER JOIN \"blogs\" t3 " ++
          "ON t2.\"blog_id\" = t3.\"id\") AS \"Paged\" " ++
          "WHERE \"RootNum\" > 1 AND \"RootNum\" < 3 " ++
          "ORDER BY \"RootNum\", \"RowNum\""
        params := []
        kind := .select }
    (Request.select ratedQuery).statement {} .sqlite = .ok st ∧
      ∃ plan : SelectPlan,
        (Request.select ratedQuery).draft {} =
          .ok ⟨.select plan (some ⟨2, 1⟩), []⟩ ∧
        plan.columns =
          columnsOfTables [(blog, ⟨1⟩), (post, ⟨2⟩), (blog, ⟨3⟩)] ∧
        plan.Writes .sqlite (some ⟨2, 1⟩) st.sql ∧
        (∀ rank number r,
          plan.outputs (some ⟨2, 1⟩) rank number r =
            plan.columns.map fun c => r c.column) ∧
        ∀ (ρ : Type) (make : Record → ρ) (slots : List (Slot ρ)),
          slots.map Slot.type = [post, blog] →
          plan.columns.length = Nesting.expectedWidth blog slots ∧
          ∀ rows : List SelectRow,
            hydrateNested blog make slots (plan.resultSet rows) =
              hydrateSliced blog make slots
                (rows.map fun r =>
                  (TableAlias.slice ⟨1⟩ blog r,
                    [TableAlias.slice ⟨2⟩ post r,
                      TableAlias.slice ⟨3⟩ blog r])) := by
  intro st
  have hStatement :
      (Request.select ratedQuery).statement {} .sqlite = .ok st := by
    decide +kernel
  exact ⟨hStatement,
    Query.select_lists_tables_for_hydration rfl hStatement⟩

end BlogPosts

end EntitySql
