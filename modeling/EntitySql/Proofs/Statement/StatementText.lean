import EntitySql.Proofs.Dialect.NameReading
import EntitySql.Proofs.Statement.Paging
import EntitySql.Proofs.Statement.Readable

/-
  The text of statements, spelled out: what an insert, a count
  and a select are written as, the select with and without a
  page.

  Key definitions include:
    * `orderText`, `whereText`, `JoinClause.onText`
    * `SelectPlan.orderedText`, `SelectPlan.countText`
    * `SelectPlan.cutText`, `SelectPlan.rankedText`
    * `insertText`, `keySelectText`

  Key theorems include:
    * `SelectPlan.text_selectSql_none`
    * `SelectPlan.text_selectSql_flat`
    * `SelectPlan.text_selectSql_joined`
    * `SelectPlan.text_countSql`, `Command.text_insert`
    * `insertText_inj`, `keySelectText_inj`

  A definition here is the whole text. It uses neither the
  pieces of SQL nor the functions that put them together, save
  for the predicates between parentheses.
-/

namespace EntitySql

variable {d : Dialect}

------------------------------------------------------------
-- Names and lists
------------------------------------------------------------

namespace Sql

theorem text_nil :
    text d [] = "" :=
  rfl

theorem text_placeholder
    (parameter : String) :
    (placeholder parameter).text d = d.placeholder parameter := by
  simp [text, placeholder, Piece.text]

theorem text_table
    (t : TableName) :
    (table t).text d = d.quoteTable t := by
  unfold table Dialect.quoteTable
  cases t.schema <;> simp [text, Piece.text, String.append_assoc]

theorem text_parenthesized
    (sql : Sql) :
    sql.parenthesized.text d = "(" ++ sql.text d ++ ")" := by
  rw [parenthesized, text_append, text_append, text_words, text_words]

/- Items are written with the same words between any two. -/
theorem text_joinWith
    (separator : String)
    (items : List Sql) :
    (joinWith separator items).text d =
      separator.intercalate (items.map (Sql.text d)) := by
  induction items with
  | nil => rfl
  | cons first rest ih =>
      cases rest with
      | nil => simp [joinWith]
      | cons second rest =>
          rw [List.map_cons, List.map_cons,
            String.intercalate_cons_cons, ← List.map_cons, ← ih]
          simp only [joinWith, List.flatMap_cons, text_append,
            text_words, String.append_assoc]

theorem text_commaList
    (items : List Sql) :
    (commaList items).text d =
      ", ".intercalate (items.map (Sql.text d)) :=
  text_joinWith ", " items

theorem text_flatMap
    {α : Type}
    (f : α → Sql)
    (xs : List α) :
    Sql.text d (xs.flatMap f) =
      String.join (xs.map fun x => (f x).text d) := by
  induction xs with
  | nil => rfl
  | cons x xs ih =>
      rw [List.flatMap_cons, text_append, ih, List.map_cons,
        String.join_cons]

end Sql

------------------------------------------------------------
-- Columns, orders and predicates
------------------------------------------------------------

/- A column under its alias, if it has one. -/
def ColumnExpr.written
    (d : Dialect) : ColumnExpr → String
  | .bare column => d.quoteName column
  | .qualified a column => a.text ++ "." ++ d.quoteName column
  | .verbatim text => text

theorem ColumnExpr.text_sql
    (column : ColumnExpr) :
    column.sql.text d = column.written d := by
  cases column <;>
    simp [sql, written, Sql.text, Sql.Piece.text, String.append_assoc]

/- A column of the select list, with its label. -/
def OutputColumn.written
    (d : Dialect)
    (c : OutputColumn) : String :=
  if c.labelled then c.column.written d ++ " AS " ++ d.quoteName c.label
  else c.column.written d

theorem OutputColumn.text_sql
    (c : OutputColumn) :
    c.sql.text d = c.written d := by
  unfold sql written
  split
  · rw [Sql.text_append, Sql.text_append, ColumnExpr.text_sql,
      Sql.text_words, Sql.text_name]
  · exact c.column.text_sql

def OrderItem.written
    (d : Dialect)
    (item : OrderItem) : String :=
  item.column.written d ++ " " ++ item.direction.text

theorem OrderItem.text_sql
    (item : OrderItem) :
    item.sql.text d = item.written d := by
  rw [sql, Sql.text_append, ColumnExpr.text_sql, Sql.text_words,
    written, String.append_assoc]

/- What stands behind ORDER BY. -/
def orderText
    (d : Dialect)
    (items : List OrderItem) : String :=
  ", ".intercalate (items.map (OrderItem.written d))

theorem text_orderSql
    (items : List OrderItem) :
    (orderSql items).text d = orderText d items := by
  rw [orderSql, Sql.text_commaList, List.map_map, orderText]
  congr 1
  exact List.map_congr_left fun item _ => item.text_sql

/- Predicates that all have to hold, each in parentheses. -/
def conjunctionText
    (d : Dialect)
    (ps : List CompiledPredicate) : String :=
  " AND ".intercalate (ps.map fun p => "(" ++ p.sql.text d ++ ")")

theorem text_conjunctionSql
    (ps : List CompiledPredicate) :
    (conjunctionSql ps).text d = conjunctionText d ps := by
  rw [conjunctionSql, Sql.text_joinWith, List.map_map, conjunctionText]
  congr 1
  exact List.map_congr_left fun p _ => Sql.text_parenthesized p.sql

/- The clause of some filters, which may be none. -/
def whereText
    (d : Dialect)
    (ps : List CompiledPredicate) : String :=
  if ps.isEmpty then "" else " WHERE " ++ conjunctionText d ps

------------------------------------------------------------
-- Joins
------------------------------------------------------------

namespace JoinClause

/- The predicate of a join behind its equality. -/
def conditionText
    (d : Dialect)
    (j : JoinClause) : String :=
  match j.condition with
  | some p => " AND " ++ "(" ++ p.sql.text d ++ ")"
  | none => ""

/- What stands behind ON: an equality, and the predicate. -/
def onText
    (d : Dialect)
    (j : JoinClause) : String :=
  j.source.written d ++ " = " ++ j.dest.written d ++ j.conditionText d

def written
    (d : Dialect)
    (j : JoinClause) : String :=
  " " ++ j.kind.text ++ " " ++ d.quoteTable j.table ++ " " ++
    j.tableAlias.text ++ " ON " ++ j.onText d

theorem text_sql
    (j : JoinClause) :
    j.sql.text d = j.written d := by
  have hAlias :
      Sql.text d
          [.words " ", .tableAlias j.tableAlias, .words " ON "] =
        " " ++ j.tableAlias.text ++ " ON " := by
    simp [Sql.text, Sql.Piece.text, String.append_assoc]
  unfold sql written onText conditionText
  simp only [Sql.text_append, Sql.text_words, Sql.text_table,
    ColumnExpr.text_sql, hAlias]
  cases j.condition with
  | none => simp only [Sql.text_nil, String.append_assoc]
  | some p =>
      simp only [Sql.text_append, Sql.text_words,
        Sql.text_parenthesized, String.append_assoc]

/- Both sides of the equality stand under their aliases. -/
theorem text_sql_qualified
    {j : JoinClause}
    {a b : TableAlias}
    {source dest : String}
    (hSource : j.source = .qualified a source)
    (hDest : j.dest = .qualified b dest)
    (d : Dialect) :
    j.sql.text d =
      " " ++ j.kind.text ++ " " ++ d.quoteTable j.table ++ " " ++
        j.tableAlias.text ++ " ON " ++ a.text ++ "." ++
        d.quoteName source ++ " = " ++ b.text ++ "." ++
        d.quoteName dest ++ j.conditionText d := by
  rw [j.text_sql, written, onText, hSource, hDest,
    ColumnExpr.written, ColumnExpr.written]
  simp only [String.append_assoc]

end JoinClause

------------------------------------------------------------
-- Selects
------------------------------------------------------------

namespace SelectPlan

/- The select list. -/
def columnsText
    (d : Dialect)
    (plan : SelectPlan) : String :=
  ", ".intercalate (plan.columns.map (OutputColumn.written d))

/- The labels of the select list. -/
def labelsText
    (d : Dialect)
    (plan : SelectPlan) : String :=
  ", ".intercalate (plan.columns.map fun c => d.quoteName c.label)

/- The tables, and how they are joined. -/
def fromText
    (d : Dialect)
    (plan : SelectPlan) : String :=
  " FROM " ++ d.quoteTable plan.table ++
    (match plan.ranking with
    | some ranking => " " ++ ranking.tableAlias.text
    | none => "") ++
    String.join (plan.joins.map (JoinClause.written d))

/- All rows, in their order. -/
def orderedText
    (d : Dialect)
    (plan : SelectPlan) : String :=
  "SELECT " ++ plan.columnsText d ++ plan.fromText d ++
    whereText d plan.filters ++ " ORDER BY " ++ orderText d plan.order

/- The rows of one table, cut by a length or by row numbers. -/
def cutText
    (d : Dialect)
    (plan : SelectPlan) : RowCut → String
  | .limit size offset =>
      plan.orderedText d ++ (" LIMIT " ++ toString size) ++
        match offset with
        | some n => " OFFSET " ++ toString n
        | none => ""
  | .between above below =>
      "SELECT " ++ plan.labelsText d ++
        " FROM (SELECT ROW_NUMBER() OVER (ORDER BY " ++
        orderText d plan.order ++ ") AS " ++ d.quoteName "RowNum" ++
        ", " ++ plan.columnsText d ++ plan.fromText d ++
        whereText d plan.filters ++ ") AS " ++ d.quoteName "Paged" ++
        " WHERE " ++ d.quoteName "RowNum" ++ " > " ++
        toString above ++ " AND " ++ d.quoteName "RowNum" ++ " < " ++
        toString below ++ " ORDER BY " ++ d.quoteName "RowNum"

/-
  The rows of the roots whose number lies between two bounds.
  Roots are numbered in an order of their own.
-/
def rankedText
    (d : Dialect)
    (plan : SelectPlan)
    (roots : List OrderItem)
    (above below : Nat) : String :=
  "SELECT " ++ plan.labelsText d ++
    " FROM (SELECT DENSE_RANK() OVER (ORDER BY " ++
    orderText d roots ++ ") AS " ++ d.quoteName "RootNum" ++
    ", ROW_NUMBER() OVER (ORDER BY " ++ orderText d plan.order ++
    ") AS " ++ d.quoteName "RowNum" ++ ", " ++ plan.columnsText d ++
    plan.fromText d ++ whereText d plan.filters ++ ") AS " ++
    d.quoteName "Paged" ++ " WHERE " ++ d.quoteName "RootNum" ++
    " > " ++ toString above ++ " AND " ++ d.quoteName "RootNum" ++
    " < " ++ toString below ++ " ORDER BY " ++
    d.quoteName "RootNum" ++ ", " ++ d.quoteName "RowNum"

/- The number of rows, or of the different values of a key. -/
def countText
    (d : Dialect)
    (plan : SelectPlan)
    (key : Option ColumnExpr) : String :=
  "SELECT COUNT(" ++
    (match key with
    | some key => "DISTINCT " ++ key.written d
    | none => "*") ++
    ")" ++ plan.fromText d ++ whereText d plan.filters

variable {plan : SelectPlan}

theorem text_columnsSql
    (plan : SelectPlan) :
    plan.columnsSql.text d = plan.columnsText d := by
  rw [columnsSql, Sql.text_commaList, List.map_map, columnsText]
  congr 1
  exact List.map_congr_left fun c _ => c.text_sql

theorem text_labelsSql
    (plan : SelectPlan) :
    plan.labelsSql.text d = plan.labelsText d := by
  rw [labelsSql, Sql.text_commaList, List.map_map, labelsText]
  have hNames :
      plan.columns.map (Sql.text d ∘ fun c => Sql.name c.label) =
        plan.columns.map fun c => d.quoteName c.label :=
    List.map_congr_left fun c _ => Sql.text_name c.label
  rw [hNames]

theorem text_tailSql
    (plan : SelectPlan) :
    plan.tailSql.text d =
      plan.fromText d ++ whereText d plan.filters := by
  have hJoins :
      Sql.text d (plan.joins.flatMap JoinClause.sql) =
        String.join (plan.joins.map (JoinClause.written d)) := by
    rw [Sql.text_flatMap]
    congr 1
    exact List.map_congr_left fun j _ => j.text_sql
  unfold tailSql fromText whereText
  simp only [Sql.text_append, Sql.text_words, Sql.text_table, hJoins]
  congr 1
  · cases plan.ranking with
    | none => rfl
    | some ranking => simp [Sql.text, Sql.Piece.text]
  · split
    · rfl
    · rw [Sql.text_append, Sql.text_words, text_conjunctionSql]

/- The select list, the tables, the filters and the order. -/
theorem text_ordered
    (plan : SelectPlan) :
    Sql.text d
        (Sql.words "SELECT " ++ plan.columnsSql ++ plan.tailSql ++
          Sql.words " ORDER BY " ++ orderSql plan.order) =
      plan.orderedText d := by
  simp only [Sql.text_append, Sql.text_words, text_columnsSql,
    text_tailSql, text_orderSql, orderedText, String.append_assoc]

theorem text_cutSql
    (plan : SelectPlan)
    (cut : RowCut) :
    (plan.cutSql cut).text d = plan.cutText d cut := by
  cases cut with
  | limit size offset =>
      cases offset with
      | none =>
          rw [cutSql, Sql.text_append, Sql.text_append, text_ordered,
            Sql.text_words]
          rfl
      | some n =>
          rw [cutSql, Sql.text_append, Sql.text_append, text_ordered,
            Sql.text_words, Sql.text_words]
          rfl
  | between above below =>
      unfold cutSql cutText rowNumber pagedTable
      simp only [Sql.text_append]
      simp only [Sql.text_words, Sql.text_name, text_columnsSql,
        text_labelsSql, text_tailSql, text_orderSql]
      simp only [String.append_assoc]

/-
  A page of roots lies between the bounds of the page, and it
  numbers the roots in the order of the ranking.
-/
theorem text_rankedSql
    (plan : SelectPlan)
    (ranking : RootRanking)
    (page : Page) :
    (plan.rankedSql ranking page).text d =
      plan.rankedText d ranking.order page.offset page.upper := by
  unfold rankedSql rankedText withinPage rootNumber rowNumber pagedTable
  simp only [Sql.text_append]
  simp only [Sql.text_words, Sql.text_name,
    text_columnsSql, text_labelsSql, text_tailSql, text_orderSql]
  simp only [String.append_assoc]

/- Without a page a select ends with its order. -/
theorem text_selectSql_none
    (hOrder : plan.order ≠ [])
    (d : Dialect) :
    (plan.selectSql d none).text d = plan.orderedText d := by
  have hItems : plan.order.isEmpty = false := by
    simpa using hOrder
  rw [← text_ordered]
  simp only [selectSql, unpagedSql, hItems, Bool.false_eq_true,
    if_false, List.append_assoc]

/- Over one table a page is cut as the dialect does it. -/
theorem text_selectSql_flat
    (hRanking : plan.ranking = none)
    (d : Dialect)
    (page : Page) :
    (plan.selectSql d (some page)).text d =
      plan.cutText d (page.cut d.pageStyle) := by
  rw [selectSql_eq_cutSql hRanking, text_cutSql]

/- A page of a join is cut by the ranks of its roots. -/
theorem text_selectSql_joined
    {ranking : RootRanking}
    (hRanking : plan.ranking = some ranking)
    (d : Dialect)
    (page : Page) :
    (plan.selectSql d (some page)).text d =
      plan.rankedText d ranking.order page.offset page.upper := by
  rw [← text_rankedSql]
  simp only [selectSql, hRanking]

theorem text_countSql
    (plan : SelectPlan) :
    plan.countSql.text d =
      plan.countText d (plan.ranking.map RootRanking.key) := by
  unfold countSql countText
  cases plan.ranking <;>
    simp only [Option.map_none, Option.map_some, Sql.text_append,
      Sql.text_words, ColumnExpr.text_sql, text_tailSql,
      String.append_assoc]

/- A page of a join and the number of its roots, in one text. -/
theorem text_selectWithCount
    {ranking : RootRanking}
    (hRanking : plan.ranking = some ranking)
    (d : Dialect)
    (page : Page) :
    ((Command.selectWithCount plan (some page)).sql d).text d =
      plan.rankedText d ranking.order page.offset page.upper ++ "; " ++
        plan.countText d (some ranking.key) := by
  rw [Command.sql, Sql.text_append, Sql.text_append, Sql.text_words,
    text_selectSql_joined hRanking, text_countSql, hRanking,
    Option.map_some]

/-
  A select has its tables and filters between two parts that
  come from its columns, its ranking and its order.
-/
theorem exists_selectSql_around
    (plan : SelectPlan)
    (d : Dialect)
    (page : Option Page) :
    ∃ before after, ∀ other : SelectPlan,
      other.columns = plan.columns →
      other.ranking = plan.ranking →
      other.order = plan.order →
      other.selectSql d page = before ++ other.tailSql ++ after := by
  cases page with
  | none =>
      refine ⟨Sql.words "SELECT " ++ plan.columnsSql,
        if plan.order.isEmpty then []
        else Sql.words " ORDER BY " ++ orderSql plan.order, ?_⟩
      intro other hColumns _ hOrder
      rw [selectSql, unpagedSql, hOrder, columnsSql, hColumns,
        columnsSql]
  | some page =>
      cases hRanked : plan.ranking with
      | some ranking =>
          refine ⟨
            Sql.words "SELECT " ++ plan.labelsSql ++
              Sql.words " FROM (SELECT DENSE_RANK() OVER (ORDER BY " ++
              orderSql ranking.order ++ Sql.words ") AS " ++
              rootNumber ++
              Sql.words ", ROW_NUMBER() OVER (ORDER BY " ++
              orderSql plan.order ++ Sql.words ") AS " ++ rowNumber ++
              Sql.words ", " ++ plan.columnsSql,
            Sql.words ") AS " ++ pagedTable ++ Sql.words " WHERE " ++
              withinPage rootNumber page ++ Sql.words " ORDER BY " ++
              rootNumber ++ Sql.words ", " ++ rowNumber, ?_⟩
          intro other hColumns hRanking hOrder
          simp only [selectSql, hRanking]
          unfold rankedSql columnsSql labelsSql
          rw [hOrder, hColumns]
          simp only [List.append_assoc]
      | none =>
          cases hStyle : d.pageStyle with
          | limitOffset =>
              refine ⟨Sql.words "SELECT " ++ plan.columnsSql,
                Sql.words " ORDER BY " ++ orderSql plan.order ++
                  Sql.words (" LIMIT " ++ toString page.size.toNat) ++
                  if page.offset = 0 then []
                  else
                    Sql.words (" OFFSET " ++ toString page.offset), ?_⟩
              intro other hColumns hRanking hOrder
              simp only [selectSql, hRanking, hStyle, limitedSql,
                hOrder, columnsSql, hColumns, List.append_assoc]
          | rowNumber =>
              refine ⟨
                Sql.words "SELECT " ++ plan.labelsSql ++
                  Sql.words
                    " FROM (SELECT ROW_NUMBER() OVER (ORDER BY " ++
                  orderSql plan.order ++ Sql.words ") AS " ++
                  rowNumber ++ Sql.words ", " ++ plan.columnsSql,
                Sql.words ") AS " ++ pagedTable ++
                  Sql.words " WHERE " ++ withinPage rowNumber page ++
                  Sql.words " ORDER BY " ++ rowNumber, ?_⟩
              intro other hColumns hRanking hOrder
              simp only [selectSql, hRanking, hStyle, rowNumberedSql,
                hOrder, columnsSql, labelsSql, hColumns,
                List.append_assoc]

/- What depends on the filters of a select is their clause. -/
theorem exists_text_selectSql
    (plan : SelectPlan)
    (d : Dialect)
    (page : Option Page) :
    ∃ front back, ∀ filters, filters ≠ [] →
      (selectSql { plan with filters := filters } d page).text d =
        front ++ " WHERE " ++ conjunctionText d filters ++ back := by
  rcases plan.exists_selectSql_around d page with
    ⟨before, after, hAround⟩
  refine ⟨before.text d ++ plan.fromText d, after.text d, ?_⟩
  intro filters hSome
  have hSelect :=
    hAround { plan with filters := filters } rfl rfl rfl
  have hFilters : filters.isEmpty = false := by
    simpa using hSome
  have hFrom :
      fromText d { plan with filters := filters } = plan.fromText d :=
    rfl
  rw [hSelect, Sql.text_append, Sql.text_append, text_tailSql, hFrom,
    whereText, hFilters]
  simp only [Bool.false_eq_true, if_false, String.append_assoc]

end SelectPlan

------------------------------------------------------------
-- Inserts and selects by key
------------------------------------------------------------

/-
  The insert of one row. It lists columns, and in the same
  order a placeholder for each of them, and reports the key.
-/
def insertText
    (d : Dialect)
    (t : TableName)
    (columns parameters : List String)
    (identity : String) : String :=
  "INSERT INTO " ++ d.quoteTable t ++
    (if columns.isEmpty then " DEFAULT VALUES"
    else
      " (" ++ ", ".intercalate (columns.map d.quoteName) ++
        ") VALUES (" ++
        ", ".intercalate (parameters.map d.placeholder) ++ ")") ++
    match d with
    | .sqlite | .postgres => " RETURNING " ++ d.quoteName identity
    | .sqlServer => "; SELECT SCOPE_IDENTITY()"

/- Columns of the rows where one of them equals a parameter. -/
def keySelectText
    (d : Dialect)
    (t : TableName)
    (columns : List String)
    (column parameter : String) : String :=
  "SELECT " ++ ", ".intercalate (columns.map d.quoteName) ++
    " FROM " ++ d.quoteTable t ++ " WHERE (" ++ d.quoteName column ++
    " = " ++ d.placeholder parameter ++ ")"

theorem Dialect.text_identityReport
    (d : Dialect)
    (identity : String) :
    (d.identityReport (Sql.name identity)).text d =
      match d with
      | .sqlite | .postgres => " RETURNING " ++ d.quoteName identity
      | .sqlServer => "; SELECT SCOPE_IDENTITY()" := by
  cases d with
  | sqlServer => rfl
  | sqlite | postgres =>
      rw [identityReport, Sql.text_append, Sql.text_words,
        Sql.text_name]

/- Every column of an insert stands at the place of its cell. -/
theorem text_insertedSql
    (cells : List Cell) :
    (insertedSql cells).text d =
      if cells.isEmpty then " DEFAULT VALUES"
      else
        " (" ++
          ", ".intercalate (cells.map fun c => d.quoteName c.column) ++
          ") VALUES (" ++
          ", ".intercalate
            (cells.map fun c => d.placeholder c.parameter) ++ ")" := by
  have hColumns :
      cells.map (Sql.text d ∘ fun c => Sql.name c.column) =
        cells.map fun c => d.quoteName c.column :=
    List.map_congr_left fun c _ => Sql.text_name c.column
  have hParameters :
      cells.map (Sql.text d ∘ fun c => Sql.placeholder c.parameter) =
        cells.map fun c => d.placeholder c.parameter :=
    List.map_congr_left fun c _ => Sql.text_placeholder c.parameter
  have hOpening : " (" = " " ++ "(" := by
    simp only [String.reduceAppend]
  have hBetween : ") VALUES (" = ")" ++ " VALUES " ++ "(" := by
    simp only [String.reduceAppend]
  unfold insertedSql
  split
  · rfl
  · rw [hOpening, hBetween]
    simp only [Sql.text_append]
    simp only [Sql.text_words, Sql.text_parenthesized,
      Sql.text_commaList, List.map_map, hColumns, hParameters]
    simp only [String.append_assoc]

theorem Command.text_insert
    (d : Dialect)
    (t : TableName)
    (cells : List Cell)
    (identity : String) :
    ((Command.insert t cells identity).sql d).text d =
      insertText d t (cells.map Cell.column)
        (cells.map Cell.parameter) identity := by
  unfold sql insertText
  rw [Sql.text_append, Sql.text_append, Sql.text_append,
    Sql.text_words, Sql.text_table, d.text_identityReport,
    text_insertedSql, List.isEmpty_map, List.map_map, List.map_map]
  rfl

/- The text of an insert tells which columns it lists. -/
theorem insertText_inj
    {t : TableName}
    {columns others parameters : List String}
    {identity : String}
    (hSame :
      insertText d t columns parameters identity =
        insertText d t others parameters identity) :
    columns = others := by
  unfold insertText at hSame
  simp only [String.append_assoc, String.append_right_inj] at hSame
  cases columns with
  | nil =>
      cases others with
      | nil => rfl
      | cons other others =>
          have hTexts := congrArg String.toList hSame
          simp at hTexts
  | cons column columns =>
      cases others with
      | nil =>
          have hTexts := congrArg String.toList hSame
          simp at hTexts
      | cons other others =>
          simp only [List.isEmpty_cons, Bool.false_eq_true, if_false,
            String.append_assoc, String.append_right_inj] at hSame
          exact (Dialect.intercalate_quoteName_inj
            d.endsNames_parenthesis (by simp) (by simp) hSame).1

/- The text of a select by key tells all columns in it. -/
theorem keySelectText_inj
    {t : TableName}
    {columns others : List String}
    {column other parameter : String}
    (hSame :
      keySelectText d t columns column parameter =
        keySelectText d t others other parameter) :
    columns = others ∧ column = other := by
  unfold keySelectText at hSame
  simp only [String.append_assoc, String.append_right_inj] at hSame
  rcases Dialect.intercalate_quoteName_inj d.endsNames_blank (by simp)
    (by simp) hSame with ⟨rfl, hBehind⟩
  simp only [String.append_right_inj] at hBehind
  have hHead :
      (" = " ++ (d.placeholder parameter ++ ")")).toList.head? ≠
        some d.quoting.closing := by
    cases d <;> simp [Dialect.quoting]
  exact ⟨rfl, (Dialect.quoteName_append_inj hHead hHead hBehind).1⟩

end EntitySql
