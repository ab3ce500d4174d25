import EntitySql.Proofs.Predicate.Grammar
import EntitySql.Proofs.Statement.Parameters
import EntitySql.Proofs.Statement.StatementText
import EntitySql.Proofs.Value.Equality
import EntitySql.Session.Provider

/-
  This file says what a database has to do with a table that
  records are inserted into and selected from by key.

  Key definitions include:
    * `CompiledPredicate.HoldsOn`, `CompiledPredicate.ReadsOn`
    * `Sql.InsertsRow`, `Sql.SelectsEqual`
    * `StoredRow`, `TableView`
    * `TableView.Inserts`, `TableView.Selects`

  Key theorems include:
    * `Sql.InsertsRow.unique`, `Sql.SelectsEqual.unique`
    * `Command.insertsRow`
    * `Request.draft_selectByKey`
    * `Request.selectsEqual_keyFilter`
    * `TableView.perm_rowsWith`

  What is asked of the database is said of the text that it is
  sent: if it reads as an insert or as a select by key, then it
  is done. There is at most one way to read it.
-/

namespace EntitySql

------------------------------------------------------------
-- Sent values
------------------------------------------------------------

/- A placeholder stands for the value sent under its name. -/
def Parameter.sent
    (params : List Parameter)
    (p : Parameter) : Parameter :=
  ⟨p.name, (ParameterSet.get? ⟨params⟩ p.name).getD .null⟩

def ConditionOperand.sent
    (params : List Parameter) : ConditionOperand → ConditionOperand
  | .none => .none
  | .parameter p => .parameter (p.sent params)
  | .list ps => .list (ps.map (Parameter.sent params))
  | .column c => .column c

def Fragment.sent
    (params : List Parameter) : Fragment → Fragment
  | .condition c =>
      .condition { c with operand := c.operand.sent params }
  | fragment => fragment

/-
  Read with the values that are sent, the predicate holds
  under a valuation. What is unknown does not hold.
-/
def CompiledPredicate.HoldsOn
    (params : List Parameter)
    (ν : Valuation)
    (p : CompiledPredicate) : Prop :=
  ∃ f,
    Fragment.Derives (p.fragments.map (Fragment.sent params)) f ∧
      f.truth ν = .holds

/-
  Read with the values that are sent, the predicate has this
  truth under a valuation.
-/
def CompiledPredicate.ReadsOn
    (params : List Parameter)
    (ν : Valuation)
    (p : CompiledPredicate)
    (t : Truth) : Prop :=
  ∃ f,
    Fragment.Derives (p.fragments.map (Fragment.sent params)) f ∧
      f.truth ν = t

def Condition.sent
    (params : List Parameter)
    (c : Condition) : Condition :=
  { c with operand := c.operand.sent params }

def Formula.sent
    (params : List Parameter) : Formula → Formula :=
  Formula.map id id (Condition.sent params)

/- With the values that are sent the reading changes alike. -/
theorem Fragment.Derives.sent
    {fs : List Fragment}
    {f : Formula}
    (hDerives : Fragment.Derives fs f)
    (params : List Parameter) :
    Fragment.Derives (fs.map (Fragment.sent params))
      (f.sent params) := by
  have hSame :
      Fragment.sent params =
        Fragment.map id id (Condition.sent params) := by
    funext fragment
    cases fragment <;> rfl
  rw [hSame]
  exact hDerives.map _ _ _

namespace CompiledPredicate

variable {params : List Parameter}
variable {ν : Valuation}
variable {p : CompiledPredicate}
variable {t u : Truth}

/- A predicate has at most one truth. -/
theorem ReadsOn.unique
    (hFirst : p.ReadsOn params ν t)
    (hSecond : p.ReadsOn params ν u) :
    t = u := by
  rcases hFirst with ⟨f, hDerives, rfl⟩
  rcases hSecond with ⟨g, hDerives', rfl⟩
  rw [hDerives.unique hDerives']

/- Of a predicate with a truth, holding is that truth. -/
theorem ReadsOn.holdsOn_iff
    (hReads : p.ReadsOn params ν t) :
    p.HoldsOn params ν ↔ t = .holds := by
  constructor
  · exact hReads.unique
  · rintro rfl
    exact hReads

end CompiledPredicate

------------------------------------------------------------
-- Statements that are read
------------------------------------------------------------

namespace Sql

/-
  SQL whose text is read as the insert of a row. As many
  columns are listed as there are placeholders, and they stand
  in the same order. A parameter may have any name, so it is
  the pieces that tell where each placeholder ends.
-/
structure InsertsRow
    (d : Dialect)
    (t : TableName)
    (identity : String)
    (columns parameters : List String)
    (sql : Sql) : Prop where
  text_eq :
    sql.text d = insertText d t columns parameters identity
  placeholders_eq : sql.placeholders = parameters
  length_eq : columns.length = parameters.length

/-
  SQL whose text is read as a select of columns from the rows
  in which one column equals the only parameter.
-/
structure SelectsEqual
    (d : Dialect)
    (t : TableName)
    (columns : List String)
    (column parameter : String)
    (sql : Sql) : Prop where
  text_eq :
    sql.text d = keySelectText d t columns column parameter
  placeholders_eq : sql.placeholders = [parameter]

variable {d : Dialect}
variable {t : TableName}
variable {sql : Sql}

theorem InsertsRow.unique
    {identity : String}
    {columns others parameters parameters' : List String}
    (hFirst : sql.InsertsRow d t identity columns parameters)
    (hSecond : sql.InsertsRow d t identity others parameters') :
    columns = others ∧ parameters = parameters' := by
  have hParameters : parameters = parameters' :=
    hFirst.placeholders_eq.symm.trans hSecond.placeholders_eq
  subst hParameters
  exact
    ⟨insertText_inj (hFirst.text_eq.symm.trans hSecond.text_eq), rfl⟩

theorem SelectsEqual.unique
    {columns others : List String}
    {column other parameter parameter' : String}
    (hFirst : sql.SelectsEqual d t columns column parameter)
    (hSecond : sql.SelectsEqual d t others other parameter') :
    columns = others ∧ column = other ∧ parameter = parameter' := by
  have hParameter : [parameter] = [parameter'] :=
    hFirst.placeholders_eq.symm.trans hSecond.placeholders_eq
  cases hParameter
  rcases keySelectText_inj
      (hFirst.text_eq.symm.trans hSecond.text_eq) with ⟨rfl, rfl⟩
  exact ⟨rfl, rfl, rfl⟩

end Sql

/- The cells of an insert pair its columns and placeholders. -/
theorem Command.insertsRow
    (d : Dialect)
    (t : TableName)
    (cells : List Cell)
    (identity : String) :
    ((Command.insert t cells identity).sql d).InsertsRow d t identity
      (cells.map Cell.column) (cells.map Cell.parameter) where
  text_eq := Command.text_insert d t cells identity
  placeholders_eq := Command.placeholders_sql _ d
  length_eq := by rw [List.length_map, List.length_map]

------------------------------------------------------------
-- Tables
------------------------------------------------------------

/- A stored row: the value of every column. -/
abbrev StoredRow :=
  String → Value

/- Equality in SQL, which is unknown beside NULL. -/
def Value.equalTruth
    (a b : Value) : Truth :=
  if a.isNull || b.isNull then .unknown
  else .ofBool (a.compare b == some .eq)

/-
  A table with a column that the database fills, and its rows
  in every world.
-/
structure TableView (ω : Type) where
  table : TableName
  identity : String
  rows : ω → List StoredRow

namespace TableView

variable {ω κ : Type}

/-
  A row has been stored with a key, and with the value that is
  sent for the placeholder beside every listed column.
-/
def Stores
    (view : TableView ω)
    (params : List Parameter)
    (columns parameters : List String)
    (key : Value)
    (w w' : ω) : Prop :=
  ∃ new : StoredRow,
    new view.identity = key ∧
    List.Forall₂
      (fun column parameter =>
        ParameterSet.get? ⟨params⟩ parameter = some (new column))
      columns parameters ∧
    (view.rows w').Perm (new :: view.rows w)

/-
  On a connection a statement that is read as an insert into
  the table stores its row and answers the key.
-/
def Inserts
    (view : TableView ω)
    (p : Provider ω κ)
    (conn : κ)
    (d : Dialect)
    (draft : Draft)
    (key : Value)
    (w w' : ω) : Prop :=
  ∀ columns parameters,
    (draft.command.sql d).InsertsRow d view.table view.identity
      columns parameters →
    (p.call conn .scalar (draft.statement d)).runOn w =
        (.ok key, w') ∧
      view.Stores draft.params columns parameters key w w'

/- The rows in which a column equals a value. -/
def rowsWith
    (view : TableView ω)
    (column : String)
    (v : Value)
    (w : ω) : List StoredRow :=
  (view.rows w).filter fun row =>
    (row column).equalTruth v == .holds

/-
  On a connection a statement that is read as a select from the
  table by a column is answered with the listed columns of the
  rows where it equals the value sent, in any order.
-/
def Selects
    (view : TableView ω)
    (p : Provider ω κ)
    (conn : κ)
    (d : Dialect)
    (draft : Draft)
    (w : ω) : Prop :=
  ∀ columns column parameter sent,
    (draft.command.sql d).SelectsEqual d view.table columns column
      parameter →
    ParameterSet.get? ⟨draft.params⟩ parameter = some sent →
    ∃ (chosen : List StoredRow) (w' : ω),
      (p.call conn .reader (draft.statement d)).runOn w =
          (.ok [⟨columns, chosen.map fun row => columns.map row⟩],
            w') ∧
        chosen.Perm (view.rowsWith column sent w)

end TableView

------------------------------------------------------------
-- Selects by key
------------------------------------------------------------

/- The test that selects a row by its key. -/
def keyFilter
    (column : String)
    (key : Value) : CompiledPredicate :=
  ⟨[.condition
    ⟨column, .bare column, .eq, .parameter ⟨column, key⟩⟩]⟩

/- The plan of a select with one filter and nothing else. -/
def Request.filteredPlan
    (e : EntityType)
    (naming : TableNaming)
    (rows : CompiledPredicate) : SelectPlan :=
  { table := e.tableName naming
    ranking := none
    joins := []
    columns := e.bareColumns
    filters := [rows]
    order := [] }

/- A select by key tests one column and binds one value. -/
theorem Request.draft_selectByKey
    {e : EntityType}
    {column : String}
    {key : Value}
    (hColumn : e.identityColumn = .ok column)
    (hNull : key.isNull = false)
    (naming : TableNaming) :
    (Request.selectByKey e key).draft naming =
      .ok
        ⟨.select (filteredPlan e naming (keyFilter column key)) none,
          [⟨column, key⟩]⟩ := by
  let c := ColumnRef.of e column
  let q : Query :=
    (Query.of e).filter (c.compareValue .eq key)
  have hQuery : e.keyQuery key = .ok q := by
    unfold EntityType.keyQuery
    rw [hColumn]
    rfl
  have hResolved :
      (Scope.table e.key).column c = .ok (.bare column) := by
    simp [Scope.column, c, ColumnRef.of]
  have hTest :
      ((Scope.table e.key).valueCondition c .eq key false).Yields
        .empty
        (.condition
          ⟨column, .bare column, .eq, .parameter ⟨column, key⟩⟩)
        ⟨[⟨column, key⟩]⟩ := by
    unfold Scope.valueCondition
    rw [hResolved, hNull]
    rfl
  have hFilters :
      ((Scope.table e.key).compileList q.filters).Yields
        .empty [keyFilter column key] ⟨[⟨column, key⟩]⟩ := by
    change
      (List.mapM (Scope.table e.key).compile
        [c.compareValue .eq key]).Yields _ _ _
    simp only [List.mapM_cons, List.mapM_nil, Scope.compile,
      ColumnRef.compareValue, Scope.fragments, Binding.yields_bind_iff,
      Binding.yields_pure_iff]
    exact ⟨_, _, ⟨_, _, ⟨_, _, hTest, rfl, rfl⟩, rfl, rfl⟩,
      _, _, ⟨rfl, rfl⟩, rfl, rfl⟩
  have hPlan :
      (q.plan naming).Yields .empty
        (filteredPlan e naming (keyFilter column key))
        ⟨[⟨column, key⟩]⟩ := by
    change (q.planFlat naming).Yields _ _ _
    simp only [Query.planFlat, Binding.yields_bind_iff,
      Binding.yields_liftM_iff, Binding.yields_pure_iff]
    exact ⟨_, _, hFilters, _, _, ⟨rfl, rfl⟩, rfl, rfl⟩
  rw [Request.draft_eq_ok_iff]
  simp only [Request.command, Binding.yields_bind_iff,
    Binding.yields_liftM_iff, Binding.yields_pure_iff]
  exact ⟨q, _, ⟨hQuery, rfl⟩, _, _, hPlan, rfl, rfl⟩

/- The columns of a table that stands alone are only quoted. -/
theorem EntityType.map_written_bareColumns
    (e : EntityType)
    (d : Dialect) :
    e.bareColumns.map (OutputColumn.written d) =
      e.columns.map d.quoteName := by
  rw [bareColumns, List.map_map]
  rfl

/- The text of a select with one filter and nothing else. -/
theorem Request.text_filteredPlan
    (e : EntityType)
    (naming : TableNaming)
    (rows : CompiledPredicate)
    (d : Dialect) :
    ((filteredPlan e naming rows).selectSql d none).text d =
      "SELECT " ++ ", ".intercalate (e.columns.map d.quoteName) ++
        " FROM " ++ d.quoteTable (e.tableName naming) ++ " WHERE " ++
        ("(" ++ rows.sql.text d ++ ")") := by
  have hSelect :
      (filteredPlan e naming rows).selectSql d none =
        Sql.words "SELECT " ++
          (filteredPlan e naming rows).columnsSql ++
          (filteredPlan e naming rows).tailSql ++ [] :=
    rfl
  have hColumns :
      (filteredPlan e naming rows).columnsText d =
        ", ".intercalate (e.columns.map d.quoteName) :=
    congrArg _ (e.map_written_bareColumns d)
  have hFrom :
      (filteredPlan e naming rows).fromText d =
        " FROM " ++ d.quoteTable (e.tableName naming) := by
    unfold SelectPlan.fromText filteredPlan
    rw [List.map_nil, String.join_nil, String.append_empty]
    exact String.append_empty
  have hFilters :
      whereText d (filteredPlan e naming rows).filters =
        " WHERE " ++ ("(" ++ rows.sql.text d ++ ")") := by
    unfold whereText conjunctionText filteredPlan
    rw [List.map_singleton, String.intercalate_singleton]
    rfl
  rw [hSelect, List.append_nil, Sql.text_append, Sql.text_append,
    Sql.text_words, SelectPlan.text_columnsSql,
    SelectPlan.text_tailSql, hColumns, hFrom, hFilters]
  simp only [String.append_assoc]

theorem text_keyFilter
    (d : Dialect)
    (column : String)
    (key : Value) :
    (keyFilter column key).sql.text d =
      d.quoteName column ++ " = " ++ d.placeholder column := by
  have hSql :
      (keyFilter column key).sql =
        Sql.name column ++ Sql.words " =" ++
          (Sql.words " " ++ Sql.placeholder column) :=
    rfl
  have hWords : " = " = " =" ++ " " := by
    simp only [String.reduceAppend]
  rw [hSql, hWords]
  simp only [Sql.text_append, Sql.text_words, Sql.text_name,
    Sql.text_placeholder, String.append_assoc]

/- The text of a select by key is read as one. -/
theorem Request.selectsEqual_keyFilter
    (e : EntityType)
    (naming : TableNaming)
    (column : String)
    (key : Value)
    (d : Dialect) :
    ((filteredPlan e naming (keyFilter column key)).selectSql d
        none).SelectsEqual d (e.tableName naming) e.columns column
      column := by
  constructor
  case text_eq =>
    have hWhere : " WHERE (" = " WHERE " ++ "(" := by
      simp only [String.reduceAppend]
    rw [text_filteredPlan, text_keyFilter, keySelectText, hWhere]
    simp only [String.append_assoc]
  case placeholders_eq =>
    rw [SelectPlan.placeholders_selectSql]
    rfl

theorem Value.equalTruth_self
    {v : Value}
    (hNull : v.isNull = false)
    (hNaN : v.isNaN = false) :
    v.equalTruth v = .holds := by
  simp [equalTruth, hNull, compare_self hNull hNaN, Truth.ofBool]

theorem Value.not_equalTruth_holds
    {v w : Value}
    (hOther : v.compare w ≠ some .eq) :
    v.equalTruth w ≠ .holds := by
  have hDiffer : (v.compare w == some .eq) = false := by
    simpa using hOther
  unfold equalTruth
  split
  · exact nofun
  · simp [hDiffer, Truth.ofBool]

/- After the insert of a fresh key one row has that key. -/
theorem TableView.perm_rowsWith
    {ω : Type}
    {view : TableView ω}
    {column : String}
    {key : Value}
    {new : StoredRow}
    {old : List StoredRow}
    {w : ω}
    (hNull : key.isNull = false)
    (hNaN : key.isNaN = false)
    (hNew : new column = key)
    (hFresh : ∀ row ∈ old, (row column).compare key ≠ some .eq)
    (hRows : (view.rows w).Perm (new :: old)) :
    (view.rowsWith column key w).Perm [new] := by
  apply (hRows.filter _).trans
  rw [List.filter_cons_of_pos, List.filter_eq_nil_iff.mpr]
  · intro row hMem
    rw [beq_iff_eq]
    exact Value.not_equalTruth_holds (hFresh row hMem)
  · rw [hNew, beq_iff_eq]
    exact Value.equalTruth_self hNull hNaN

end EntitySql
