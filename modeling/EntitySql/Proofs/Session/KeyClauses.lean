import EntitySql.Proofs.Predicate.FoldedTests
import EntitySql.Proofs.Session.InsertGet
import EntitySql.Proofs.Session.WhereClauses

/-
  Updates and deletes of a record, and selects by its key, have
  WHERE clauses that hold on the same rows, unless the key is
  NULL: then a select finds the rows without a key, and the
  others find none.

  Key definitions include:
    * `ValueTests.RespectsEqual`
    * `RowFilter.ReadsOn`
    * `Request.ClauseReads`

  Key theorems include:
    * `Request.update_reads`
    * `Request.delete_reads`
    * `Request.selectByKey_reads`
    * `Request.key_clauses_agree_iff`
-/

namespace EntitySql

------------------------------------------------------------
-- Equal values in tests
------------------------------------------------------------

/- The two zeros compare alike, as all equal values do. -/
def ValueTests.RespectsEqual
    (κ : ValueTests) : Prop :=
  ∀ x v w, v.equal w = true → κ.compare x v = κ.compare x w

theorem ValueTests.RespectsEqual.truth_eq
    {κ : ValueTests}
    {v w : Value}
    (hRespects : κ.RespectsEqual)
    (hValue : v = w ∨ v.equal w = true)
    (op : CompareOp)
    (x : Value) :
    κ.truth op x v = κ.truth op x w := by
  rcases hValue with rfl | hEqual
  · rfl
  · rcases Value.eq_or_floats_of_equal hEqual with
      rfl | ⟨a, b, rfl, rfl, _⟩
    · rfl
    · unfold truth
      rw [hRespects x _ _ hEqual]
      rfl

/- Constants are compared so. -/
theorem ValueTests.ofConstants_respectsEqual :
    ofConstants.RespectsEqual := by
  intro x v w hEqual
  rcases Value.eq_or_floats_of_equal hEqual with
    rfl | ⟨a, b, rfl, rfl, hNumbers⟩
  · rfl
  · rcases Double.equal_iff.mp hNumbers with ⟨hLeft, hRight, hKeys⟩
    cases x <;>
      simp [ofConstants, Value.compare, Double.compare, hLeft,
        hRight, hKeys]

------------------------------------------------------------
-- Filters on rows
------------------------------------------------------------

/-
  Read with the values that are sent, a filter has this truth
  under a valuation.
-/
def RowFilter.ReadsOn
    (params : List Parameter)
    (ν : Valuation)
    (rows : RowFilter)
    (t : Truth) : Prop :=
  match rows with
  | .keyEquals key =>
      ∃ v, ParameterSet.get? ⟨params⟩ key.parameter = some v ∧
        ν ⟨.bare key.column, .eq, .value v⟩ = t
  | .matching p => p.ReadsOn params ν t

/-
  A cell that is filled with a value compares its column with
  that value, although the one sent may only equal it.
-/
theorem Cell.FilledBy.readsOn
    {params : List Parameter}
    {key : Cell}
    {column : String}
    {v : Value}
    {κ : ValueTests}
    (hFilled : key.FilledBy params (column, v))
    (hNames : (params.map Parameter.name).Nodup)
    (hRespects : κ.RespectsEqual)
    (row : ColumnExpr → Value) :
    (RowFilter.keyEquals key).ReadsOn params (κ.onRow row)
      (κ.truth .eq (row (.bare column)) v) := by
  rcases hFilled with ⟨rfl, p, hMem, hName, hValue⟩
  refine ⟨p.value, ?_, hRespects.truth_eq hValue .eq _⟩
  simp only [ParameterSet.get?, ← hName,
    find?_name_eq_some hNames hMem, Option.map_some]

/- A key is bound behind whatever was bound before. -/
theorem Record.exists_bindKey
    {r : Record}
    {i : Nat}
    {s : ParameterSet}
    (hIndex : r.type.identityIndex? = some i)
    (hNames : s.names.Nodup) :
    ∃ key t, r.bindKey.Yields s key t ∧
      (t.params.map Parameter.name).Nodup ∧
      key.FilledBy t.params (r.type.columns.getD i "", r.value i) := by
  have hColumn :=
    EntityType.identityColumn_eq_ok_iff.mpr ⟨i, hIndex, rfl⟩
  have hValue := Record.identityValue_eq_ok_iff.mpr ⟨i, hIndex, rfl⟩
  have hYields : ∃ key t, r.bindKey.Yields s key t := by
    simp only [bindKey, hColumn, hValue, Binding.yields_bind_iff,
      Binding.yields_liftM_iff]
    exact ⟨_, _, _, _, ⟨rfl, rfl⟩, _, _, ⟨rfl, rfl⟩, rfl⟩
  rcases hYields with ⟨key, t, hYields⟩
  have hFills := r.bindKey_fills hYields
  have hFilled := hFills.filled
  simp only [suppliedKey, hIndex, Option.toList_some, List.map_cons,
    List.map_nil, List.forall₂_cons] at hFilled
  exact ⟨key, t, hYields, hFills.distinct hNames, hFilled.1⟩

theorem Scope.compile_valueCondition
    {scope : Scope}
    {c : ColumnRef}
    {op : CompareOp}
    {v : Value}
    {s t : ParameterSet}
    {fragment : Fragment}
    (hTest :
      (scope.valueCondition c op v false).Yields s fragment t) :
    (scope.compile (c.compareValue op v)).Yields s ⟨[fragment]⟩ t := by
  simp only [compile, ColumnRef.compareValue, fragments,
    Binding.yields_bind_iff, Binding.yields_pure_iff]
  exact ⟨_, _, ⟨_, _, hTest, rfl, rfl⟩, rfl, rfl⟩

/-
  In its own table the equality of a column with a value
  compiles, and it asks for rows without a value if the value
  is NULL.
-/
theorem Scope.exists_compile_equality
    {κ : ValueTests}
    {s : ParameterSet}
    (e : EntityType)
    (column : String)
    (v : Value)
    (hNames : s.names.Nodup)
    (hRespects : κ.RespectsEqual) :
    ∃ compiled t,
      ((Scope.table e.key).compile
        ((ColumnRef.of e column).compareValue .eq v)).Yields
          s compiled t ∧
      ∀ row, compiled.ReadsOn t.params (κ.onRow row)
        (if v.isNull then .ofBool (row (.bare column)).isNull
        else κ.truth .eq (row (.bare column)) v) := by
  have hResolved :
      (Scope.table e.key).column (ColumnRef.of e column) =
        .ok (.bare column) := by
    simp [Scope.column, ColumnRef.of]
  cases hNull : v.isNull with
  | true =>
      let c : Condition := ⟨column, .bare column, .isNull, .none⟩
      refine ⟨⟨[.condition c]⟩, s, ?_, ?_⟩
      · have hTest :
            ((Scope.table e.key).valueCondition
              (ColumnRef.of e column) .eq v false).Yields s
              (.condition c) s := by
          unfold valueCondition
          rw [hResolved, hNull]
          rfl
        exact compile_valueCondition hTest
      · intro row
        exact ⟨.condition c, .condition c, rfl⟩
  | false =>
      let p : Parameter := ⟨(s.bind column v).1, v⟩
      let c : Condition := ⟨column, .bare column, .eq, .parameter p⟩
      refine ⟨⟨[.condition c]⟩, (s.bind column v).2, ?_, ?_⟩
      · have hTest :
            ((Scope.table e.key).valueCondition
              (ColumnRef.of e column) .eq v false).Yields s
              (.condition c) (s.bind column v).2 := by
          unfold valueCondition
          rw [hResolved, hNull]
          rfl
        exact compile_valueCondition hTest
      · intro row
        have hFills := ParameterSet.fills_bind s column v
        have hFilled := (List.forall₂_cons.mp hFills.filled).1
        rcases hFilled.readsOn (hFills.distinct hNames) hRespects row
          with ⟨sent, hSent, hTruth⟩
        refine ⟨.condition (c.sent _), .condition (c.sent _), ?_⟩
        rw [← hTruth]
        simp [c, p, Condition.sent, ConditionOperand.sent,
          Parameter.sent, hSent]
        rfl

/- Only the identity is not set by an update. -/
theorem Record.suppliedFields_eq_nil_iff
    (r : Record)
    {i : Nat}
    (hIndex : r.type.identityIndex? = some i) :
    r.suppliedFields = [] ↔ r.type.width = 1 := by
  have hBound : i < r.type.columns.length := by
    rcases List.findIdx?_eq_some_iff_getElem.mp hIndex with
      ⟨hBound, _⟩
    simpa [EntityType.columns] using hBound
  have hWidth : r.type.width = r.type.columns.length := by
    simp [EntityType.width, EntityType.columns]
  rw [suppliedFields, hIndex, hWidth, List.map_eq_nil_iff,
    List.filter_eq_nil_iff]
  constructor
  · intro hOnly
    have hSame (j : Nat) (hj : j < r.type.columns.length) : j = i := by
      have hMem : (r.type.columns[j], j) ∈ r.type.columns.zipIdx :=
        List.mem_zipIdx_iff_getElem?.mpr (List.getElem?_eq_getElem hj)
      have hKey := hOnly _ hMem
      simp only [bne_iff_ne, ne_eq, Option.some.injEq, not_not]
        at hKey
      exact hKey.symm
    have hFirst := hSame 0 (by omega)
    by_contra hMore
    have hSecond := hSame 1 (by omega)
    omega
  · rintro hSingle ⟨column, j⟩ hMem
    have hj := List.snd_lt_of_mem_zipIdx hMem
    have hHere : i = j := by omega
    simp [hHere]

------------------------------------------------------------
-- Clauses of statements
------------------------------------------------------------

namespace Request

/-
  The request has a statement with a WHERE clause at its end.
  Read with the parameters of the statement, the clause has
  this truth on every row.
-/
def ClauseReads
    (request : Request)
    (naming : TableNaming)
    (d : Dialect)
    (κ : ValueTests)
    (truth : (ColumnExpr → Value) → Truth) : Prop :=
  ∃ st front, ∃ rows : RowFilter,
    request.statement naming d = .ok st ∧
    st.sql = (front ++ Sql.words " WHERE " ++ rows.sql).text d ∧
    ∀ row, rows.ReadsOn st.params (κ.onRow row) (truth row)

variable {r : Record}
variable {i : Nat}
variable {κ : ValueTests}

theorem delete_reads
    (hIndex : r.type.identityIndex? = some i)
    (hRespects : κ.RespectsEqual)
    (naming : TableNaming)
    (d : Dialect) :
    (delete r).ClauseReads naming d κ fun row =>
      κ.truth .eq (row (.bare (r.type.columns.getD i "")))
        (r.value i) := by
  rcases r.exists_bindKey hIndex (s := .empty) List.nodup_nil with
    ⟨key, t, hKey, hNames, hFilled⟩
  have hYields :
      ((delete r).command naming).Yields .empty
        (.delete (r.type.tableName naming) (.keyEquals key)) t := by
    simp only [command, Binding.yields_bind_iff,
      Binding.yields_pure_iff]
    exact ⟨key, t, hKey, rfl, rfl⟩
  exact ⟨_, _, .keyEquals key, statement_of_yields hYields d, rfl,
    hFilled.readsOn hNames hRespects⟩

/- What an update sets is bound before the key. -/
theorem update_reads
    (hIndex : r.type.identityIndex? = some i)
    (hFields : r.suppliedFields ≠ [])
    (hRespects : κ.RespectsEqual)
    (naming : TableNaming)
    (d : Dialect) :
    (update r).ClauseReads naming d κ fun row =>
      κ.truth .eq (row (.bare (r.type.columns.getD i "")))
        (r.value i) := by
  have hPosition := EntityType.identityPosition_eq_ok_iff.mpr hIndex
  rcases r.exists_bindFields i .empty with ⟨cells, s, hCells⟩
  have hFills := r.bindFields_fills hPosition hCells
  have hSome : cells.isEmpty = false := by
    rw [List.isEmpty_eq_false_iff]
    rintro rfl
    exact hFields (List.forall₂_nil_left_iff.mp hFills.filled)
  rcases r.exists_bindKey hIndex (hFills.distinct List.nodup_nil) with
    ⟨key, t, hKey, hNames, hFilled⟩
  have hYields :
      ((update r).command naming).Yields .empty
        (.update (r.type.tableName naming) cells (.keyEquals key))
        t := by
    simp only [command, Binding.yields_bind_iff,
      Binding.yields_liftM_iff]
    refine ⟨i, _, ⟨hPosition, rfl⟩, cells, s, hCells, ?_⟩
    rw [hSome]
    simp only [Bool.false_eq_true, if_false, Binding.yields_bind_iff,
      Binding.yields_pure_iff]
    exact ⟨key, t, hKey, rfl, rfl⟩
  exact ⟨_, _, .keyEquals key, statement_of_yields hYields d, rfl,
    hFilled.readsOn hNames hRespects⟩

/- An update without columns to set is refused. -/
theorem update_refused
    (hIndex : r.type.identityIndex? = some i)
    (hFields : r.suppliedFields = [])
    (naming : TableNaming)
    (d : Dialect) :
    (update r).statement naming d =
      .error (.unsupported (.nothingToUpdate r.type.key)) := by
  have hPosition := EntityType.identityPosition_eq_ok_iff.mpr hIndex
  rcases r.exists_bindFields i .empty with ⟨cells, s, hCells⟩
  have hFilled := (r.bindFields_fills hPosition hCells).filled
  rw [hFields, List.forall₂_nil_right_iff] at hFilled
  have hRun :
      ((update r).command naming).run.run .empty =
        (.error (.unsupported (.nothingToUpdate r.type.key)), s) := by
    simp only [command, hPosition]
    change ((r.bindFields i >>= _).run.run .empty) = _
    rw [Binding.run_bind_of_ok _ hCells, hFilled]
    rfl
  unfold statement draft
  rw [hRun]
  rfl

/- A select by key is a select of what equals the key. -/
theorem restricts_selectByKey
    {e : EntityType}
    {column : String}
    (hColumn : e.identityColumn = .ok column)
    (key : Value)
    (naming : TableNaming) :
    (selectByKey e key).Restricts naming (.table e.key)
      ((ColumnRef.of e column).compareValue .eq key) := by
  have hSame :
      (selectByKey e key).command naming =
        (select ((Query.of e).filter
          ((ColumnRef.of e column).compareValue .eq key))).command
          naming := by
    simp only [command, EntityType.keyQuery, hColumn]
    rfl
  unfold Restricts
  rw [hSame]
  exact restricts_select

/-
  A select by key asks for the rows without a key if the key
  is NULL.
-/
theorem selectByKey_reads
    {e : EntityType}
    (hIndex : e.identityIndex? = some i)
    (hRespects : κ.RespectsEqual)
    (key : Value)
    (naming : TableNaming)
    (d : Dialect) :
    (selectByKey e key).ClauseReads naming d κ fun row =>
      if key.isNull then
        .ofBool (row (.bare (e.columns.getD i ""))).isNull
      else κ.truth .eq (row (.bare (e.columns.getD i ""))) key := by
  have hColumn :=
    EntityType.identityColumn_eq_ok_iff.mpr ⟨i, hIndex, rfl⟩
  rcases restricts_selectByKey hColumn key naming with
    ⟨s, build, hNames, hRun, hText⟩
  rcases Scope.exists_compile_equality e (e.columns.getD i "") key
      hNames hRespects with
    ⟨compiled, t, hCompile, hReads⟩
  rw [map_eq_pure_bind, Binding.run_bind_of_ok _ hCompile] at hRun
  rcases hText compiled d with ⟨front, hSql⟩
  refine ⟨_, front, .matching compiled, statement_of_yields hRun d,
    ?_, hReads⟩
  exact congrArg (Sql.text d) hSql

/-
  With an identity, the clauses of an update and of a delete
  say of every row that its key equals that of the record. The
  select says the same, but of a key that is NULL it says that
  the row has none. So they hold on the same rows, except that
  only the select finds a row without a key for such a key.
-/
theorem key_clauses_agree_iff
    (hIndex : r.type.identityIndex? = some i)
    (hRespects : κ.RespectsEqual)
    (naming : TableNaming)
    (d : Dialect) :
    let column := ColumnExpr.bare (r.type.columns.getD i "")
    let key := r.value i
    let equals (row : ColumnExpr → Value) : Truth :=
      κ.truth .eq (row column) key
    let selected (row : ColumnExpr → Value) : Truth :=
      if key.isNull then .ofBool (row column).isNull
      else equals row
    (if r.type.width = 1 then
      (update r).statement naming d =
        .error (.unsupported (.nothingToUpdate r.type.key))
    else (update r).ClauseReads naming d κ equals) ∧
    (delete r).ClauseReads naming d κ equals ∧
    (selectByKey r.type key).ClauseReads naming d κ selected ∧
    ∀ row,
      (equals row = .holds ↔ selected row = .holds) ↔
        ¬ (key.isNull = true ∧ (row column).isNull = true) := by
  intro column key equals selected
  refine ⟨?_, delete_reads hIndex hRespects naming d,
    selectByKey_reads hIndex hRespects key naming d, ?_⟩
  · split
    · rename_i hSingle
      exact update_refused hIndex
        ((r.suppliedFields_eq_nil_iff hIndex).mpr hSingle) naming d
    · rename_i hOthers
      exact update_reads hIndex
        (mt (r.suppliedFields_eq_nil_iff hIndex).mp hOthers)
        hRespects naming d
  · intro row
    cases hNull : key.isNull with
    | false =>
        have hSame : selected row = equals row := by
          simp only [selected, hNull, Bool.false_eq_true, if_false]
        simp [hSame]
    | true =>
        have hUnknown : equals row = .unknown :=
          κ.truth_of_null .eq (.inr hNull)
        have hSelected :
            selected row = .ofBool (row column).isNull := by
          simp only [selected, hNull, if_true]
        rw [hUnknown, hSelected]
        cases (row column).isNull <;> simp [Truth.ofBool]

/-
  The update sends one zero for both columns, where the key is
  the other zero. All three find the row of either.
-/
theorem zero_key_is_found_by_all :
    let column (name : String) (identity : Bool) : Property :=
      { column := name, declaredType := "SqlValue",
        type := ⟨.any, false⟩, identity := identity }
    let doc : EntityType :=
      { key := ⟨0, "Doc"⟩, table := "doc",
        properties := [column "key2" false, column "key" true] }
    let negativeZero : Value := .float ⟨0x8000000000000000⟩
    let r : Record := ⟨doc, [.any (.float .zero), .any negativeZero]⟩
    let equals (row : ColumnExpr → Value) : Truth :=
      ValueTests.ofConstants.truth .eq (row (.bare "key"))
        negativeZero
    (update r).statement {} .sqlite =
        .ok
          { sql :=
              "UPDATE \"doc\" SET \"key2\" = @key2 WHERE " ++
              "\"key\" = @key2"
            params := [⟨"key2", .float .zero⟩]
            kind := .update } ∧
      (update r).ClauseReads {} .sqlite .ofConstants equals ∧
      (delete r).ClauseReads {} .sqlite .ofConstants equals ∧
      (selectByKey doc negativeZero).ClauseReads {} .sqlite
        .ofConstants equals ∧
      equals (fun _ => .float .zero) = .holds ∧
      equals (fun _ => negativeZero) = .holds := by
  intro column doc negativeZero r equals
  have hIndex : r.type.identityIndex? = some 1 := by decide
  rcases key_clauses_agree_iff hIndex
      ValueTests.ofConstants_respectsEqual {} .sqlite with
    ⟨hUpdate, hDelete, hSelect, _⟩
  exact ⟨by decide +kernel, hUpdate, hDelete, hSelect, by decide,
    by decide⟩

/-
  Of a record without a key the delete compares with NULL,
  which holds on no row. The select finds what it misses.
-/
theorem null_key_is_selected_only :
    let column (name : String) (identity : Bool) : Property :=
      { column := name, declaredType := "SqlValue",
        type := ⟨.any, false⟩, identity := identity }
    let anyKey : EntityType :=
      { key := ⟨0, "AnyKey"⟩, table := "any_keys",
        properties := [column "label" false, column "key" true] }
    let r : Record := .default anyKey
    let selected (row : ColumnExpr → Value) : Truth :=
      .ofBool (row (.bare "key")).isNull
    r.identityValue = .ok .null ∧
      (delete r).statement {} .sqlite =
        .ok
          { sql := "DELETE FROM \"any_keys\" WHERE \"key\" = @key"
            params := [⟨"key", .null⟩]
            kind := .delete } ∧
      (selectByKey anyKey .null).statement {} .sqlite =
        .ok
          { sql :=
              "SELECT \"label\", \"key\" FROM \"any_keys\" WHERE " ++
              "(\"key\" IS NULL)"
            params := []
            kind := .select } ∧
      (update r).ClauseReads {} .sqlite .ofConstants
        (fun _ => .unknown) ∧
      (delete r).ClauseReads {} .sqlite .ofConstants
        (fun _ => .unknown) ∧
      (selectByKey anyKey .null).ClauseReads {} .sqlite .ofConstants
        selected ∧
      selected (fun _ => .null) = .holds := by
  intro column anyKey r selected
  have hIndex : r.type.identityIndex? = some 1 := by decide
  have hFields : r.suppliedFields ≠ [] := by decide
  have hRespects := ValueTests.ofConstants_respectsEqual
  have hUnknown :
      (fun row : ColumnExpr → Value =>
        ValueTests.ofConstants.truth .eq
          (row (.bare (r.type.columns.getD 1 ""))) (r.value 1)) =
        fun _ => .unknown := by
    funext row
    exact ValueTests.truth_of_null _ .eq (.inr rfl)
  refine ⟨by decide, by decide +kernel, by decide +kernel, ?_, ?_,
    selectByKey_reads hIndex hRespects .null {} .sqlite, rfl⟩
  · rw [← hUnknown]
    exact update_reads hIndex hFields hRespects {} .sqlite
  · rw [← hUnknown]
    exact delete_reads hIndex hRespects {} .sqlite

end Request

end EntitySql
