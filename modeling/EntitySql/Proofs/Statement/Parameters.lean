import EntitySql.Proofs.Statement.Supply

/-
  The parameters of statements: their names are distinct, the
  SQL uses all of them and no others, and every place gets the
  value that the request supplies for it.

  Key theorems include:
    * `Query.plan_fills`
    * `Request.command_fills`
    * `Request.statement_fills_every_place`
-/

namespace EntitySql

open ParameterSet

variable {s t : ParameterSet}

------------------------------------------------------------
-- Cells
------------------------------------------------------------

theorem bindCell_fills
    {column : String}
    {v : Value}
    {cell : Cell}
    (hYields : (bindCell column v).Yields s cell t) :
    Fills s t [cell] [(column, v)] := by
  simp only [bindCell, Binding.yields_bind_iff,
    Binding.yields_bindValue_iff, Binding.yields_pure_iff] at hYields
  rcases hYields with ⟨_, _, ⟨rfl, rfl⟩, rfl, rfl⟩
  exact fills_bind s column v

/- Cells that are bound one after the other. -/
theorem mapM_cell_fills
    {α : Type}
    {f : α → Binding Cell}
    {supply : α → String × Value}
    (hStep : ∀ {x s cell t},
      (f x).Yields s cell t → Fills s t [cell] [supply x])
    {xs : List α}
    {cells : List Cell}
    (hYields : (xs.mapM f).Yields s cells t) :
    Fills s t cells (xs.map supply) := by
  have hFills :=
    fills_mapM (fun cell => [cell]) (fun x => [supply x])
      hStep hYields
  simpa [← List.map_eq_flatMap] using hFills

theorem EntityType.identityPosition_eq_ok_iff
    {e : EntityType}
    {i : Nat} :
    e.identityPosition = .ok i ↔ e.identityIndex? = some i := by
  unfold identityPosition
  cases e.identityIndex? <;> simp

theorem EntityType.identityColumn_eq_ok_iff
    {e : EntityType}
    {column : String} :
    e.identityColumn = .ok column ↔
      ∃ i, e.identityIndex? = some i ∧
        e.columns.getD i "" = column := by
  unfold identityColumn identityPosition
  cases e.identityIndex? <;> simp [Bind.bind, Except.bind]

theorem Record.identityValue_eq_ok_iff
    {r : Record}
    {v : Value} :
    r.identityValue = .ok v ↔
      ∃ i, r.type.identityIndex? = some i ∧ r.value i = v := by
  unfold identityValue EntityType.identityPosition
  cases r.type.identityIndex? <;> simp [Bind.bind, Except.bind]

theorem Record.bindFields_fills
    {r : Record}
    {identity : Nat}
    {cells : List Cell}
    (hPosition : r.type.identityPosition = .ok identity)
    (hYields : (r.bindFields identity).Yields s cells t) :
    Fills s t cells r.suppliedFields := by
  have hSame (i : Nat) :
      (r.type.identityIndex? != some i) = (i != identity) := by
    rw [EntityType.identityPosition_eq_ok_iff.mp hPosition]
    simp [bne, eq_comm]
  simp only [suppliedFields, hSame]
  exact mapM_cell_fills bindCell_fills hYields

theorem Record.bindKey_fills
    {r : Record}
    {key : Cell}
    (hYields : r.bindKey.Yields s key t) :
    Fills s t [key] r.suppliedKey := by
  simp only [bindKey, Binding.yields_bind_iff,
    Binding.yields_liftM_iff, identityValue_eq_ok_iff,
    EntityType.identityColumn_eq_ok_iff] at hYields
  rcases hYields with
    ⟨_, _, ⟨⟨i, hIndex, rfl⟩, rfl⟩,
      _, _, ⟨⟨j, hIndex', rfl⟩, rfl⟩, hCell⟩
  cases hIndex.symm.trans hIndex'
  simp only [suppliedKey, hIndex]
  exact bindCell_fills hCell

/- A patch assigns the columns that it names. -/
theorem Patch.bindCells_fills
    {patch : Patch}
    {e : EntityType}
    {cells : List Cell}
    (hYields : (patch.bindCells e).Yields s cells t) :
    Fills s t cells patch.assignments := by
  have hStep {x : String × Value} {s t : ParameterSet} {cell : Cell}
      (hYields :
        Binding.Yields
          (if (e.position? x.1).isNone then
            Binding.refuse (.unknownColumn e.key x.1)
          else bindCell x.1 x.2) s cell t) :
      Fills s t [cell] [x] := by
    split at hYields
    · exact absurd hYields (Binding.not_yields_refuse _ _ _ _)
    · exact bindCell_fills hYields
  have hFills := mapM_cell_fills hStep hYields
  simpa using hFills

------------------------------------------------------------
-- Plans
------------------------------------------------------------

theorem Join.clause_fills
    {j : Join}
    {naming : TableNaming}
    {aliases aliases' : AliasMap}
    {clause : JoinClause}
    (hYields :
      (j.clause naming aliases).Yields s (clause, aliases') t) :
    Fills s t clause.places
      (j.condition.toList.flatMap Predicate.supplied) := by
  rcases j with ⟨kind, target, sourceColumn, destColumn, source,
    condition⟩
  simp only [Join.clause, Binding.yields_bind_iff,
    Binding.yields_liftM_iff] at hYields
  rcases hYields with ⟨a, _, ⟨_, rfl⟩, hYields⟩
  cases condition with
  | none =>
      simp only [pure_bind, Binding.yields_pure_iff] at hYields
      rcases hYields with ⟨hClause, rfl⟩
      cases hClause
      exact .refl s
  | some p =>
      simp only [Binding.yields_bind_iff, Binding.yields_map_iff,
        Binding.yields_pure_iff] at hYields
      rcases hYields with
        ⟨_, _, ⟨compiled, hCompiled, rfl⟩, hClause, rfl⟩
      cases hClause
      simpa [JoinClause.places] using
        Scope.compile_fills hCompiled

theorem joinClauses_fills
    {naming : TableNaming}
    {aliases aliases' : AliasMap}
    {joins : List Join}
    {clauses : List JoinClause}
    (hYields :
      (joinClauses naming aliases joins).Yields s
        (clauses, aliases') t) :
    Fills s t (clauses.flatMap JoinClause.places)
      (joins.flatMap fun j =>
        j.condition.toList.flatMap Predicate.supplied) := by
  induction joins generalizing s aliases clauses with
  | nil =>
      simp only [joinClauses, Binding.yields_pure_iff] at hYields
      rcases hYields with ⟨hClauses, rfl⟩
      cases hClauses
      exact .refl s
  | cons j joins ih =>
      simp only [joinClauses, Binding.yields_bind_iff,
        Binding.yields_pure_iff] at hYields
      rcases hYields with
        ⟨⟨clause, aliases₁⟩, u, hClause, ⟨rest, aliases₂⟩, _,
          hRest, hClauses, rfl⟩
      cases hClauses
      exact (Join.clause_fills hClause).trans (ih hRest)

namespace Query

theorem planFlat_fills
    {q : Query}
    {naming : TableNaming}
    {plan : SelectPlan}
    (hFlat : q.joins = [])
    (hYields : (q.planFlat naming).Yields s plan t) :
    Fills s t plan.places q.supplied := by
  simp only [planFlat, Binding.yields_bind_iff,
    Binding.yields_liftM_iff, Binding.yields_pure_iff] at hYields
  rcases hYields with
    ⟨filters, _, hFilters, order, _, ⟨_, rfl⟩, rfl, rfl⟩
  simp only [SelectPlan.places, supplied, hFlat]
  exact Scope.compileList_fills hFilters

theorem planJoined_fills
    {q : Query}
    {naming : TableNaming}
    {plan : SelectPlan}
    (hYields : (q.planJoined naming).Yields s plan t) :
    Fills s t plan.places q.supplied := by
  simp only [planJoined, Binding.yields_bind_iff,
    Binding.yields_liftM_iff, Binding.yields_pure_iff] at hYields
  rcases hYields with
    ⟨_, _, ⟨_, rfl⟩, ⟨clauses, aliases⟩, u, hJoins,
      filters, _, hFilters, items, _, ⟨_, rfl⟩, rfl, rfl⟩
  exact (joinClauses_fills hJoins).trans
    (Scope.compileList_fills hFilters)

/- ON comes before WHERE, in the plan as in its SQL. -/
theorem plan_fills
    {q : Query}
    {naming : TableNaming}
    {plan : SelectPlan}
    (hYields : (q.plan naming).Yields s plan t) :
    Fills s t plan.places q.supplied := by
  unfold Query.plan at hYields
  split at hYields
  · exact planJoined_fills hYields
  · rename_i hFlat
    exact planFlat_fills (by simpa [isJoined] using hFlat) hYields

end Query

------------------------------------------------------------
-- Commands
------------------------------------------------------------

namespace Request

theorem keyQuery_supplied
    {e : EntityType}
    {key : Value}
    {q : Query}
    (hQuery : e.keyQuery key = .ok q) :
    q.supplied = (selectByKey e key).supplied := by
  unfold EntityType.keyQuery at hQuery
  cases hColumn : e.identityColumn with
  | error cause =>
      rw [hColumn] at hQuery
      cases hQuery
  | ok column =>
      rw [hColumn] at hQuery
      cases hQuery
      rcases EntityType.identityColumn_eq_ok_iff.mp hColumn with
        ⟨i, hIndex, rfl⟩
      simp [Query.supplied, Query.filter, Query.of, Request.supplied,
        ColumnRef.compareValue, Predicate.supplied,
        Settled.comparisonSupplied, Operand.settled, ColumnRef.of,
        hIndex]

/- Every request fills its places, whatever was bound before. -/
theorem command_fills
    {request : Request}
    {naming : TableNaming}
    {command : Command}
    (hYields : (request.command naming).Yields s command t) :
    Fills s t command.places request.supplied := by
  cases request with
  | insert r =>
      simp only [Request.command, Binding.yields_bind_iff,
        Binding.yields_liftM_iff, Binding.yields_pure_iff] at hYields
      rcases hYields with
        ⟨identity, _, ⟨hPosition, rfl⟩, cells, _, hCells,
          column, _, ⟨_, rfl⟩, rfl, rfl⟩
      exact r.bindFields_fills hPosition hCells
  | update r =>
      simp only [Request.command, Binding.yields_bind_iff,
        Binding.yields_liftM_iff] at hYields
      rcases hYields with
        ⟨identity, _, ⟨hPosition, rfl⟩, cells, _, hCells, hYields⟩
      split at hYields
      · exact absurd hYields (Binding.not_yields_refuse _ _ _ _)
      · simp only [Binding.yields_bind_iff,
          Binding.yields_pure_iff] at hYields
        rcases hYields with ⟨key, _, hKey, rfl, rfl⟩
        exact (r.bindFields_fills hPosition hCells).trans
          (r.bindKey_fills hKey)
  | updateWhere e patch p =>
      simp only [Request.command] at hYields
      split at hYields
      · exact absurd hYields (Binding.not_yields_refuse _ _ _ _)
      · simp only [Binding.yields_bind_iff,
          Binding.yields_pure_iff] at hYields
        rcases hYields with
          ⟨cells, _, hCells, rows, _, hRows, rfl, rfl⟩
        exact (patch.bindCells_fills hCells).trans
          (Scope.compile_fills hRows)
  | delete r =>
      simp only [Request.command, Binding.yields_bind_iff,
        Binding.yields_pure_iff] at hYields
      rcases hYields with ⟨key, _, hKey, rfl, rfl⟩
      exact r.bindKey_fills hKey
  | deleteWhere e p =>
      simp only [Request.command, Binding.yields_bind_iff,
        Binding.yields_pure_iff] at hYields
      rcases hYields with ⟨rows, _, hRows, rfl, rfl⟩
      exact Scope.compile_fills hRows
  | selectByKey e key =>
      simp only [Request.command, Binding.yields_bind_iff,
        Binding.yields_liftM_iff, Binding.yields_pure_iff] at hYields
      rcases hYields with
        ⟨q, _, ⟨hQuery, rfl⟩, plan, _, hPlan, rfl, rfl⟩
      rw [← keyQuery_supplied hQuery]
      exact q.plan_fills hPlan
  | select q =>
      simp only [Request.command, Binding.yields_bind_iff,
        Binding.yields_liftM_iff, Binding.yields_pure_iff] at hYields
      rcases hYields with
        ⟨page, _, ⟨_, rfl⟩, plan, _, hPlan, rfl, rfl⟩
      exact q.plan_fills hPlan
  | count q =>
      simp only [Request.command, Binding.yields_bind_iff,
        Binding.yields_pure_iff] at hYields
      rcases hYields with ⟨plan, _, hPlan, rfl, rfl⟩
      exact q.plan_fills hPlan
  | selectWithCount q =>
      simp only [Request.command, Binding.yields_bind_iff,
        Binding.yields_liftM_iff, Binding.yields_pure_iff] at hYields
      rcases hYields with
        ⟨page, _, ⟨_, rfl⟩, plan, _, hPlan, rfl, rfl⟩
      exact (q.plan_fills hPlan).twice

end Request

------------------------------------------------------------
-- Statements
------------------------------------------------------------

/-
  The statement gives a place its value: what is bound under
  the name that stands there is that value or equals it.
-/
def Statement.Gives
    (st : Statement)
    (place : Cell)
    (supply : String × Value) : Prop :=
  place.column = supply.1 ∧
    ∃ v, st.param? place.parameter = some v ∧
      (v = supply.2 ∨ v.equal supply.2 = true)

/- Among distinct names a parameter is found by its own. -/
theorem find?_name_eq_some
    {params : List Parameter}
    {p : Parameter}
    (hNodup : (params.map Parameter.name).Nodup)
    (hMem : p ∈ params) :
    (params.find? fun q => q.name == p.name) = some p := by
  induction params with
  | nil => cases hMem
  | cons q params ih =>
      rw [List.map_cons, List.nodup_cons] at hNodup
      rcases List.mem_cons.mp hMem with rfl | hRest
      · simp
      · have hOther : q.name ≠ p.name := by
          intro hSame
          exact hNodup.1 (hSame ▸ List.mem_map_of_mem hRest)
        simpa [hOther] using ih hNodup.2 hRest

/- A draft is a command with the parameters it leaves behind. -/
theorem Request.draft_eq_ok_iff
    {request : Request}
    {naming : TableNaming}
    {draft : Draft} :
    request.draft naming = .ok draft ↔
      (request.command naming).Yields .empty draft.command
        ⟨draft.params⟩ := by
  rcases draft with ⟨command, params⟩
  unfold Request.draft Binding.Yields
  rcases (request.command naming).run.run .empty with
    ⟨e | found, ⟨bound⟩⟩
  · constructor <;> intro hDraft <;> cases hDraft
  · constructor <;> intro hDraft <;> cases hDraft <;> rfl

/- A statement is written once its command is. -/
theorem Request.statement_of_yields
    {request : Request}
    {naming : TableNaming}
    {command : Command}
    {after : ParameterSet}
    (hYields :
      (request.command naming).Yields .empty command after)
    (d : Dialect) :
    request.statement naming d =
      .ok (Draft.statement ⟨command, after.params⟩ d) := by
  have hDraft :
      request.draft naming = .ok ⟨command, after.params⟩ :=
    Request.draft_eq_ok_iff.mpr hYields
  unfold Request.statement
  rw [hDraft]
  rfl

/- A statement is written from a command and what it bound. -/
theorem Request.exists_yields_of_statement
    {request : Request}
    {naming : TableNaming}
    {d : Dialect}
    {st : Statement}
    (hStatement : request.statement naming d = .ok st) :
    ∃ command params,
      (request.command naming).Yields .empty command ⟨params⟩ ∧
      Draft.statement ⟨command, params⟩ d = st := by
  unfold Request.statement at hStatement
  cases hDraft : request.draft naming with
  | error e =>
      rw [hDraft] at hStatement
      cases hStatement
  | ok draft =>
      rw [hDraft] at hStatement
      cases hStatement
      exact ⟨draft.command, draft.params,
        Request.draft_eq_ok_iff.mp hDraft, rfl⟩

/-
  A statement has a command whose places are the placeholders
  of its SQL, in order. The names of its parameters are
  distinct, each of them stands somewhere in the SQL, and no
  other names do. Every place gets the value that the request
  supplies for it.
-/
theorem Request.statement_fills_every_place
    {request : Request}
    {naming : TableNaming}
    {d : Dialect}
    {st : Statement}
    (hStatement : request.statement naming d = .ok st) :
    ∃ command,
      request.draft naming = .ok ⟨command, st.params⟩ ∧
      st.sql = (command.sql d).text d ∧
      (st.params.map Parameter.name).Nodup ∧
      (∀ name, name ∈ (command.sql d).placeholders ↔
        name ∈ st.params.map Parameter.name) ∧
      (command.sql d).placeholders =
        command.places.map Cell.parameter ∧
      List.Forall₂ st.Gives command.places request.supplied := by
  unfold Request.statement at hStatement
  cases hDraft : request.draft naming with
  | error e =>
      rw [hDraft] at hStatement
      cases hStatement
  | ok draft =>
      rw [hDraft] at hStatement
      cases hStatement
      have hFills :=
        command_fills (Request.draft_eq_ok_iff.mp hDraft)
      have hNodup := hFills.distinct List.nodup_nil
      refine ⟨draft.command, rfl, rfl, hNodup, ?_,
        draft.command.placeholders_sql d, ?_⟩
      · intro name
        rw [draft.command.placeholders_sql d]
        constructor
        · exact hFills.mem_names
        · intro hName
          rcases List.mem_map.mp hName with ⟨p, hMem, rfl⟩
          rcases hFills.placed p hMem with hOld | hPlaced
          · cases hOld
          · exact hPlaced
      · exact hFills.filled.imp fun place supply hFilled => by
          rcases hFilled with ⟨hColumn, p, hMem, hName, hValue⟩
          refine ⟨hColumn, p.value, ?_, hValue⟩
          simp [Statement.param?, Draft.statement, ← hName,
            find?_name_eq_some hNodup hMem]

/-
  UPDATE of the columns a and a2, where a test on a takes the
  third name that a offers and a test on a2 finds its value
  bound already.
-/
theorem Request.colliding_names_fill_every_place :
    let column (name : String) : Property :=
      { column := name, declaredType := "i64",
        type := ⟨.integer .int64, false⟩ }
    let doc : EntityType :=
      { key := ⟨0, "Doc"⟩, table := "doc",
        properties := [column "a", column "a2"] }
    let a := ColumnRef.of doc "a"
    let a2 := ColumnRef.of doc "a2"
    let request : Request :=
      .updateWhere doc ⟨[("a", .int 1), ("a2", .int 2)]⟩
        (.and (a.compareValue .eq (.int 3))
          (.or (a.isIn [.int 1, .null])
            (a2.compareValue .lt (.int 2))))
    let st : Statement :=
      { sql :=
          "UPDATE \"doc\" SET \"a\" = @a, \"a2\" = @a2 WHERE " ++
          "((\"a\" = @a3) AND ((\"a\" IN (@a_InParam_1, " ++
          "@a_InParam_2)) OR (\"a2\" < @a2)))"
        params :=
          [⟨"a", .int 1⟩, ⟨"a2", .int 2⟩, ⟨"a3", .int 3⟩,
            ⟨"a_InParam_1", .int 1⟩, ⟨"a_InParam_2", .null⟩]
        kind := .update }
    request.statement {} .sqlite = .ok st ∧
      ∃ command,
        request.draft {} = .ok ⟨command, st.params⟩ ∧
        st.sql = (command.sql .sqlite).text .sqlite ∧
        (st.params.map Parameter.name).Nodup ∧
        (∀ name, name ∈ (command.sql .sqlite).placeholders ↔
          name ∈ st.params.map Parameter.name) ∧
        (command.sql .sqlite).placeholders =
          command.places.map Cell.parameter ∧
        List.Forall₂ st.Gives command.places
          request.supplied := by
  refine ⟨?_, Request.statement_fills_every_place ?_⟩
  · decide +kernel
  · decide +kernel

end EntitySql
