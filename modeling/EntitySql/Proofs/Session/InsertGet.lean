import EntitySql.Proofs.Hydrate.Flat
import EntitySql.Proofs.Session.OperationRuns
import EntitySql.Proofs.Session.StoredRows

/-
  A record that was inserted is read back by its key.

  Key theorems include:
    * `Request.exists_draft_insert`
    * `Request.exists_statement_insert`
    * `Request.exists_statement_selectByKey`
    * `Record.reads_stored`
    * `Mapper.get_returns_inserted`

  The columns of the insert are paired with parameters, and a
  parameter may be that of another column with an equal value.
  So what is read back is the same field or an equal one.
-/

namespace EntitySql

open Operation ParameterSet

------------------------------------------------------------
-- Inserts
------------------------------------------------------------

theorem Record.exists_bindFields
    (r : Record)
    (identity : Nat)
    (s : ParameterSet) :
    ∃ cells t, (r.bindFields identity).Yields s cells t := by
  unfold bindFields
  apply Binding.exists_yields_mapM
  rintro ⟨column, j⟩ _ s
  exact ⟨_, _, rfl⟩

/-
  An insert can be written, and its cells are filled with the
  fields of the record.
-/
theorem Request.exists_draft_insert
    {r : Record}
    {i : Nat}
    (hIdentity : r.type.identityIndex? = some i)
    (naming : TableNaming) :
    ∃ cells params,
      (Request.insert r).draft naming =
        .ok
          ⟨.insert (r.type.tableName naming) cells
              (r.type.columns.getD i ""), params⟩ ∧
        (params.map Parameter.name).Nodup ∧
        List.Forall₂ (Cell.FilledBy params) cells
          r.suppliedFields := by
  have hPosition : r.type.identityPosition = .ok i :=
    EntityType.identityPosition_eq_ok_iff.mpr hIdentity
  have hColumn :
      r.type.identityColumn = .ok (r.type.columns.getD i "") :=
    EntityType.identityColumn_eq_ok_iff.mpr ⟨i, hIdentity, rfl⟩
  rcases r.exists_bindFields i .empty with ⟨cells, t, hCells⟩
  have hFills := r.bindFields_fills hPosition hCells
  refine ⟨cells, t.params, ?_, hFills.distinct List.nodup_nil,
    hFills.filled⟩
  rw [Request.draft_eq_ok_iff]
  simp only [Request.command, Binding.yields_bind_iff,
    Binding.yields_liftM_iff, Binding.yields_pure_iff]
  exact ⟨i, _, ⟨hPosition, rfl⟩, cells, t, hCells, _, _,
    ⟨hColumn, rfl⟩, rfl, rfl⟩

/- Without the number of one of them, the others are left. -/
theorem map_fst_filter_zipIdx_ne
    {α : Type}
    (xs : List α)
    (start i : Nat) :
    ((xs.zipIdx start).filter fun x =>
        some (start + i) != some x.2).map Prod.fst =
      xs.eraseIdx i := by
  induction xs generalizing start i with
  | nil => rfl
  | cons x xs ih =>
      rw [List.zipIdx_cons]
      cases i with
      | zero =>
          rw [List.filter_cons_of_neg (by simp),
            List.filter_eq_self.mpr, List.zipIdx_map_fst]
          · rfl
          · intro y hMem
            have hBounds := List.mem_zipIdx hMem
            rw [bne_iff_ne, ne_eq, Option.some.injEq]
            omega
      | succ i =>
          have hRest := ih (start + 1) i
          rw [Nat.add_assoc, Nat.add_comm 1 i] at hRest
          rw [List.filter_cons_of_pos (by simp), List.map_cons, hRest]
          rfl

/- An insert has all columns but that of the identity. -/
theorem Record.map_fst_suppliedFields
    {r : Record}
    {i : Nat}
    (hIdentity : r.type.identityIndex? = some i) :
    r.suppliedFields.map Prod.fst = r.type.columns.eraseIdx i := by
  have hOthers := map_fst_filter_zipIdx_ne r.type.columns 0 i
  rw [Nat.zero_add] at hOthers
  rw [suppliedFields, hIdentity, List.map_map]
  exact hOthers

/- Filled cells have the columns that are supplied. -/
theorem Cell.map_column_of_filledBy
    {params : List Parameter}
    {cells : List Cell}
    {supplies : List (String × Value)}
    (hFilled : List.Forall₂ (Cell.FilledBy params) cells supplies) :
    cells.map Cell.column = supplies.map Prod.fst := by
  rw [← List.forall₂_eq_eq_eq, List.forall₂_map_left_iff,
    List.forall₂_map_right_iff]
  exact hFilled.imp fun _ _ hCell => hCell.1

------------------------------------------------------------
-- Stored records
------------------------------------------------------------

/- A cell is sent the value of its column, or an equal one. -/
theorem Cell.FilledBy.exists_sent
    {params : List Parameter}
    {c : Cell}
    {supply : String × Value}
    (hFilled : c.FilledBy params supply)
    (hNames : (params.map Parameter.name).Nodup) :
    ∃ sent,
      ParameterSet.get? ⟨params⟩ c.parameter = some sent ∧
      (sent = supply.2 ∨ sent.equal supply.2 = true) := by
  rcases hFilled with ⟨_, p, hMem, hName, hValue⟩
  refine ⟨p.value, ?_, hValue⟩
  rw [ParameterSet.get?, ← hName, find?_name_eq_some hNames hMem,
    Option.map_some]

/- The columns of a property and its place in the type agree. -/
theorem EntityType.getElem_columns
    {e : EntityType}
    {j : Nat}
    (hBound : j < e.properties.length) :
    e.columns.getD j "" = e.properties[j].column := by
  simp [columns, hBound]

/-
  The row that an insert has stored is read as the record with
  its new identity, up to equal fields.
-/
theorem Record.reads_stored
    {r : Record}
    {i : Nat}
    {key : Value}
    {field : FieldValue}
    {params : List Parameter}
    {cells : List Cell}
    {new : StoredRow}
    (hIdentity : r.type.identityIndex? = some i)
    (hSurvives : r.Survives)
    (hKey :
      ∀ property ∈ r.type.properties[i]?,
        property.type.read key = .ok field)
    (hNames : (params.map Parameter.name).Nodup)
    (hFilled :
      List.Forall₂ (Cell.FilledBy params) cells r.suppliedFields)
    (hNewKey : new (r.type.columns.getD i "") = key)
    (hNewCells :
      ∀ c ∈ cells,
        ParameterSet.get? ⟨params⟩ c.parameter =
          some (new c.column)) :
    List.Forall₂
      (fun (p : Property) stored =>
        ∃ found, p.type.read (new p.column) = .ok found ∧
          found.Alike stored)
      r.type.properties (r.fields.set i field) := by
  rw [List.forall₂_iff_get]
  refine ⟨by rw [List.length_set]; exact hSurvives.length_eq, ?_⟩
  intro j hProperty hField
  rw [List.length_set] at hField
  simp only [List.get_eq_getElem, List.getElem_set]
  have hColumn := EntityType.getElem_columns hProperty
  by_cases hHere : i = j
  · subst hHere
    rw [if_pos rfl, ← hColumn, hNewKey]
    have hRead :=
      hKey r.type.properties[i] (List.getElem?_eq_getElem hProperty)
    exact ⟨field, hRead, .refl field⟩
  · rw [if_neg hHere]
    have hSupplied :
        (r.type.properties[j].column, r.value j) ∈
          r.suppliedFields := by
      unfold Record.suppliedFields
      rw [List.mem_map]
      refine ⟨(r.type.properties[j].column, j), ?_, rfl⟩
      rw [List.mem_filter, List.mk_mem_zipIdx_iff_getElem?]
      constructor
      · simp [EntityType.columns, hProperty]
      · simp [hIdentity, hHere]
    rcases List.getElem_of_mem hSupplied with ⟨n, hn, hAt⟩
    have hCellBound : n < cells.length := by
      rw [hFilled.length_eq]
      exact hn
    have hCell : cells[n].FilledBy params
        (r.type.properties[j].column, r.value j) := by
      have hPlace := hFilled.get hCellBound hn
      simpa only [List.get_eq_getElem, hAt] using hPlace
    have hStored := hNewCells cells[n] (List.getElem_mem hCellBound)
    rw [hCell.1] at hStored
    have hValue : r.value j = (r.fields[j]).toValue := by
      simp [Record.value, hField]
    have hRead :
        r.type.properties[j].type.read (r.value j) =
          .ok r.fields[j] := by
      rw [hValue]
      exact hSurvives.get hProperty hField
    rcases hCell.exists_sent hNames with ⟨sent, hSent, hValue⟩
    cases hSent.symm.trans hStored
    exact FieldType.read_of_equal hValue hRead

------------------------------------------------------------
-- Statements
------------------------------------------------------------

/-
  The statement of an insert lists all columns but that of the
  identity. Each has a placeholder of its own, for which the
  value of the field is sent, or one that equals it.
-/
theorem Request.exists_statement_insert
    {r : Record}
    {i : Nat}
    (hIdentity : r.type.identityIndex? = some i)
    (naming : TableNaming)
    (d : Dialect) :
    ∃ st parameters,
      (Request.insert r).statement naming d = .ok st ∧
      st.sql =
        insertText d (r.type.tableName naming)
          (r.type.columns.eraseIdx i) parameters
          (r.type.columns.getD i "") ∧
      List.Forall₂
        (fun parameter (supply : String × Value) =>
          ∃ sent,
            st.param? parameter = some sent ∧
            (sent = supply.2 ∨ sent.equal supply.2 = true))
        parameters r.suppliedFields := by
  rcases Request.exists_draft_insert hIdentity naming with
    ⟨cells, params, hDraft, hNames, hFilled⟩
  let command : Command :=
    .insert (r.type.tableName naming) cells (r.type.columns.getD i "")
  refine ⟨Draft.statement ⟨command, params⟩ d,
    cells.map Cell.parameter, ?_, ?_, ?_⟩
  · rw [statement, hDraft]
    rfl
  · rw [← Record.map_fst_suppliedFields hIdentity,
      ← Cell.map_column_of_filledBy hFilled]
    exact Command.text_insert d _ cells _
  · rw [List.forall₂_map_left_iff]
    exact hFilled.imp fun _ _ hCell => hCell.exists_sent hNames

/- The statement of a select by key tests the key column. -/
theorem Request.exists_statement_selectByKey
    {e : EntityType}
    {column : String}
    {key : Value}
    (hColumn : e.identityColumn = .ok column)
    (hNull : key.isNull = false)
    (naming : TableNaming)
    (d : Dialect) :
    ∃ st,
      (Request.selectByKey e key).statement naming d = .ok st ∧
      st.sql =
        keySelectText d (e.tableName naming) e.columns column column ∧
      st.params = [⟨column, key⟩] := by
  refine
    ⟨Draft.statement
        ⟨.select (filteredPlan e naming (keyFilter column key)) none,
          [⟨column, key⟩]⟩ d,
      ?_, (selectsEqual_keyFilter e naming column key d).text_eq, rfl⟩
  rw [statement, Request.draft_selectByKey hColumn hNull naming]
  rfl

------------------------------------------------------------
-- Insert and get
------------------------------------------------------------

/- Assigning a readable key sets the identity field. -/
theorem Record.assign_identity
    {r : Record}
    {i : Nat}
    {key : Value}
    {field : FieldValue}
    (hIdentity : r.type.identityIndex? = some i)
    (hKey :
      ∀ property ∈ r.type.properties[i]?,
        property.type.read key = .ok field) :
    r.assign i key = .ok ⟨r.type, r.fields.set i field⟩ := by
  unfold EntityType.identityIndex? at hIdentity
  rcases List.findIdx?_eq_some_iff_getElem.mp hIdentity with
    ⟨hBound, _⟩
  have hProperty := List.getElem?_eq_getElem hBound
  have hRead := hKey _ hProperty
  unfold Record.assign
  rw [hProperty]
  simp only [hRead]

/- What every field can be turned into, all fields can. -/
theorem exists_forall₂_between
    {α β γ : Type}
    {R : α → β → Prop}
    {S : β → γ → Prop}
    {xs : List α}
    {zs : List γ}
    (hBetween :
      List.Forall₂ (fun x z => ∃ y, R x y ∧ S y z) xs zs) :
    ∃ ys, List.Forall₂ R xs ys ∧ List.Forall₂ S ys zs := by
  induction hBetween with
  | nil => exact ⟨[], .nil, .nil⟩
  | cons hFirst _ ih =>
      rcases hFirst with ⟨y, hR, hS⟩
      rcases ih with ⟨ys, hRs, hSs⟩
      exact ⟨y :: ys, .cons hR hRs, .cons hS hSs⟩

/-
  A database reads the statement of an insert, and it finds
  the cells with which the statement was written.
-/
theorem TableView.Inserts.of_cells
    {ω κ : Type}
    {p : Provider ω κ}
    {conn : κ}
    {d : Dialect}
    {view : TableView ω}
    {cells : List Cell}
    {params : List Parameter}
    {draft : Draft}
    {key : Value}
    {w w' : ω}
    (hDraft :
      draft = ⟨.insert view.table cells view.identity, params⟩)
    (hInserts : view.Inserts p conn d draft key w w') :
    (p.call conn .scalar (draft.statement d)).runOn w =
        (.ok key, w') ∧
      ∃ new : StoredRow,
        new view.identity = key ∧
        (∀ c ∈ cells,
          ParameterSet.get? ⟨params⟩ c.parameter =
            some (new c.column)) ∧
        (view.rows w').Perm (new :: view.rows w) := by
  subst hDraft
  rcases hInserts _ _
      (Command.insertsRow d view.table cells view.identity) with
    ⟨hCall, new, hKey, hSent, hRows⟩
  refine ⟨hCall, new, hKey, ?_, hRows⟩
  rw [List.forall₂_map_left_iff, List.forall₂_map_right_iff,
    List.forall₂_same] at hSent
  exact hSent

/- A database reads the statement of a select by key. -/
theorem TableView.Selects.of_keyFilter
    {ω κ : Type}
    {p : Provider ω κ}
    {conn : κ}
    {d : Dialect}
    {view : TableView ω}
    {e : EntityType}
    {naming : TableNaming}
    {column : String}
    {key : Value}
    {draft : Draft}
    {w : ω}
    (hTable : view.table = e.tableName naming)
    (hDraft :
      draft =
        ⟨.select
            (Request.filteredPlan e naming (keyFilter column key)) none,
          [⟨column, key⟩]⟩)
    (hSelects : view.Selects p conn d draft w) :
    ∃ (chosen : List StoredRow) (w' : ω),
      (p.call conn .reader (draft.statement d)).runOn w =
          (.ok
            [⟨e.columns, chosen.map fun row => e.columns.map row⟩],
            w') ∧
        chosen.Perm (view.rowsWith column key w) := by
  subst hDraft
  have hReads :=
    Request.selectsEqual_keyFilter e naming column key d
  rw [← hTable] at hReads
  exact hSelects _ _ _ _ hReads (by simp [ParameterSet.get?])

/-
  Insert a record into a table. The database reads the text of
  the insert: it stores the value that is sent for each listed
  column under a fresh key. Then the answer is the record with
  only its identity set, and a select of the key gives one
  record, whose fields are those of the answer or equal to
  them. The insert lists all columns but that of the identity,
  with a placeholder for the field of each, and the select all
  columns of the rows with the key.
-/
theorem Mapper.get_returns_inserted
    {ω κ : Type}
    {p : Provider ω κ}
    {conn : κ}
    {m : Mapper}
    {view : TableView ω}
    {r : Record}
    {i : Nat}
    {key : Value}
    {field : FieldValue}
    {w w' : ω}
    (hIdentity : r.type.identityIndex? = some i)
    (hColumns : r.type.columns.Nodup)
    (hSurvives : r.Survives)
    (hNull : key.isNull = false)
    (hNaN : key.isNaN = false)
    (hKey :
      ∀ property ∈ r.type.properties[i]?,
        property.type.read key = .ok field)
    (hTable : view.table = r.type.tableName m.naming)
    (hGenerated : view.identity = r.type.columns.getD i "")
    (hFresh :
      ∀ row ∈ view.rows w,
        (row view.identity).compare key ≠ some .eq)
    (hInsert :
      ∀ draft, (Request.insert r).draft m.naming = .ok draft →
        view.Inserts p conn m.dialect draft key w w')
    (hSelect :
      ∀ draft,
        (Request.selectByKey r.type key).draft m.naming = .ok draft →
        view.Selects p conn m.dialect draft w') :
    (∃ st parameters,
      (Request.insert r).statement m.naming m.dialect = .ok st ∧
      st.sql =
        insertText m.dialect view.table (r.type.columns.eraseIdx i)
          parameters view.identity ∧
      List.Forall₂
        (fun parameter (supply : String × Value) =>
          ∃ sent,
            st.param? parameter = some sent ∧
            (sent = supply.2 ∨ sent.equal supply.2 = true))
        parameters r.suppliedFields) ∧
    (∃ st,
      (Request.selectByKey r.type key).statement m.naming m.dialect =
        .ok st ∧
      st.sql =
        keySelectText m.dialect view.table r.type.columns
          view.identity view.identity ∧
      st.params = [⟨view.identity, key⟩]) ∧
    Gives p conn (m.insert r) w
        ⟨r.type, r.fields.set i field⟩ w' ∧
      ∃ found w'',
        Gives p conn (m.get r.type key) w' found w'' ∧
        found.type = r.type ∧
        List.Forall₂ FieldValue.Alike found.fields
          (r.fields.set i field) := by
  have hPosition : r.type.identityPosition = .ok i :=
    EntityType.identityPosition_eq_ok_iff.mpr hIdentity
  have hColumn : r.type.identityColumn = .ok view.identity :=
    EntityType.identityColumn_eq_ok_iff.mpr
      ⟨i, hIdentity, hGenerated.symm⟩
  rcases Request.exists_draft_insert hIdentity m.naming with
    ⟨cells, params, hDraft, hNames, hFilled⟩
  rw [← hTable, ← hGenerated] at hDraft
  rcases (hInsert _ hDraft).of_cells rfl with
    ⟨hCall, new, hNewKey, hNewCells, hRows⟩
  have hReads :=
    r.reads_stored hIdentity hSurvives hKey hNames hFilled
      (by rw [← hGenerated, hNewKey]) hNewCells
  rcases exists_forall₂_between hReads with ⟨found, hFound, hAlike⟩
  have hKeyDraft :=
    Request.draft_selectByKey hColumn hNull m.naming
  rcases (hSelect _ hKeyDraft).of_keyFilter hTable rfl with
    ⟨chosen, w'', hAnswer, hChosen⟩
  have hOne : chosen = [new] := by
    apply List.perm_singleton.mp
    exact hChosen.trans
      (TableView.perm_rowsWith hNull hNaN hNewKey hFresh hRows)
  subst hOne
  have hAssign :
      (do
        let i ← r.type.identityPosition
        r.assign i key) = .ok ⟨r.type, r.fields.set i field⟩ := by
    rw [hPosition]
    exact r.assign_identity hIdentity hKey
  have hHydrated :
      hydrateFlat r.type ⟨r.type.columns, [r.type.columns.map new]⟩ =
        .ok [⟨r.type, found⟩] :=
    hydrateFlat_row hColumns hFound
  refine ⟨?_, ?_, ?_, ⟨r.type, found⟩, w'', ?_, rfl, hAlike⟩
  · rw [hTable, hGenerated]
    exact Request.exists_statement_insert hIdentity m.naming m.dialect
  · rw [hTable]
    exact Request.exists_statement_selectByKey hColumn hNull m.naming
      m.dialect
  · unfold Mapper.insert
    apply gives_bind (gives_callFor hDraft hCall)
    simp only [hNull, Bool.false_eq_true, if_false]
    exact gives_bind (gives_use r.type w') (gives_ofMapping hAssign w')
  · have hGet? :
        Gives p conn (m.get? r.type key) w' (some ⟨r.type, found⟩)
          w'' := by
      unfold Mapper.get?
      apply gives_bind (gives_callFor hKeyDraft hAnswer)
      apply gives_bind
      · exact gives_bind (gives_use r.type w'')
          (gives_ofMapping hHydrated w'')
      · exact gives_pure _ w''
    unfold Mapper.get
    exact gives_bind hGet? (gives_pure _ w'')

------------------------------------------------------------
-- A table of documents
------------------------------------------------------------

namespace DocTable

def doc : EntityType :=
  { key := ⟨0, "Doc"⟩
    table := "doc"
    properties :=
      [ { column := "id", declaredType := "i64",
          type := ⟨.integer .int64, false⟩, identity := true },
        { column := "title", declaredType := "String",
          type := ⟨.text, false⟩ },
        { column := "rating", declaredType := "Option<f32>",
          type := ⟨.float32, true⟩ } ] }

/- A database that holds documents and numbers them. -/
def database : Provider (List StoredRow) Unit where
  openConnection := pure ()
  call _ c s :=
    match c with
    | .scalar =>
        Action.ofFunction fun rows =>
          let key := Value.int (Int64.ofNat (rows.length + 1))
          let new : StoredRow := fun column =>
            if column = "id" then key
            else (s.param? column).getD .null
          (.ok key, rows ++ [new])
    | .nonQuery => pure 0
    | .reader =>
        Action.ofFunction fun rows =>
          let key := (s.param? "id").getD .null
          let chosen := rows.filter fun row =>
            (row "id").equalTruth key == .holds
          (.ok
            [⟨doc.columns,
              chosen.map fun row => doc.columns.map row⟩], rows)
  control _ _ := pure ()
  close _ rows := rows

def view : TableView (List StoredRow) where
  table := ⟨none, "doc"⟩
  identity := "id"
  rows := id

/- The document with number one. -/
def first : StoredRow
  | "id" => .int 1
  | "title" => .text "old"
  | _ => .null

/- A document without a number. -/
def draft : Record :=
  ⟨doc, [.integer 0, .text "new", .float Double.zero]⟩

/- The second document gets the number two and is read back. -/
theorem get_returns_second_doc :
    let m : Mapper := ⟨{}, .postgres⟩
    let key := Value.int 2
    let stored : Record :=
      ⟨doc, [.integer 2, .text "new", .float Double.zero]⟩
    (Request.insert draft).statement m.naming m.dialect =
        .ok
          { sql :=
              "INSERT INTO \"doc\" (\"title\", \"rating\") " ++
              "VALUES (@title, @rating) RETURNING \"id\""
            params := [⟨"title", .text "new"⟩, ⟨"rating", .float .zero⟩]
            kind := .insert } ∧
    ∃ w',
      Gives database () (m.insert draft) [first] stored w' ∧
      ∃ found w'',
        Gives database () (m.get doc key) w' found w'' ∧
        found.type = doc ∧
        List.Forall₂ FieldValue.Alike found.fields
          stored.fields := by
  intro m key stored
  let params : List Parameter :=
    [⟨"title", .text "new"⟩, ⟨"rating", .float .zero⟩]
  let new : StoredRow := fun column =>
    if column = "id" then key
    else (ParameterSet.get? ⟨params⟩ column).getD .null
  have hIdentity : draft.type.identityIndex? = some 0 := rfl
  have hColumns : draft.type.columns.Nodup := by
    decide
  have hSurvives : draft.Survives := by
    refine .cons rfl (.cons rfl (.cons ?_ .nil))
    decide
  have hKey :
      ∀ property ∈ draft.type.properties[0]?,
        property.type.read key = .ok (.integer 2) := by
    intro property hMem
    cases hMem
    rfl
  have hFresh :
      ∀ row ∈ view.rows [first],
        (row view.identity).compare key ≠ some .eq := by
    intro row hMem
    rw [List.mem_singleton.mp hMem]
    decide
  have hInsert :
      ∀ d, (Request.insert draft).draft m.naming = .ok d →
        view.Inserts database () m.dialect d key [first]
          [first, new] := by
    intro d hDraft
    have hCells :
        (Request.insert draft).draft m.naming =
          .ok
            ⟨.insert ⟨none, "doc"⟩
                [⟨"title", "title"⟩, ⟨"rating", "rating"⟩] "id",
              params⟩ := by
      decide +kernel
    cases hCells.symm.trans hDraft
    intro columns parameters hReads
    rcases hReads.unique
        (Command.insertsRow m.dialect ⟨none, "doc"⟩
          [⟨"title", "title"⟩, ⟨"rating", "rating"⟩] "id") with
      ⟨rfl, rfl⟩
    exact ⟨rfl, new, rfl, .cons rfl (.cons rfl .nil),
      .swap new first []⟩
  have hSelect :
      ∀ d, (Request.selectByKey draft.type key).draft m.naming =
          .ok d →
        view.Selects database () m.dialect d [first, new] := by
    intro d hDraft
    have hKeyDraft :=
      @Request.draft_selectByKey doc "id" key rfl rfl m.naming
    cases hKeyDraft.symm.trans hDraft
    intro columns column parameter sent hReads hSent
    rcases hReads.unique
        (Request.selectsEqual_keyFilter doc m.naming "id" key
          m.dialect) with
      ⟨rfl, rfl, rfl⟩
    cases hSent
    exact ⟨_, _, rfl, .refl _⟩
  refine ⟨by decide +kernel, [first, new], ?_⟩
  exact
    (Mapper.get_returns_inserted hIdentity hColumns hSurvives rfl rfl
      hKey rfl rfl hFresh hInsert hSelect).2.2

end DocTable

end EntitySql
