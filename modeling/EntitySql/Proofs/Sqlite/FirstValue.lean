import EntitySql.Proofs.Sqlite.StatementRuns
import EntitySql.Sqlite.Connection

/-
  A call for one value and a call for all rows run a command in
  the same way, and the value is the first one of the rows.

  Key definitions include:
    * `Sqlite.Engine.keptFirst`, `Sqlite.Engine.keptSets`
    * `Sqlite.Engine.Answers`

  Key theorems include:
    * `Sqlite.Engine.scalar_eq_ok_iff`
    * `Sqlite.Engine.reader_eq_ok_iff`
    * `Sqlite.Engine.scalar_is_first_of_reader`

  The library under the calls is any one whose statements end.
  Its world may well hold a record of all that was asked of it,
  so runs that end in one world are the same to the database.
-/

namespace EntitySql

namespace Sqlite

namespace Engine

variable {σ π γ α : Type}
variable {e : Engine σ π γ}
variable {w w' : σ}

------------------------------------------------------------
-- What is kept of a statement
------------------------------------------------------------

/- A statement without columns leaves what was kept alone. -/
theorem runWithoutRows_pure_eq_ok_iff
    {a b : α}
    {p : π}
    {bindings : Bindings}
    (hColumns : (e.columns p).isEmpty = true) :
    (do
        let _ ← e.runWithoutRows (e.start p bindings)
        pure a : Action σ α).runOn w = (.ok b, w') ↔
      ∃ rows, e.Completes ⟨p, bindings, rows⟩ w w' ∧ a = b := by
  simp only [Action.runOn_bind_eq_ok_iff, runWithoutRows_eq_ok_iff]
  constructor
  · rintro ⟨_, _, ⟨hEnds, _⟩, hSame⟩
    cases hSame
    exact ⟨[], ⟨hEnds, fun _ => rfl⟩, rfl⟩
  · rintro ⟨rows, hCompletes, rfl⟩
    have hEnds := hCompletes.ends
    rw [hCompletes.quiet hColumns] at hEnds
    exact ⟨_, _, ⟨hEnds, rfl⟩, rfl⟩

/- The first value, with one more statement. -/
def keptFirst
    (e : Engine σ π γ)
    (first : Option Value)
    (run : StatementRun π) : Except SessionError (Option Value) :=
  if (e.columns run.statement).isEmpty then .ok first
  else do
    let v ← firstOf run.rows
    .ok (some (first.getD v))

theorem keepFirst_eq_ok_iff
    {first next : Option Value}
    {p : π}
    {bindings : Bindings} :
    (e.keepFirst first p (e.start p bindings)).runOn w =
        (.ok next, w') ↔
      ∃ rows, e.Completes ⟨p, bindings, rows⟩ w w' ∧
        e.keptFirst first ⟨p, bindings, rows⟩ = .ok next := by
  unfold keepFirst keptFirst
  cases hColumns : (e.columns p).isEmpty with
  | true =>
      simp only [hColumns, if_true, Except.ok.injEq]
      exact runWithoutRows_pure_eq_ok_iff hColumns
  | false =>
      simp only [hColumns, Bool.false_eq_true, if_false,
        Action.runOn_bind_eq_ok_iff, firstValue_eq_ok_iff,
        EntitySql.bind_eq_ok_iff]
      constructor
      · rintro ⟨v, _, ⟨rows, hEnds, hFirst⟩, hSame⟩
        cases hSame
        exact ⟨rows, ⟨hEnds, by simp [hColumns]⟩, v, hFirst, rfl⟩
      · rintro ⟨rows, hCompletes, v, hFirst, hSame⟩
        cases hSame
        exact ⟨v, w', ⟨rows, hCompletes.ends, hFirst⟩, rfl⟩

/- The result sets, with one more statement. -/
def keptSets
    (e : Engine σ π γ)
    (sets : List ResultSet)
    (run : StatementRun π) : Except SessionError (List ResultSet) :=
  let columns := e.columns run.statement
  if columns.isEmpty then .ok sets
  else do
    let set ← run.rows.foldlM (pushRow columns.length) ⟨columns, []⟩
    .ok (sets ++ [set])

theorem collect_eq_ok_iff
    {sets next : List ResultSet}
    {p : π}
    {bindings : Bindings} :
    (e.collect sets p (e.start p bindings)).runOn w =
        (.ok next, w') ↔
      ∃ rows, e.Completes ⟨p, bindings, rows⟩ w w' ∧
        e.keptSets sets ⟨p, bindings, rows⟩ = .ok next := by
  unfold collect keptSets
  cases hColumns : (e.columns p).isEmpty with
  | true =>
      simp only [hColumns, if_true, Except.ok.injEq]
      exact runWithoutRows_pure_eq_ok_iff hColumns
  | false =>
      simp only [hColumns, Bool.false_eq_true, if_false,
        Action.runOn_bind_eq_ok_iff, eachRow_eq_ok_iff,
        EntitySql.bind_eq_ok_iff]
      constructor
      · rintro ⟨set, _, ⟨rows, hEnds, hRows⟩, hSame⟩
        cases hSame
        exact ⟨rows, ⟨hEnds, by simp [hColumns]⟩, set, hRows, rfl⟩
      · rintro ⟨rows, hCompletes, set, hRows, hSame⟩
        cases hSame
        exact ⟨set, w', ⟨rows, hCompletes.ends, hRows⟩, rfl⟩

------------------------------------------------------------
-- Result sets
------------------------------------------------------------

/- A row of so many columns, as it is read. -/
def readRow
    (width : Nat)
    (row : List Datum) : Except SessionError (List Value) :=
  (List.range width).mapM (valueAt row)

/- A result set holds the columns and rows of a statement. -/
structure Answers
    (e : Engine σ π γ)
    (run : StatementRun π)
    (set : ResultSet) : Prop where
  columns : set.columns = e.columns run.statement
  rows :
    run.rows.mapM (readRow (e.columns run.statement).length) =
      .ok set.rows

theorem foldlM_pushRow_eq_ok_iff
    {width : Nat}
    {rows : List (List Datum)}
    {set next : ResultSet} :
    rows.foldlM (pushRow width) set = .ok next ↔
      ∃ values, rows.mapM (readRow width) = .ok values ∧
        ⟨set.columns, set.rows ++ values⟩ = next := by
  simp only [mapM_eq_ok_iff]
  induction rows generalizing set with
  | nil =>
      change Except.ok set = .ok next ↔ _
      simp
  | cons row rows ih =>
      rw [List.foldlM_cons]
      simp only [EntitySql.bind_eq_ok_iff, pushRow, ih]
      constructor
      · rintro ⟨_, ⟨values, hRow, hSet⟩, rest, hRest, hNext⟩
        cases hSet
        refine ⟨values :: rest, .cons hRow hRest, ?_⟩
        simpa [ResultSet.push] using hNext
      · rintro ⟨_, _ | ⟨hRow, hRest⟩, hNext⟩
        refine ⟨_, ⟨_, hRow, rfl⟩, _, hRest, ?_⟩
        simpa [ResultSet.push] using hNext

/- One more statement with columns has one more result set. -/
theorem keptSets_eq_ok_iff
    {run : StatementRun π}
    {sets next : List ResultSet} :
    e.keptSets sets run = .ok next ↔
      ((e.columns run.statement).isEmpty = true ∧ sets = next) ∨
      ((e.columns run.statement).isEmpty = false ∧
        ∃ set, e.Answers run set ∧ sets ++ [set] = next) := by
  unfold keptSets
  cases hColumns : (e.columns run.statement).isEmpty with
  | true => simp [hColumns]
  | false =>
      simp only [hColumns, Bool.false_eq_true, if_false, false_and,
        true_and, false_or, EntitySql.bind_eq_ok_iff,
        foldlM_pushRow_eq_ok_iff]
      constructor
      · rintro ⟨_, ⟨rows, hRows, rfl⟩, hSame⟩
        cases hSame
        exact ⟨_, ⟨rfl, hRows⟩, rfl⟩
      · rintro ⟨⟨columns, rows⟩, ⟨hNames, hRows⟩, rfl⟩
        cases hNames
        exact ⟨_, ⟨rows, hRows, rfl⟩, rfl⟩

/- The first value of a statement is that of its result set. -/
theorem Answers.firstOf_eq
    {run : StatementRun π}
    {set : ResultSet}
    (hAnswers : e.Answers run set)
    (hColumns : (e.columns run.statement).isEmpty = false) :
    firstOf run.rows = .ok (set.scalar?.getD .null) := by
  obtain ⟨width, hWidth⟩ :
      ∃ width, (e.columns run.statement).length = width + 1 := by
    rw [List.isEmpty_eq_false_iff, ← List.length_pos_iff] at hColumns
    exact Nat.exists_eq_succ_of_ne_zero (Nat.ne_of_gt hColumns)
  have hRows := hAnswers.rows
  rw [hWidth, mapM_eq_ok_iff] at hRows
  rcases set with ⟨columns, values⟩
  rcases run with ⟨p, bindings, rows⟩
  cases hRows with
  | nil => rfl
  | cons hFirst _ =>
      unfold readRow at hFirst
      rw [mapM_eq_ok_iff, List.range_succ_eq_map] at hFirst
      cases hFirst with
      | cons hValue _ => exact hValue

def hasColumns
    (e : Engine σ π γ)
    (run : StatementRun π) : Bool :=
  !(e.columns run.statement).isEmpty

/- There is a result set for every statement with columns. -/
theorem foldlM_keptSets_eq_ok_iff
    {runs : List (StatementRun π)}
    {sets next : List ResultSet} :
    runs.foldlM e.keptSets sets = .ok next ↔
      ∃ new, List.Forall₂ e.Answers (runs.filter e.hasColumns) new ∧
        sets ++ new = next := by
  induction runs generalizing sets with
  | nil =>
      change Except.ok sets = .ok next ↔ _
      simp
  | cons run runs ih =>
      rw [List.foldlM_cons, EntitySql.bind_eq_ok_iff]
      simp only [keptSets_eq_ok_iff, ih]
      cases hColumns : (e.columns run.statement).isEmpty with
      | true =>
          have hDropped : ¬ e.hasColumns run = true := by
            simp [hasColumns, hColumns]
          rw [List.filter_cons_of_neg hDropped]
          simp
      | false =>
          have hKept : e.hasColumns run = true := by
            simp [hasColumns, hColumns]
          rw [List.filter_cons_of_pos hKept]
          simp only [Bool.false_eq_true, false_and, false_or,
            true_and]
          constructor
          · rintro ⟨_, ⟨set, hAnswers, rfl⟩, new, hRest, rfl⟩
            exact ⟨set :: new, .cons hAnswers hRest, by simp⟩
          · rintro ⟨_, _ | ⟨hAnswers, hRest⟩, rfl⟩
            exact ⟨_, ⟨_, hAnswers, rfl⟩, _, hRest, by simp⟩

/- The first value of the first set, which is NULL without rows. -/
def firstScalar?
    (sets : List ResultSet) : Option Value :=
  sets.head?.map fun set => set.scalar?.getD .null

/-
  Where the result sets can be kept, so can the first value,
  and it is always that of the first set.
-/
theorem foldlM_keptFirst_of_keptSets
    {runs : List (StatementRun π)}
    {sets next : List ResultSet}
    (hSets : runs.foldlM e.keptSets sets = .ok next) :
    runs.foldlM e.keptFirst (firstScalar? sets) =
      .ok (firstScalar? next) := by
  induction runs generalizing sets with
  | nil =>
      cases hSets
      rfl
  | cons run runs ih =>
      rw [List.foldlM_cons, EntitySql.bind_eq_ok_iff] at hSets ⊢
      rcases hSets with ⟨between, hKept, hRest⟩
      refine ⟨firstScalar? between, ?_, ih hRest⟩
      rcases keptSets_eq_ok_iff.mp hKept with
        ⟨hColumns, rfl⟩ | ⟨hColumns, set, hAnswers, rfl⟩
      · unfold keptFirst
        rw [hColumns]
        rfl
      · unfold keptFirst
        rw [hColumns, hAnswers.firstOf_eq hColumns]
        cases sets <;> rfl

------------------------------------------------------------
-- Calls
------------------------------------------------------------

theorem scalar_eq_ok_iff
    {s : Statement}
    {v : Value} :
    (e.call .scalar s).runOn w = (.ok v, w') ↔
      ∃ runs, e.RunsAll s.params s.sql.toList w runs w' ∧
        ∃ first, runs.foldlM e.keptFirst none = .ok first ∧
          first.getD .null = v := by
  have hStatements (first : Option Value) :
      (e.eachStatement s.params e.keepFirst none s.sql.toList).runOn
          w = (.ok first, w') ↔
        ∃ runs, e.RunsAll s.params s.sql.toList w runs w' ∧
          runs.foldlM e.keptFirst none = .ok first :=
    eachStatement_eq_ok_iff (by intros; exact keepFirst_eq_ok_iff)
  unfold call
  rw [Action.runOn_bind_eq_ok_iff]
  constructor
  · rintro ⟨first, after, hRun, hSame⟩
    cases hSame
    rcases (hStatements first).mp hRun with ⟨runs, hRuns, hKept⟩
    exact ⟨runs, hRuns, first, hKept, rfl⟩
  · rintro ⟨runs, hRuns, first, hKept, rfl⟩
    exact ⟨first, w', (hStatements first).mpr ⟨runs, hRuns, hKept⟩,
      rfl⟩

theorem reader_eq_ok_iff
    {s : Statement}
    {sets : List ResultSet} :
    (e.call .reader s).runOn w = (.ok sets, w') ↔
      ∃ runs, e.RunsAll s.params s.sql.toList w runs w' ∧
        runs.foldlM e.keptSets [] = .ok sets :=
  eachStatement_eq_ok_iff (by intros; exact collect_eq_ok_iff)

/-
  A call for all rows succeeds if every statement can be run to
  its end and has a result set that answers it, where it has
  columns. A call for a first value that succeeds has run the
  statements to their ends, too. Where all rows are answered,
  so is the first value, in the same world: it is that of the
  first set, or NULL if there is no set or no row in it.
-/
theorem scalar_is_first_of_reader
    (e : Engine σ π γ)
    (s : Statement)
    (w : σ) :
    (∀ sets w', (e.call .reader s).runOn w = (.ok sets, w') ↔
      ∃ runs, e.RunsAll s.params s.sql.toList w runs w' ∧
        List.Forall₂ e.Answers (runs.filter e.hasColumns) sets) ∧
    (∀ v w', (e.call .scalar s).runOn w = (.ok v, w') →
      ∃ runs, e.RunsAll s.params s.sql.toList w runs w') ∧
    ∀ sets w', (e.call .reader s).runOn w = (.ok sets, w') →
      (e.call .scalar s).runOn w =
        (.ok ((sets.head?.bind ResultSet.scalar?).getD .null),
          w') := by
  refine ⟨?_, ?_, ?_⟩
  · intro sets w'
    rw [reader_eq_ok_iff]
    simp only [foldlM_keptSets_eq_ok_iff, List.nil_append,
      exists_eq_right]
  · intro v w' hScalar
    rcases scalar_eq_ok_iff.mp hScalar with ⟨runs, hRuns, _⟩
    exact ⟨runs, hRuns⟩
  · intro sets w' hReader
    rcases reader_eq_ok_iff.mp hReader with ⟨runs, hRuns, hSets⟩
    have hFirst := foldlM_keptFirst_of_keptSets hSets
    rw [scalar_eq_ok_iff]
    refine ⟨runs, hRuns, _, hFirst, ?_⟩
    cases sets <;> rfl

/-
  Two selects in a transaction: the first one has no row, and
  the second one gives the last value bound under each name.
-/
theorem empty_set_is_null_scalar :
    let s : Statement :=
      { sql :=
          "BEGIN; SELECT @a AS x WHERE 0; -- no row\n" ++
          "SELECT @b, @a UNION ALL SELECT @a, @c;; COMMIT"
        params :=
          [⟨"a", .int 1⟩, ⟨"unused", .int 2⟩, ⟨"b", .bool true⟩,
            ⟨"a", .blob [3]⟩]
        kind := .multiResult }
    let sets : List ResultSet :=
      [⟨["x"], []⟩,
        ⟨["@b", "@a"],
          [[.int 1, .blob [3]], [.blob [3], .null]]⟩]
    (emptyDatabase.call .reader s).runOn {} = (.ok sets, {}) ∧
      (emptyDatabase.call .scalar s).runOn {} = (.ok .null, {}) ∧
      (∃ runs,
        emptyDatabase.RunsAll s.params s.sql.toList {} runs {}) ∧
      ∃ runs, emptyDatabase.RunsAll s.params s.sql.toList {} runs {} ∧
        List.Forall₂ emptyDatabase.Answers
          (runs.filter emptyDatabase.hasColumns) sets := by
  intro s sets
  have hReader :
      (emptyDatabase.call .reader s).runOn {} = (.ok sets, {}) := by
    decide +kernel
  rcases emptyDatabase.scalar_is_first_of_reader s {} with
    ⟨hReaderIff, hScalarRuns, hSame⟩
  have hScalar := hSame sets {} hReader
  exact ⟨hReader, hScalar, hScalarRuns _ _ hScalar,
    (hReaderIff sets {}).mp hReader⟩

end Engine

end Sqlite

end EntitySql
