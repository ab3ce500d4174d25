import EntitySql.Proofs.Predicate.Binding
import EntitySql.Proofs.Session.Observation
import EntitySql.Sqlite.Engine

/-
  What it means that a command has run: its statements are
  bound by name and run to their ends, one after the other.

  Key definitions include:
    * `Sqlite.StatementRun`
    * `Sqlite.Engine.RunsToEnd`
    * `Sqlite.Engine.BindsByName`
    * `Sqlite.Engine.RunsAll`

  Key theorems include:
    * `Sqlite.Engine.eachRow_eq_ok_iff`
    * `Sqlite.Engine.bind_eq_ok_iff`
    * `Sqlite.Engine.eachStatement_eq_ok_iff`

  A loop succeeds if there is such a run and if what it gave
  can be taken in. The run itself does not depend on what is
  kept of its rows, so calls that keep different things can be
  compared by their runs.
-/

namespace EntitySql

namespace Sqlite

/- A statement that was run, and the rows that it gave. -/
structure StatementRun (π : Type) where
  statement : π
  bindings : Bindings
  rows : List (List Datum)

namespace Engine

variable {σ π γ α : Type}
variable {e : Engine σ π γ}

------------------------------------------------------------
-- One statement
------------------------------------------------------------

/- Stepped until it is done, a statement gives these rows. -/
inductive RunsToEnd
    (e : Engine σ π γ) : γ → σ → List (List Datum) → σ → Prop where
  | done {c w w'}
      (hStep : (e.step c).runOn w = (.ok none, w')) :
      RunsToEnd e c w [] w'
  | row {c w row c' w' rows w''}
      (hStep : (e.step c).runOn w = (.ok (some (row, c')), w'))
      (hRest : RunsToEnd e c' w' rows w'') :
      RunsToEnd e c w (row :: rows) w''

theorem exists_runsToEnd_of_eachRow
    {take : α → List Datum → Except SessionError α}
    {a b : α}
    {c : γ}
    {w w' : σ}
    (hEnd : e.eachRowFrom take a c w = (.ok b, w')) :
    ∃ rows, e.RunsToEnd c w rows w' ∧
      rows.foldlM take a = .ok b := by
  fun_induction eachRowFrom with
  | case1 a c w cause between hStep => cases hEnd
  | case2 a c w between hStep =>
      cases hEnd
      exact ⟨[], .done hStep, rfl⟩
  | case3 a c w row next between hStep cause hTake => cases hEnd
  | case4 a c w row next between hStep taken hTake ih =>
      rcases ih hEnd with ⟨rows, hRest, hTaken⟩
      refine ⟨row :: rows, .row hStep hRest, ?_⟩
      rw [List.foldlM_cons, hTake]
      exact hTaken

/- What is taken of every row does not change the run. -/
theorem eachRow_eq_ok_iff
    {take : α → List Datum → Except SessionError α}
    {a b : α}
    {c : γ}
    {w w' : σ} :
    (e.eachRow take a c).runOn w = (.ok b, w') ↔
      ∃ rows, e.RunsToEnd c w rows w' ∧
        rows.foldlM take a = .ok b := by
  constructor
  · exact exists_runsToEnd_of_eachRow
  · rintro ⟨rows, hRuns, hTaken⟩
    change e.eachRowFrom take a c w = (.ok b, w')
    induction hRuns generalizing a with
    | done hStep =>
        cases hTaken
        rw [eachRowFrom]
        split <;> simp_all
    | @row c w row next between rows last hStep hRest ih =>
        rw [List.foldlM_cons, EntitySql.bind_eq_ok_iff] at hTaken
        rcases hTaken with ⟨taken, hTake, hTaken⟩
        rw [eachRowFrom]
        split
        · simp_all
        · simp_all
        · rename_i hStep'
          cases hStep.symm.trans hStep'
          rw [hTake]
          exact ih hTaken

theorem orReset_eq_ok_iff
    {c : γ}
    {result : Except SessionError α}
    {a : α}
    {w w' : σ} :
    (e.orReset c result).runOn w = (.ok a, w') ↔
      result = .ok a ∧ w = w' := by
  cases result with
  | error cause =>
      constructor
      · nofun
      · rintro ⟨hOk, _⟩
        cases hOk
  | ok b =>
      change (Except.ok b, w) = (.ok a, w') ↔ _
      rw [Prod.mk.injEq]

/- A statement without rows is run to its end as well. -/
theorem runWithoutRows_eq_ok_iff
    {c : γ}
    {n : Nat}
    {w w' : σ} :
    (e.runWithoutRows c).runOn w = (.ok n, w') ↔
      e.RunsToEnd c w [] w' ∧ e.changes w' = n := by
  unfold runWithoutRows
  rw [Action.runOn_bind_eq_ok_iff]
  constructor
  · rintro ⟨_ | ⟨row, next⟩, between, hStep, hRest⟩
    · cases hRest
      exact ⟨.done hStep, rfl⟩
    · cases (orReset_eq_ok_iff.mp hRest).1
  · rintro ⟨⟨hStep⟩, rfl⟩
    exact ⟨none, w', hStep, rfl⟩

/- The first value of the rows, which is NULL without any. -/
def firstOf : List (List Datum) → Except SessionError Value
  | [] => .ok .null
  | row :: _ => valueAt row 0

/- For its first value too a statement is run to its end. -/
theorem firstValue_eq_ok_iff
    {c : γ}
    {v : Value}
    {w w' : σ} :
    (e.firstValue c).runOn w = (.ok v, w') ↔
      ∃ rows, e.RunsToEnd c w rows w' ∧ firstOf rows = .ok v := by
  have hIgnored (rows : List (List Datum)) :
      rows.foldlM (fun _ _ => .ok ()) () =
        (.ok () : Except SessionError Unit) := by
    induction rows with
    | nil => rfl
    | cons row rows ih => exact ih
  unfold firstValue
  rw [Action.runOn_bind_eq_ok_iff]
  constructor
  · rintro ⟨_ | ⟨row, next⟩, between, hStep, hRest⟩
    · cases hRest
      exact ⟨[], .done hStep, rfl⟩
    · simp only [Action.runOn_bind_eq_ok_iff, orReset_eq_ok_iff,
        eachRow_eq_ok_iff] at hRest
      rcases hRest with
        ⟨_, _, ⟨hFirst, rfl⟩, _, _, ⟨rows, hRuns, _⟩, hSame⟩
      cases hSame
      exact ⟨row :: rows, .row hStep hRuns, hFirst⟩
  · rintro ⟨_, hStep | ⟨hStep, hRuns⟩, hFirst⟩
    · cases hFirst
      exact ⟨none, w', hStep, rfl⟩
    · refine ⟨_, _, hStep, ?_⟩
      simp only [Action.runOn_bind_eq_ok_iff, orReset_eq_ok_iff,
        eachRow_eq_ok_iff]
      exact ⟨v, _, ⟨hFirst, rfl⟩, (), _, ⟨_, hRuns, hIgnored _⟩, rfl⟩

------------------------------------------------------------
-- Binding
------------------------------------------------------------

/- The statement refers to a parameter under this index. -/
def refersTo
    (e : Engine σ π γ)
    (p : π)
    (index : Nat)
    (q : Parameter) : Bool :=
  match e.parameterIndex p (Dialect.sqlite.placeholder q.name) with
  | .ok (some found) => index == found
  | _ => false

/- A parameter can be looked up, and bound if it is found. -/
def Accepts
    (e : Engine σ π γ)
    (p : π)
    (q : Parameter) : Prop :=
  ∃ index?,
    e.parameterIndex p (Dialect.sqlite.placeholder q.name) =
        .ok index? ∧
      (index?.isSome = true →
        e.checkBound (.ofValue q.value) = .ok ())

theorem bindParameter_eq_ok_iff
    {p : π}
    {q : Parameter}
    {b b' : Bindings} :
    e.bindParameter p b q = .ok b' ↔
      e.Accepts p q ∧
        (fun i =>
          if e.refersTo p i q then Datum.ofValue q.value
          else b i) = b' := by
  unfold bindParameter Accepts refersTo
  rw [EntitySql.bind_eq_ok_iff]
  cases e.parameterIndex p (Dialect.sqlite.placeholder q.name) with
  | error cause => simp
  | ok index? =>
      cases index? with
      | none => simp
      | some index =>
          have hSet :
              (fun i =>
                if (i == index) = true then Datum.ofValue q.value
                else b i) =
                b.set index (.ofValue q.value) := by
            funext i
            simp only [Bindings.set, beq_iff_eq]
          simp only [Except.ok.injEq, exists_eq_left', forall_const,
            Option.isSome_some, EntitySql.bind_eq_ok_iff, hSet]
          exact Unique.exists_iff

/-
  What is bound to every parameter of a statement: the value of
  the last parameter in the list that the statement refers to
  by that name, or else NULL. None was refused.
-/
structure BindsByName
    (e : Engine σ π γ)
    (params : List Parameter)
    (p : π)
    (b : Bindings) : Prop where
  accepted : ∀ q ∈ params, e.Accepts p q
  bound :
    ∀ i, b i =
      match params.reverse.find? (e.refersTo p i) with
      | some q => Datum.ofValue q.value
      | none => .null

/- Binding goes on from what has been bound already. -/
theorem foldlM_bindParameter_eq_ok_iff
    {params : List Parameter}
    {p : π}
    {b b' : Bindings} :
    params.foldlM (e.bindParameter p) b = .ok b' ↔
      (∀ q ∈ params, e.Accepts p q) ∧
        (fun i =>
          match params.reverse.find? (e.refersTo p i) with
          | some q => Datum.ofValue q.value
          | none => b i) = b' := by
  induction params generalizing b with
  | nil =>
      change Except.ok b = .ok b' ↔ _
      simp
  | cons q params ih =>
      -- The first of the list is looked for last.
      have hLast (i : Nat) :
          (match (q :: params).reverse.find? (e.refersTo p i) with
          | some q => Datum.ofValue q.value
          | none => b i) =
          match params.reverse.find? (e.refersTo p i) with
          | some q => Datum.ofValue q.value
          | none =>
              if e.refersTo p i q then Datum.ofValue q.value
              else b i := by
        rw [List.reverse_cons, List.find?_append]
        cases params.reverse.find? (e.refersTo p i) with
        | some found => rfl
        | none => cases hHere : e.refersTo p i q <;> simp [hHere]
      rw [List.foldlM_cons, EntitySql.bind_eq_ok_iff]
      simp only [bindParameter_eq_ok_iff, ih, List.forall_mem_cons,
        hLast]
      constructor
      · rintro ⟨_, ⟨hFirst, rfl⟩, hRest, hBound⟩
        exact ⟨⟨hFirst, hRest⟩, hBound⟩
      · rintro ⟨⟨hFirst, hRest⟩, hBound⟩
        exact ⟨_, ⟨hFirst, rfl⟩, hRest, hBound⟩

theorem bind_eq_ok_iff
    {params : List Parameter}
    {p : π}
    {b : Bindings} :
    e.bind params p = .ok b ↔ e.BindsByName params p b := by
  unfold bind
  rw [foldlM_bindParameter_eq_ok_iff]
  constructor
  · rintro ⟨hAccepted, rfl⟩
    exact ⟨hAccepted, fun _ => rfl⟩
  · rintro ⟨hAccepted, hBound⟩
    exact ⟨hAccepted, funext fun i => (hBound i).symm⟩

------------------------------------------------------------
-- All statements of a command
------------------------------------------------------------

/-
  A statement is run to its end. Without columns it must not
  have given a row.
-/
structure Completes
    (e : Engine σ π γ)
    (run : StatementRun π)
    (w w' : σ) : Prop where
  ends :
    e.RunsToEnd (e.start run.statement run.bindings) w run.rows w'
  quiet : (e.columns run.statement).isEmpty = true → run.rows = []

/-
  The statements of a text are run in order, each one bound by
  name, and run to its end before the next one is prepared.
-/
inductive RunsAll
    (e : Engine σ π γ)
    (params : List Parameter) :
    List Char → σ → List (StatementRun π) → σ → Prop where
  | finished {w} :
      RunsAll e params [] w [] w
  | blank {cs w read between runs w'}
      (hText : cs ≠ [])
      (hPrepare :
        (e.prepare cs).runOn w = (.ok (none, read), between))
      (hRest : RunsAll e params (unread cs read) between runs w') :
      RunsAll e params cs w runs w'
  | statement {cs w read prepared after run runs w'}
      (hText : cs ≠ [])
      (hPrepare :
        (e.prepare cs).runOn w =
          (.ok (some run.statement, read), prepared))
      (hBound : e.BindsByName params run.statement run.bindings)
      (hRun : e.Completes run prepared after)
      (hRest : RunsAll e params (unread cs read) after runs w') :
      RunsAll e params cs w (run :: runs) w'

variable {params : List Parameter}
variable {cs : List Char}
variable {w w' : σ}

/- A text that is not empty has a first statement, or is blank. -/
theorem eachStatement_eq_ok_iff_of_ne_nil
    {run : α → π → γ → Action σ α}
    {a b : α}
    (hText : cs ≠ []) :
    (e.eachStatement params run a cs).runOn w = (.ok b, w') ↔
      (∃ read between,
        (e.prepare cs).runOn w = (.ok (none, read), between) ∧
        (e.eachStatement params run a (unread cs read)).runOn
          between = (.ok b, w')) ∨
      ∃ p read prepared bindings next after,
        (e.prepare cs).runOn w = (.ok (some p, read), prepared) ∧
        e.BindsByName params p bindings ∧
        (run a p (e.start p bindings)).runOn prepared =
          (.ok next, after) ∧
        (e.eachStatement params run next (unread cs read)).runOn
          after = (.ok b, w') := by
  have hLift (p : π) (between : σ) (bindings : Bindings) (after : σ) :
      (liftM (e.bind params p) : Action σ Bindings).runOn between =
          (.ok bindings, after) ↔
        e.BindsByName params p bindings ∧ between = after := by
    rw [← bind_eq_ok_iff]
    change (e.bind params p, between) = (.ok bindings, after) ↔ _
    rw [Prod.mk.injEq]
  rw [eachStatement, dif_neg hText, Action.runOn_bind_eq_ok_iff]
  constructor
  · rintro ⟨⟨_ | p, read⟩, between, hPrepare, hRest⟩
    · exact .inl ⟨read, between, hPrepare, hRest⟩
    · simp only [Action.runOn_bind_eq_ok_iff, hLift] at hRest
      rcases hRest with
        ⟨bindings, _, ⟨hBound, rfl⟩, next, after, hRun, hRest⟩
      exact .inr ⟨p, read, between, bindings, next, after, hPrepare,
        hBound, hRun, hRest⟩
  · rintro (⟨read, between, hPrepare, hRest⟩ |
      ⟨p, read, between, bindings, next, after, hPrepare, hBound,
        hRun, hRest⟩)
    · exact ⟨(none, read), between, hPrepare, hRest⟩
    · refine ⟨(some p, read), between, hPrepare, ?_⟩
      simp only [Action.runOn_bind_eq_ok_iff, hLift]
      exact ⟨bindings, _, ⟨hBound, rfl⟩, next, after, hRun, hRest⟩

/-
  If what is kept of a statement depends only on its rows, a
  command keeps what is kept of its runs one after the other.
-/
theorem eachStatement_eq_ok_iff
    {run : α → π → γ → Action σ α}
    {keep : α → StatementRun π → Except SessionError α}
    (hRun : ∀ a b p bindings w w',
      (run a p (e.start p bindings)).runOn w = (.ok b, w') ↔
        ∃ rows, e.Completes ⟨p, bindings, rows⟩ w w' ∧
          keep a ⟨p, bindings, rows⟩ = .ok b)
    {a b : α} :
    (e.eachStatement params run a cs).runOn w = (.ok b, w') ↔
      ∃ runs, e.RunsAll params cs w runs w' ∧
        runs.foldlM keep a = .ok b := by
  constructor
  · intro hEnd
    -- Every statement shortens the text.
    induction hLength : cs.length using Nat.strongRecOn
      generalizing a cs w with
    | _ length ih =>
        subst hLength
        by_cases hText : cs = []
        · subst hText
          rw [eachStatement, dif_pos rfl] at hEnd
          cases hEnd
          exact ⟨[], .finished, rfl⟩
        · have hShorter := length_unread_lt hText
          rw [eachStatement_eq_ok_iff_of_ne_nil hText] at hEnd
          rcases hEnd with ⟨read, between, hPrepare, hRest⟩ |
            ⟨p, read, prepared, bindings, next, after, hPrepare,
              hBound, hHere, hRest⟩
          · rcases ih _ (hShorter read) hRest rfl with
              ⟨runs, hRuns, hKeep⟩
            exact ⟨runs, .blank hText hPrepare hRuns, hKeep⟩
          · rcases ih _ (hShorter read) hRest rfl with
              ⟨runs, hRuns, hKeep⟩
            rcases (hRun _ _ _ _ _ _).mp hHere with
              ⟨rows, hCompletes, hKept⟩
            refine ⟨⟨p, bindings, rows⟩ :: runs,
              .statement hText hPrepare hBound hCompletes hRuns, ?_⟩
            rw [List.foldlM_cons, hKept]
            exact hKeep
  · rintro ⟨runs, hRuns, hKeep⟩
    induction hRuns generalizing a with
    | finished =>
        cases hKeep
        rw [eachStatement, dif_pos rfl]
        rfl
    | blank hText hPrepare _ ih =>
        rw [eachStatement_eq_ok_iff_of_ne_nil hText]
        exact .inl ⟨_, _, hPrepare, ih hKeep⟩
    | statement hText hPrepare hBound hCompletes _ ih =>
        rw [List.foldlM_cons, EntitySql.bind_eq_ok_iff] at hKeep
        rcases hKeep with ⟨next, hKept, hKeep⟩
        rw [eachStatement_eq_ok_iff_of_ne_nil hText]
        exact .inr ⟨_, _, _, _, next, _, hPrepare, hBound,
          (hRun _ _ _ _ _ _).mpr ⟨_, hCompletes, hKept⟩, ih hKeep⟩

end Engine

end Sqlite

end EntitySql
