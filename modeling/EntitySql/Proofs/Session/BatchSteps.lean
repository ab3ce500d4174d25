import EntitySql.Proofs.Session.Observation

/-
  The steps of a batch on one connection: which statements run,
  and how the result follows from how they went.

  Key definitions include:
    * `StepReport`, `StepReport.Stops`, `StepReport.outcome`
    * `Provider.StepsShow`

  Key theorems include:
    * `StepReport.outcome_completed_iff`
    * `StepReport.outcome_vetoed_iff`
    * `StepReport.findSome?_flatten`
    * `Provider.shows_runSteps_of_steps`
    * `Provider.shows_runSteps`
-/

namespace EntitySql

open EntitySql.Action

------------------------------------------------------------
-- Reports of steps
------------------------------------------------------------

/- How a step went: no answer, or one that its callback judged. -/
inductive StepReport where
  | failed (e : SessionError)
  | judged (answer : StatementResult)
      (verdict : Except SessionError Bool)

namespace StepReport

variable {κ : Type}

/- Whether the batch goes on, or the error that stops it. -/
def verdict : StepReport → Except SessionError Bool
  | .failed e => .error e
  | .judged _ verdict => verdict

def observations
    (conn : κ)
    (s : Statement) : StepReport → List (Observation κ)
  | .failed e => [.called conn s.kind.convention s (.error e)]
  | .judged answer verdict =>
      [.called conn s.kind.convention s (.ok answer),
        .judged answer verdict]

/- The observations of the steps that ran, in order. -/
def allObservations
    (conn : κ)
    (statements : List Statement)
    (reports : List StepReport) : List (Observation κ) :=
  (List.zipWith (observations conn) statements reports).flatten

/-
  Reports of some number of steps, up to the first that stops
  the batch or up to the last one.
-/
inductive Stops : Nat → List StepReport → Prop where
  | done : Stops 0 []
  | stopped {n report}
      (stays : verdict report ≠ .ok true) :
      Stops (n + 1) [report]
  | passed {n report reports}
      (passes : verdict report = .ok true)
      (rest : Stops n reports) :
      Stops (n + 1) (report :: reports)

/- A step that does not pass is the last one. -/
theorem stops_cons_iff
    {n : Nat}
    {report : StepReport}
    {reports : List StepReport} :
    Stops (n + 1) (report :: reports) ↔
      (verdict report ≠ .ok true ∧ reports = []) ∨
      (verdict report = .ok true ∧ Stops n reports) := by
  constructor
  · intro hStops
    cases hStops with
    | stopped hStays => exact .inl ⟨hStays, rfl⟩
    | passed hPasses hRest => exact .inr ⟨hPasses, hRest⟩
  · rintro (⟨hStays, rfl⟩ | ⟨hPasses, hRest⟩)
    · exact .stopped hStays
    · exact .passed hPasses hRest

/- The result of steps that are numbered from `i` on. -/
def outcome :
    Nat → List StepReport → Except SessionError BatchOutcome
  | _, [] => .ok .completed
  | i, report :: reports =>
      match report.verdict with
      | .error e => .error e
      | .ok false => .ok (.vetoed i)
      | .ok true => outcome (i + 1) reports

/- A batch is complete iff every step ran and passed. -/
theorem outcome_completed_iff
    {n : Nat}
    {reports : List StepReport}
    (i : Nat)
    (hStops : Stops n reports) :
    outcome i reports = .ok .completed ↔
      reports.length = n ∧
        ∀ report ∈ reports, report.verdict = .ok true := by
  induction hStops generalizing i with
  | done => simp [outcome]
  | @stopped n report hStays =>
      rcases hVerdict : report.verdict with e | _ | _
      · simp [outcome, hVerdict]
      · simp [outcome, hVerdict]
      · exact absurd hVerdict hStays
  | passed hPasses hRest ih =>
      simp [outcome, hPasses, ih]

/- A batch is vetoed by the step whose callback says no. -/
theorem outcome_vetoed_iff
    {n : Nat}
    {reports : List StepReport}
    (i j : Nat)
    (hStops : Stops n reports) :
    outcome i reports = .ok (.vetoed j) ↔
      ∃ k, j = i + k ∧
        reports[k]?.map verdict = some (.ok false) := by
  induction hStops generalizing i with
  | done => simp [outcome]
  | @stopped n report hStays =>
      rcases hVerdict : report.verdict with e | _ | _
      · simp [outcome, hVerdict, List.getElem?_singleton]
      · simp [outcome, hVerdict, List.getElem?_singleton, eq_comm]
      · exact absurd hVerdict hStays
  | passed hPasses hRest ih =>
      simp only [outcome, hPasses, ih]
      constructor
      · rintro ⟨k, rfl, hGet⟩
        exact ⟨k + 1, by omega, hGet⟩
      · rintro ⟨_ | k, rfl, hGet⟩
        · simp [hPasses] at hGet
        · exact ⟨k, by omega, hGet⟩

theorem findSome?_observations
    (conn : κ)
    (s : Statement)
    (report : StepReport) :
    (report.observations conn s).findSome? Observation.failure? =
      failure? report.verdict := by
  rcases report with e | ⟨answer, (e | goesOn)⟩ <;> rfl

/-
  The first error of the steps is the error of their result, if
  what is seen of every step fails as the step does.
-/
theorem findSome?_flatten
    {ρ : Type}
    {step : ρ → StepReport}
    {seen : Statement → ρ → List (Observation κ)}
    {statements : List Statement}
    {reports : List ρ}
    (i : Nat)
    (hSeen : ∀ s report,
      (seen s report).findSome? Observation.failure? =
        failure? (step report).verdict)
    (hStops : Stops statements.length (reports.map step)) :
    (List.zipWith seen statements reports).flatten.findSome?
        Observation.failure? =
      failure? (outcome i (reports.map step)) := by
  induction reports generalizing i statements with
  | nil =>
      rw [List.zipWith_nil_right]
      rfl
  | cons report reports ih =>
      cases statements with
      | nil => cases hStops
      | cons s statements =>
          rw [List.zipWith_cons_cons, List.flatten_cons,
            List.findSome?_append, hSeen, List.map_cons, outcome]
          rcases stops_cons_iff.mp hStops with
            ⟨hStays, hLast⟩ | ⟨hPasses, hRest⟩
          · rw [List.map_eq_nil_iff] at hLast
            subst hLast
            rw [List.zipWith_nil_right]
            rcases hVerdict : (step report).verdict with e | _ | _
            · rfl
            · rfl
            · exact absurd hVerdict hStays
          · rw [ih (i + 1) hRest, hPasses]
            rfl

/- The first error of the steps is the error of their result. -/
theorem findSome?_allObservations
    {statements : List Statement}
    {reports : List StepReport}
    (conn : κ)
    (i : Nat)
    (hStops : Stops statements.length reports) :
    (allObservations conn statements reports).findSome?
        Observation.failure? =
      failure? (outcome i reports) := by
  rw [← List.map_id' reports] at hStops
  have hFirst :=
    findSome?_flatten i (findSome?_observations conn) hStops
  rw [List.map_id'] at hFirst
  exact hFirst

end StepReport

------------------------------------------------------------
-- Running steps
------------------------------------------------------------

namespace Provider

variable {ω κ : Type}

/- A statement is run, and its callback judges the answer. -/
theorem shows_step
    (p : Provider ω κ)
    (conn : κ)
    (step : BatchStep ω) :
    Shows
      (p.execute conn step.statement >>= step.onResult)
      (p.observed.execute conn step.statement >>=
        (step.observed κ).onResult)
      fun entries result => ∃ report : StepReport,
        entries = report.observations conn step.statement ∧
        result = report.verdict := by
  have hJudge (answer : StatementResult) :
      Shows (step.onResult answer)
        ((step.observed κ).onResult answer) _ :=
    Shows.noted _ _
  refine ((p.shows_execute conn step.statement).bind hJudge).mono ?_
  intro entries result hThen
  cases hThen with
  | @failed _ e hFirst => exact ⟨.failed e, hFirst, rfl⟩
  | @followed answer _ _ _ hFirst hNext =>
      subst hFirst hNext
      exact ⟨.judged answer result, rfl, rfl⟩

/- What a connection is asked by steps numbered from `i` on. -/
def StepsShow
    (conn : κ)
    (i : Nat)
    (statements : List Statement)
    (entries : List (Observation κ))
    (result : Except SessionError BatchOutcome) : Prop :=
  ∃ reports,
    StepReport.Stops statements.length reports ∧
    entries =
      StepReport.allObservations conn statements reports ∧
    result = StepReport.outcome i reports

/-
  Steps run in order until one of them stops the batch, however
  their statements are run: what is seen is what is seen of
  every step that ran.
-/
theorem shows_runSteps_of_steps
    {ρ : Type}
    {step : ρ → StepReport}
    {seen : Statement → ρ → List (Observation κ)}
    {execute : Statement → Action ω StatementResult}
    {execute' :
      Statement →
        Action (List (Observation κ) × ω) StatementResult}
    (hStep : ∀ s : BatchStep ω,
      Shows (execute s.statement >>= s.onResult)
        (execute' s.statement >>= (s.observed κ).onResult)
        fun entries result => ∃ report,
          entries = seen s.statement report ∧
          result = (step report).verdict)
    (i : Nat)
    (steps : List (BatchStep ω)) :
    Shows (runSteps execute i steps)
      (runSteps execute' i (steps.map (BatchStep.observed κ)))
      fun entries result => ∃ reports,
        StepReport.Stops steps.length (reports.map step) ∧
        entries =
          (List.zipWith seen (steps.map (·.statement))
            reports).flatten ∧
        result = StepReport.outcome i (reports.map step) := by
  induction steps generalizing i with
  | nil =>
      refine (Shows.pure BatchOutcome.completed).mono ?_
      rintro entries result ⟨rfl, rfl⟩
      exact ⟨[], .done, rfl, rfl⟩
  | cons s steps ih =>
      simp only [runSteps, List.map_cons, ← bind_assoc]
      have hRest (goesOn : Bool) :
          Shows
            (if goesOn then runSteps execute (i + 1) steps
              else pure (.vetoed i))
            (if goesOn then
                runSteps execute' (i + 1)
                  (steps.map (BatchStep.observed κ))
              else pure (.vetoed i))
            fun entries result =>
              bif goesOn then
                ∃ reports,
                  StepReport.Stops steps.length
                    (reports.map step) ∧
                  entries =
                    (List.zipWith seen (steps.map (·.statement))
                      reports).flatten ∧
                  result =
                    StepReport.outcome (i + 1) (reports.map step)
              else entries = [] ∧ result = .ok (.vetoed i) := by
        cases goesOn with
        | true => exact ih (i + 1)
        | false => exact Shows.pure _
      refine ((hStep s).bind hRest).mono ?_
      intro entries result hThen
      cases hThen with
      | failed hFirst =>
          rcases hFirst with ⟨report, rfl, hVerdict⟩
          refine ⟨[report], .stopped ?_, ?_, ?_⟩
          · simp [← hVerdict]
          · simp
          · simp [StepReport.outcome, ← hVerdict]
      | @followed goesOn _ _ _ hFirst hNext =>
          rcases hFirst with ⟨report, rfl, hVerdict⟩
          cases goesOn with
          | true =>
              rcases hNext with ⟨reports, hStops, rfl, rfl⟩
              refine ⟨report :: reports,
                .passed hVerdict.symm hStops, rfl, ?_⟩
              simp [StepReport.outcome, ← hVerdict]
          | false =>
              rcases hNext with ⟨rfl, rfl⟩
              refine ⟨[report], .stopped ?_, ?_, ?_⟩
              · simp [← hVerdict]
              · simp
              · simp [StepReport.outcome, ← hVerdict]

/-
  Steps run in order on one connection, each followed by its
  callback, until one of them stops the batch.
-/
theorem shows_runSteps
    (p : Provider ω κ)
    (conn : κ)
    (i : Nat)
    (steps : List (BatchStep ω)) :
    Shows (runSteps (p.execute conn) i steps)
      (runSteps (p.observed.execute conn) i
        (steps.map (BatchStep.observed κ)))
      (StepsShow conn i (steps.map (·.statement))) := by
  refine
    (shows_runSteps_of_steps (p.shows_step conn) i steps).mono ?_
  rintro entries result ⟨reports, hStops, rfl, rfl⟩
  rw [List.map_id'] at hStops ⊢
  refine ⟨reports, ?_, rfl, rfl⟩
  rw [List.length_map]
  exact hStops

end Provider

end EntitySql
