import EntitySql.Proofs.Session.BatchSteps

/-
  The steps of a batch without a transaction: each has a
  connection of its own, which is closed before its callback
  is called.

  Key definitions include:
    * `SingleReport`, `SingleReport.observations`
    * `SingleReport.Describes`

  Key theorems include:
    * `SingleReport.describes_of_stops`
    * `Provider.shows_runEach`
-/

namespace EntitySql

open EntitySql.Action

variable {ω κ : Type}

------------------------------------------------------------
-- Steps with a connection of their own
------------------------------------------------------------

/- How a step went that has a connection of its own. -/
inductive SingleReport (κ : Type) where
  | openFails (e : SessionError)
  | opened (conn : κ) (report : StepReport)

namespace SingleReport

/- A step without a connection has failed. -/
def step : SingleReport κ → StepReport
  | .openFails e => .failed e
  | .opened _ report => report

/- The connection is closed before the callback is called. -/
def observations
    (s : Statement) : SingleReport κ → List (Observation κ)
  | .openFails e => [.opened (.error e)]
  | .opened conn (.failed e) =>
      [.opened (.ok conn),
        .called conn s.kind.convention s (.error e),
        .closed conn]
  | .opened conn (.judged answer verdict) =>
      [.opened (.ok conn),
        .called conn s.kind.convention s (.ok answer),
        .closed conn,
        .judged answer verdict]

/- The observations of the steps that were reached, in order. -/
def allObservations
    (statements : List Statement)
    (reports : List (SingleReport κ)) : List (Observation κ) :=
  (List.zipWith observations statements reports).flatten

theorem findSome?_observations
    (s : Statement)
    (report : SingleReport κ) :
    (report.observations s).findSome? Observation.failure? =
      failure? report.step.verdict := by
  rcases report with e | ⟨conn, e | ⟨answer, (e | goesOn)⟩⟩ <;> rfl

/-
  How the reached steps of a batch without a transaction went,
  and how that decides its result.
-/
structure Describes
    (reports : List (SingleReport κ))
    (statements : List Statement)
    (result : Except SessionError BatchOutcome) : Prop where
  steps_stop :
    StepReport.Stops statements.length (reports.map step)
  uncontrolled :
    ∀ conn k ended,
      .controlled conn k ended ∉ allObservations statements reports
  completed_iff :
    result = .ok .completed ↔
      reports.length = statements.length ∧
        ∀ report ∈ reports, report.step.verdict = .ok true
  vetoed_iff :
    ∀ j, result = .ok (.vetoed j) ↔
      reports[j]?.map (fun report => report.step.verdict) =
        some (.ok false)
  failure?_eq :
    failure? result =
      (allObservations statements reports).findSome?
        Observation.failure?

/- Steps that stop by the rule decide the result of a batch. -/
theorem describes_of_stops
    {statements : List Statement}
    {reports : List (SingleReport κ)}
    (hStops :
      StepReport.Stops statements.length (reports.map step)) :
    Describes reports statements
      (StepReport.outcome 0 (reports.map step)) := by
  constructor
  case steps_stop => exact hStops
  case uncontrolled =>
    intro conn k ended hMem
    rw [allObservations, ← List.map_uncurry_zip_eq_zipWith,
      ← List.flatMap_def, List.mem_flatMap] at hMem
    rcases hMem with
      ⟨⟨s, e | ⟨conn, e | ⟨answer, verdict⟩⟩⟩, _, hMem⟩ <;>
      simp [observations] at hMem
  case completed_iff =>
    rw [StepReport.outcome_completed_iff 0 hStops]
    simp
  case vetoed_iff =>
    intro j
    rw [StepReport.outcome_vetoed_iff 0 j hStops]
    simp [Function.comp_def]
  case failure?_eq =>
    exact
      (StepReport.findSome?_flatten 0 findSome?_observations
        hStops).symm

end SingleReport

namespace Provider

/-
  A statement is run on a connection of its own, and its
  callback judges the answer.
-/
theorem shows_single_step
    (p : Provider ω κ)
    (s : BatchStep ω) :
    Shows
      ((p.withConnection fun conn => p.execute conn s.statement) >>=
        s.onResult)
      ((p.observed.withConnection fun conn =>
          p.observed.execute conn s.statement) >>=
        (s.observed κ).onResult)
      fun entries result => ∃ report : SingleReport κ,
        entries = report.observations s.statement ∧
        result = report.step.verdict := by
  have hJudge (answer : StatementResult) :
      Shows (s.onResult answer) ((s.observed κ).onResult answer) _ :=
    Shows.noted _ _
  have hCall :=
    p.shows_withConnection fun conn =>
      p.shows_execute conn s.statement
  refine (hCall.bind hJudge).mono ?_
  intro entries result hThen
  cases hThen with
  | failed hFirst =>
      cases hFirst with
      | openFails => exact ⟨.openFails _, rfl, rfl⟩
      | @worked conn _ _ hWork =>
          subst hWork
          exact ⟨.opened conn (.failed _), rfl, rfl⟩
  | @followed answer _ _ _ hFirst hNext =>
      cases hFirst with
      | @worked conn _ _ hWork =>
          subst hWork hNext
          exact ⟨.opened conn (.judged answer result), rfl, rfl⟩

/-
  A batch without a transaction runs its steps in order, each
  on a connection of its own.
-/
theorem shows_runEach
    (p : Provider ω κ)
    (steps : List (BatchStep ω)) :
    Shows (p.runEach steps)
      (p.observed.runEach (steps.map (BatchStep.observed κ)))
      fun entries result => ∃ reports : List (SingleReport κ),
        entries =
          SingleReport.allObservations (steps.map (·.statement))
            reports ∧
        SingleReport.Describes reports (steps.map (·.statement))
          result := by
  refine
    (shows_runSteps_of_steps p.shows_single_step 0 steps).mono ?_
  rintro entries result ⟨reports, hStops, rfl, rfl⟩
  refine ⟨reports, rfl, SingleReport.describes_of_stops ?_⟩
  rw [List.length_map]
  exact hStops

end Provider

end EntitySql
