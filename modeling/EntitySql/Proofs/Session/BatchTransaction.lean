import EntitySql.Proofs.Session.BatchSteps
import EntitySql.Proofs.Session.Transaction

/-
  Batches in one transaction: which requests are made of the
  provider, and how the result follows from how they went.

  Key definitions include:
    * `BatchReport`, `BatchReport.observations`
    * `BatchReport.Describes`

  Key theorems include:
    * `BatchReport.exists_of_transacts`
    * `Provider.runBatch_ends_transaction_once`
-/

namespace EntitySql

open EntitySql.Action

variable {ω κ : Type}

------------------------------------------------------------
-- Reports of batches
------------------------------------------------------------

/-
  How a batch in a transaction went. What is missing was not
  attempted.
-/
structure BatchReport (κ : Type) where
  opening : Except SessionError κ
  begun? : Option (Except SessionError Unit)
  steps : List StepReport
  commit? : Option (Except SessionError Unit)
  rollback? : Option (Except SessionError Unit)

namespace BatchReport

/-
  One connection is opened. It is asked to begin, then to run
  the statements of the steps in order, then to commit, then to
  roll back, as far as each is attempted, and it is closed.
-/
def observations
    (report : BatchReport κ)
    (isolation : Isolation)
    (statements : List Statement) : List (Observation κ) :=
  .opened report.opening ::
    match report.opening with
    | .error _ => []
    | .ok conn =>
        report.begun?.toList.map
            (.controlled conn (.begin isolation)) ++
          StepReport.allObservations conn statements report.steps ++
          report.commit?.toList.map (.controlled conn .commit) ++
          report.rollback?.toList.map
            (.controlled conn .rollback) ++
          [.closed conn]

/-
  What is attempted in a batch of some statements, and how that
  decides the result.
-/
structure Describes
    (report : BatchReport κ)
    (isolation : Isolation)
    (statements : List Statement)
    (result : Except SessionError BatchOutcome) : Prop where
  begun_iff :
    report.begun?.isSome ↔ ∃ conn, report.opening = .ok conn
  steps_stop :
    report.begun? = some (.ok ()) →
      StepReport.Stops statements.length report.steps
  steps_nil :
    report.begun? ≠ some (.ok ()) → report.steps = []
  commit_iff :
    report.commit?.isSome ↔
      report.begun? = some (.ok ()) ∧
        report.steps.length = statements.length ∧
        ∀ step ∈ report.steps, step.verdict = .ok true
  rollback_iff :
    report.rollback?.isSome ↔
      report.begun? = some (.ok ()) ∧
        report.commit? ≠ some (.ok ())
  completed_iff :
    result = .ok .completed ↔ report.commit? = some (.ok ())
  vetoed_iff :
    ∀ j, result = .ok (.vetoed j) ↔
      report.steps[j]?.map StepReport.verdict = some (.ok false) ∧
        report.rollback? = some (.ok ())
  failure?_eq :
    failure? result =
      (report.observations isolation statements).findSome?
        Observation.failure?

/- What happens after a batch's steps have run. -/
inductive Closes :
    Except SessionError BatchOutcome →
      Option (Except SessionError Unit) →
        Option (Except SessionError Unit) →
          Except SessionError BatchOutcome → Prop where
  | committed :
      Closes (.ok .completed) (some (.ok ())) none (.ok .completed)
  | commitFails (e rolledBack) :
      Closes (.ok .completed) (some (.error e)) (some rolledBack)
        (.error e)
  | vetoed (j) :
      Closes (.ok (.vetoed j)) none (some (.ok ()))
        (.ok (.vetoed j))
  | rollbackFails (j e) :
      Closes (.ok (.vetoed j)) none (some (.error e)) (.error e)
  | failed (e rolledBack) :
      Closes (.error e) none (some rolledBack) (.error e)

/- A transaction that has begun is described by its closing. -/
theorem describes_of_closes
    {statements : List Statement}
    {reports : List StepReport}
    {commit? rollback? : Option (Except SessionError Unit)}
    {result : Except SessionError BatchOutcome}
    (isolation : Isolation)
    (conn : κ)
    (hStops : StepReport.Stops statements.length reports)
    (hCloses :
      Closes (StepReport.outcome 0 reports) commit? rollback?
        result) :
    Describes
      ⟨.ok conn, some (.ok ()), reports, commit?, rollback?⟩
      isolation statements result := by
  have hVetoed (j : Nat) :
      StepReport.outcome 0 reports = .ok (.vetoed j) ↔
        reports[j]?.map StepReport.verdict = some (.ok false) := by
    rw [StepReport.outcome_vetoed_iff 0 j hStops]
    simp
  have hCompleted := StepReport.outcome_completed_iff 0 hStops
  have hFirst :=
    StepReport.findSome?_allObservations conn 0 hStops
  generalize StepReport.outcome 0 reports = outcome at *
  constructor
  case begun_iff => simp
  case steps_stop => exact fun _ => hStops
  case steps_nil => simp
  case commit_iff =>
    cases hCloses <;> simp [← hCompleted]
  case rollback_iff =>
    cases hCloses <;> simp
  case completed_iff =>
    cases hCloses <;> simp
  case vetoed_iff =>
    intro j
    cases hCloses <;> simp [← hVetoed]
  case failure?_eq =>
    cases hCloses <;>
      simp [observations, List.findSome?_cons,
        List.findSome?_append, hFirst, Observation.failure?,
        failure?]

/- The requests that end a batch's transaction close it. -/
theorem exists_closes_of_ends
    {conn : κ}
    {outcome : BatchOutcome}
    {entries : List (Observation κ)}
    {ending : Except SessionError Unit}
    (hEnds :
      Provider.Ends conn
        (if outcome.isCompleted then .commit else .rollback)
        entries ending) :
    ∃ commit? rollback?,
      entries =
        commit?.toList.map (.controlled conn .commit) ++
          rollback?.toList.map (.controlled conn .rollback) ∧
      Closes (.ok outcome) commit? rollback?
        (Provider.ended outcome ending) := by
  cases outcome with
  | completed =>
      cases hEnds with
      | committed => exact ⟨_, _, rfl, .committed⟩
      | commitFails e rolledBack =>
          exact ⟨_, _, rfl, .commitFails e rolledBack⟩
  | vetoed j =>
      cases hEnds with
      | rolledBack =>
          refine ⟨none, some ending, rfl, ?_⟩
          cases ending with
          | ok => exact .vetoed j
          | error e => exact .rollbackFails j e

/- Every course of a batch's transaction has a report. -/
theorem exists_of_transacts
    {isolation : Isolation}
    {statements : List Statement}
    {entries : List (Observation κ)}
    {result : Except SessionError BatchOutcome}
    (hTransacts :
      Provider.Transacts isolation BatchOutcome.isCompleted
        (fun conn => Provider.StepsShow conn 0 statements)
        entries result) :
    ∃ report : BatchReport κ,
      entries = report.observations isolation statements ∧
      report.Describes isolation statements result := by
  cases hTransacts with
  | openFails e =>
      refine ⟨⟨.error e, none, [], none, none⟩, rfl, ?_⟩
      constructor <;>
        simp [observations, List.findSome?_cons,
          Observation.failure?, failure?]
  | beginFails conn e =>
      refine ⟨⟨.ok conn, some (.error e), [], none, none⟩, ?_, ?_⟩
      · simp [observations, StepReport.allObservations]
      · constructor <;>
          simp [observations, StepReport.allObservations,
            List.findSome?_cons, Observation.failure?, failure?]
  | @workFails conn _ e rolledBack hWork =>
      rcases hWork with ⟨reports, hStops, rfl, hOutcome⟩
      refine ⟨⟨.ok conn, some (.ok ()), reports, none,
        some rolledBack⟩, ?_, ?_⟩
      · simp [observations]
      · apply describes_of_closes isolation conn hStops
        rw [← hOutcome]
        exact .failed e rolledBack
  | @ends conn _ outcome _ ending hWork hEnds =>
      rcases hWork with ⟨reports, hStops, rfl, hOutcome⟩
      rcases exists_closes_of_ends hEnds with
        ⟨commit?, rollback?, rfl, hCloses⟩
      refine ⟨⟨.ok conn, some (.ok ()), reports, commit?,
        rollback?⟩, ?_, ?_⟩
      · simp [observations]
      · apply describes_of_closes isolation conn hStops
        rw [← hOutcome]
        exact hCloses

end BatchReport

------------------------------------------------------------
-- The transaction of a batch
------------------------------------------------------------

/-
  On every run a batch in a transaction makes the requests of a
  report, whether or not they are observed, and the report says
  which of them were attempted and what the result is.
-/
theorem Provider.runBatch_ends_transaction_once
    (p : Provider ω κ)
    (isolation : Isolation)
    (steps : List (BatchStep ω))
    (w : ω) :
    ∃ (report : BatchReport κ)
      (result : Except SessionError BatchOutcome)
      (w' : ω),
      (p.runBatch steps (some isolation)).runOn w = (result, w') ∧
      (p.observed.runBatch (steps.map (BatchStep.observed κ))
          (some isolation)).runOn ([], w) =
        (result,
          (report.observations isolation
            (steps.map (·.statement)), w')) ∧
      report.Describes isolation (steps.map (·.statement))
        result := by
  have hShows :=
    p.shows_transaction isolation BatchOutcome.isCompleted
      fun conn => p.shows_runSteps conn 0 steps
  rcases hShows w with
    ⟨entries, result, w', hPlain, hObserved, hTransacts⟩
  rcases BatchReport.exists_of_transacts hTransacts with
    ⟨report, rfl, hDescribes⟩
  exact ⟨report, result, w', hPlain, hObserved [], hDescribes⟩

end EntitySql
