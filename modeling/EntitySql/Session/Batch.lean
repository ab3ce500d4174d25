import EntitySql.Session.Provider

/-
  This file defines batches: statements that run in order,
  each with a callback that can stop the rest.

  Key definitions include:
    * `BatchStep`, `BatchOutcome`
    * `runSteps`
    * `Provider.runBatch`
-/

namespace EntitySql

/-
  A statement of a batch and what is done with its answer. The
  callback says whether the batch goes on.
-/
structure BatchStep (ω : Type) where
  statement : Statement
  onResult : StatementResult → Action ω Bool

/- A step whose answer does not matter. -/
def BatchStep.discard
    {ω : Type}
    (s : Statement) : BatchStep ω :=
  ⟨s, fun _ => pure true⟩

/- How a batch ends: at its end, or at the step that stops it. -/
inductive BatchOutcome where
  | completed
  | vetoed (step : Nat)
  deriving DecidableEq, Repr

def BatchOutcome.isCompleted : BatchOutcome → Bool
  | .completed => true
  | .vetoed _ => false

/-
  Run steps in order, numbered from `i` on. Each answer goes to
  its callback before the next step runs.
-/
def runSteps
    {ω : Type}
    (execute : Statement → Action ω StatementResult) :
    Nat → List (BatchStep ω) → Action ω BatchOutcome
  | _, [] => pure .completed
  | i, step :: steps => do
      let result ← execute step.statement
      if ← step.onResult result then runSteps execute (i + 1) steps
      else pure (.vetoed i)

namespace Provider

variable {ω κ : Type}

/- Run a batch with a connection for every statement. -/
def runEach
    (p : Provider ω κ)
    (steps : List (BatchStep ω)) : Action ω BatchOutcome :=
  runSteps
    (fun s => p.withConnection fun conn => p.execute conn s) 0 steps

/- Run a batch in one transaction, which a veto rolls back. -/
def runTogether
    (p : Provider ω κ)
    (isolation : Isolation)
    (steps : List (BatchStep ω)) : Action ω BatchOutcome :=
  p.transaction isolation BatchOutcome.isCompleted fun conn =>
    runSteps (p.execute conn) 0 steps

/- Run a batch, in a transaction if an isolation is given. -/
def runBatch
    (p : Provider ω κ)
    (steps : List (BatchStep ω))
    (isolation : Option Isolation) : Action ω BatchOutcome :=
  match isolation with
  | none => p.runEach steps
  | some isolation => p.runTogether isolation steps

end Provider

end EntitySql
