import EntitySql.Proofs.Session.Transaction
import EntitySql.Session.Basic

/-
  The transaction that a session runs a script in: the calls of
  the script stand between one beginning and one ending, and
  the result of the script decides the ending.

  Key definitions include:
    * `CallReport`, `Script.Makes`
    * `ScriptReport`, `ScriptReport.observations`
    * `ScriptReport.Describes`

  Key theorems include:
    * `Script.exists_makes`
    * `Session.runOn_transaction`
    * `Session.transaction_ends_script_once`

  A script may call anything and hide any failure. It cannot
  end its transaction, so that every course of it has the same
  few endings.
-/

namespace EntitySql

open EntitySql.Action

variable {ω κ γ α : Type}

------------------------------------------------------------
-- Courses of transactions
------------------------------------------------------------

/- A transaction, one request after the other. -/
theorem Provider.runOn_transaction
    (p : Provider ω κ)
    (isolation : Isolation)
    (keep : α → Bool)
    (body : κ → Action ω α)
    (w : ω) :
    (p.transaction isolation keep body).runOn w =
      (match p.openConnection.runOn w with
        | (.error e, w) => (.error e, w)
        | (.ok conn, w) =>
            match (p.control conn (.begin isolation)).runOn w with
            | (.error e, w) => (.error e, p.close conn w)
            | (.ok (), w) =>
                match (body conn).runOn w with
                | (.error e, w) =>
                    (.error e, p.close conn (p.rollBackQuietly conn w))
                | (.ok a, w) =>
                    let (result, w) :=
                      (p.finish conn
                        (if keep a then .commit else .rollback)).runOn
                          w
                    (ended a result, p.close conn w)) := by
  simp only [transaction, runOn_bind, withConnection,
    runOn_ofFunction, inTransaction]
  rcases p.openConnection.runOn w with ⟨e | conn, w⟩
  · rfl
  · dsimp only
    rcases (p.control conn (.begin isolation)).runOn w with
      ⟨e | _, w⟩
    · rfl
    · dsimp only
      rcases (body conn).runOn w with ⟨e | a, w⟩
      · rfl
      · dsimp only
        rcases (p.finish conn
            (if keep a then .commit else .rollback)).runOn w with
          ⟨e | _, w⟩
        · rfl
        · rfl

/- What stands beside a world has no part in an ending. -/
theorem Provider.runOn_finish_beside
    {σ : Type}
    (p : Provider ω κ)
    (conn : κ)
    (ending : Ending)
    (s : σ)
    (w : ω) :
    ((p.beside σ).finish conn ending).runOn (s, w) =
      (((p.finish conn ending).runOn w).1,
        (s, ((p.finish conn ending).runOn w).2)) := by
  cases ending with
  | commit =>
      have hCommit :
          ((p.beside σ).control conn .commit).runOn (s, w) =
            (((p.control conn .commit).runOn w).1,
              (s, ((p.control conn .commit).runOn w).2)) :=
        rfl
      simp only [finish, commitOrRollBack, runOn_ofFunction, hCommit]
      rcases (p.control conn .commit).runOn w with ⟨e | _, w⟩
      · rfl
      · rfl
  | rollback => rfl
  | abandon => rfl

/-
  The transaction of a script. What stands in front of the
  world is touched by the script alone.
-/
theorem Session.runOn_transaction
    (p : Provider ω κ)
    (isolation : Isolation)
    (script : Script (γ × Except SessionError α))
    (left? : Option γ)
    (registry : Registry)
    (w : ω) :
    (transaction p isolation script).runOn (left?, registry, w) =
      (match p.openConnection.runOn w with
        | (.error e, w) => (.error e, (left?, registry, w))
        | (.ok conn, w) =>
            match (p.control conn (.begin isolation)).runOn w with
            | (.error e, w) =>
                (.error e, (left?, registry, p.close conn w))
            | (.ok (), w) =>
                match script.run p conn registry w with
                | ((left, .error e), registry, w) =>
                    (.error e,
                      (some left, registry,
                        p.close conn (p.rollBackQuietly conn w)))
                | ((left, .ok a), registry, w) =>
                    let (result, w) :=
                      (p.finish conn .commit).runOn w
                    (Provider.ended a result,
                      (some left, registry, p.close conn w))) := by
  have hOpen :
      ((p.beside Registry).beside (Option γ)).openConnection.runOn
          (left?, registry, w) =
        ((p.openConnection.runOn w).1,
          (left?, registry, (p.openConnection.runOn w).2)) :=
    rfl
  have hBegin (conn : κ) (w : ω) :
      (((p.beside Registry).beside (Option γ)).control conn
          (.begin isolation)).runOn (left?, registry, w) =
        (((p.control conn (.begin isolation)).runOn w).1,
          (left?, registry,
            ((p.control conn (.begin isolation)).runOn w).2)) :=
    rfl
  have hScript (conn : κ) (w : ω) :
      (runReporting p script conn).runOn (left?, registry, w) =
        ((script.run p conn registry w).1.2,
          (some (script.run p conn registry w).1.1,
            (script.run p conn registry w).2)) :=
    rfl
  unfold transaction
  rw [Provider.runOn_transaction, hOpen]
  rcases p.openConnection.runOn w with ⟨e | conn, w⟩
  · rfl
  · dsimp only
    rw [hBegin]
    rcases (p.control conn (.begin isolation)).runOn w with
      ⟨e | _, w⟩
    · rfl
    · dsimp only
      rw [hScript]
      rcases script.run p conn registry w with
        ⟨⟨left, e | a⟩, registry, w⟩
      · rfl
      · simp only [if_true, Provider.runOn_finish_beside]
        rfl

------------------------------------------------------------
-- Calls of scripts
------------------------------------------------------------

/- A statement that was called, and what was answered. -/
structure CallReport where
  convention : Convention
  statement : Statement
  answer : Except SessionError convention.Answer

/- A call as it is observed on a connection. -/
def CallReport.observation
    {κ : Type}
    (conn : κ)
    (report : CallReport) : Observation κ :=
  .called conn report.convention report.statement
    (report.answer.map
      (StatementResult.ofAnswer report.convention))

/-
  The calls that a script makes when they are answered so, and
  what it comes to.
-/
inductive Script.Makes
    {α : Type} : Script α → List CallReport → α → Prop where
  | done (a) : Makes (.done a) [] a
  | use {e next calls a}
      (rest : Makes next calls a) :
      Makes (.use e next) calls a
  | call {c s next answer calls a}
      (rest : Makes (next answer) calls a) :
      Makes (.call c s next) (⟨c, s, answer⟩ :: calls) a

/- A script makes its calls on the connection that it has. -/
theorem Script.exists_makes
    (p : Provider ω κ)
    (conn : κ)
    (script : Script α)
    (registry : Registry)
    (w : ω) :
    ∃ calls a registry' w',
      script.Makes calls a ∧
      script.run p conn registry w = (a, registry', w') ∧
      ∀ log,
        script.run p.observed conn registry (log, w) =
          (a, registry',
            (log ++ calls.map (CallReport.observation conn),
              w')) := by
  induction script generalizing registry w with
  | done a => exact ⟨[], a, registry, w, .done a, rfl, by simp [run]⟩
  | use e next ih =>
      rcases ih (registry.use e) w with
        ⟨calls, a, registry', w', hMakes, hRun, hObserved⟩
      exact ⟨calls, a, registry', w', .use hMakes, hRun, hObserved⟩
  | call c s next ih =>
      rcases hCall : (p.call conn c s).runOn w with ⟨answer, u⟩
      rcases ih answer registry u with
        ⟨calls, a, registry', w', hMakes, hRun, hObserved⟩
      refine ⟨⟨c, s, answer⟩ :: calls, a, registry', w',
        .call hMakes, ?_, ?_⟩
      · simp only [run, hCall, hRun]
      · intro log
        have hNoted :
            (p.observed.call conn c s).runOn (log, w) =
              (answer,
                (log ++ [CallReport.observation conn ⟨c, s, answer⟩],
                  u)) := by
          simp only [Provider.observed, runOn_noted, hCall]
          rfl
        simp only [run, hNoted, hObserved, List.map_cons,
          List.append_assoc, List.singleton_append]

------------------------------------------------------------
-- Reports of scripts
------------------------------------------------------------

/-
  How a script in a transaction went. What is missing was not
  attempted, and a script that is missing never ran.
-/
structure ScriptReport (κ γ α : Type) where
  opening : Except SessionError κ
  begun? : Option (Except SessionError Unit)
  calls : List CallReport
  outcome? : Option (γ × Except SessionError α)
  commit? : Option (Except SessionError Unit)
  rollback? : Option (Except SessionError Unit)

namespace ScriptReport

/-
  One connection is opened. It is asked to begin, then for the
  calls of the script in order, then to commit, then to roll
  back, as far as each is attempted, and it is closed.
-/
def observations
    (report : ScriptReport κ γ α)
    (isolation : Isolation) : List (Observation κ) :=
  .opened report.opening ::
    match report.opening with
    | .error _ => []
    | .ok conn =>
        report.begun?.toList.map
            (.controlled conn (.begin isolation)) ++
          report.calls.map (CallReport.observation conn) ++
          report.commit?.toList.map (.controlled conn .commit) ++
          report.rollback?.toList.map
            (.controlled conn .rollback) ++
          [.closed conn]

/-
  What is attempted for a script, and how that decides the
  result of the transaction.
-/
structure Describes
    (report : ScriptReport κ γ α)
    (script : Script (γ × Except SessionError α))
    (result : Except SessionError α) : Prop where
  begun_iff :
    report.begun?.isSome ↔ ∃ conn, report.opening = .ok conn
  outcome_iff :
    report.outcome?.isSome ↔ report.begun? = some (.ok ())
  makes :
    ∀ outcome, report.outcome? = some outcome →
      script.Makes report.calls outcome
  calls_nil : report.outcome? = none → report.calls = []
  commit_iff :
    report.commit?.isSome ↔
      ∃ left a, report.outcome? = some (left, .ok a)
  rollback_iff :
    report.rollback?.isSome ↔
      report.outcome?.isSome ∧ report.commit? ≠ some (.ok ())
  open_fails : ∀ e, report.opening = .error e → result = .error e
  begin_fails :
    ∀ e, report.begun? = some (.error e) → result = .error e
  script_fails :
    ∀ left e, report.outcome? = some (left, .error e) →
      result = .error e
  commit_fails :
    ∀ e, report.commit? = some (.error e) → result = .error e
  script_succeeds_iff :
    ∀ left a, report.outcome? = some (left, .ok a) →
      (result = .ok a ↔ report.commit? = some (.ok ()))

/- What the script has left behind, if it ran. -/
def left?
    (report : ScriptReport κ γ α) : Option γ :=
  report.outcome?.map Prod.fst

/-
  A script that fails is rolled back, and its error stays; the
  outcome of the rollback does not matter.
-/
theorem describes_of_error
    {script : Script (γ × Except SessionError α)}
    {calls : List CallReport}
    {left : γ}
    {e : SessionError}
    (conn : κ)
    (rolledBack : Except SessionError Unit)
    (hMakes : script.Makes calls (left, .error e)) :
    Describes
      ⟨.ok conn, some (.ok ()), calls, some (left, .error e), none,
        some rolledBack⟩
      script (.error e) := by
  constructor
  case makes =>
    intro outcome hOutcome
    cases hOutcome
    exact hMakes
  all_goals simp

/- A script that succeeds is ended as a commit ends. -/
theorem exists_describes_of_ends
    {script : Script (γ × Except SessionError α)}
    {calls : List CallReport}
    {left : γ}
    {a : α}
    {conn : κ}
    {entries : List (Observation κ)}
    {ending : Except SessionError Unit}
    (hMakes : script.Makes calls (left, .ok a))
    (hEnds : Provider.Ends conn .commit entries ending) :
    ∃ commit? rollback?,
      entries =
        commit?.toList.map (.controlled conn .commit) ++
          rollback?.toList.map (.controlled conn .rollback) ∧
      Describes
        ⟨.ok conn, some (.ok ()), calls, some (left, .ok a), commit?,
          rollback?⟩
        script (Provider.ended a ending) := by
  have hOutcome (outcome : γ × Except SessionError α)
      (hSome : some (left, .ok a) = some outcome) :
      script.Makes calls outcome := by
    cases hSome
    exact hMakes
  cases hEnds with
  | committed =>
      refine ⟨some (.ok ()), none, rfl, ?_⟩
      constructor
      case makes => exact hOutcome
      all_goals simp [Provider.ended]
  | commitFails e rolledBack =>
      refine ⟨some (.error e), some rolledBack, rfl, ?_⟩
      constructor
      case makes => exact hOutcome
      all_goals simp [Provider.ended]

end ScriptReport

------------------------------------------------------------
-- The ending of a script
------------------------------------------------------------

/-
  On every run a transaction makes the requests of a report,
  whether or not they are observed. The report says which of
  them were attempted, that the calls are those of the script,
  and what the result is.
-/
theorem Session.transaction_ends_script_once
    (p : Provider ω κ)
    (isolation : Isolation)
    (script : Script (γ × Except SessionError α))
    (registry : Registry)
    (w : ω) :
    ∃ (report : ScriptReport κ γ α)
      (result : Except SessionError α)
      (registry' : Registry)
      (w' : ω),
      (transaction p isolation script).runOn (none, registry, w) =
        (result, (report.left?, registry', w')) ∧
      (transaction p.observed isolation script).runOn
          (none, registry, ([], w)) =
        (result,
          (report.left?, registry',
            (report.observations isolation, w'))) ∧
      report.Describes script result := by
  rw [runOn_transaction, runOn_transaction]
  have hOpen :
      p.observed.openConnection.runOn ([], w) =
        ((p.openConnection.runOn w).1,
          ([.opened (p.openConnection.runOn w).1],
            (p.openConnection.runOn w).2)) :=
    rfl
  have hClose (conn : κ) (log : List (Observation κ)) (w : ω) :
      p.observed.close conn (log, w) =
        (log ++ [.closed conn], p.close conn w) :=
    rfl
  rw [hOpen]
  rcases p.openConnection.runOn w with ⟨e | conn, w⟩
  · refine ⟨⟨.error e, none, [], none, none, none⟩, .error e,
      registry, w, rfl, rfl, ?_⟩
    constructor <;> simp
  dsimp only
  rw [Provider.observed_control]
  rcases (p.control conn (.begin isolation)).runOn w with ⟨e | _, w⟩
  · refine ⟨⟨.ok conn, some (.error e), [], none, none, none⟩,
      .error e, registry, p.close conn w, rfl, rfl, ?_⟩
    constructor <;> simp
  dsimp only
  rcases script.exists_makes p conn registry w with
    ⟨calls, ⟨left, e | a⟩, registry', w', hMakes, hRun, hObserved⟩
  · rw [hRun, hObserved]
    refine ⟨_, .error e, registry', _, rfl, ?_,
      ScriptReport.describes_of_error conn
        ((p.control conn .rollback).runOn w').1 hMakes⟩
    simp [Provider.observed_rollBackQuietly, hClose,
      ScriptReport.observations, ScriptReport.left?]
  · rw [hRun, hObserved]
    rcases p.shows_finish conn .commit w' with
      ⟨entries, ending, w'', hFinish, hFinish', hEnds⟩
    rcases ScriptReport.exists_describes_of_ends hMakes hEnds with
      ⟨commit?, rollback?, rfl, hDescribes⟩
    refine ⟨_, _, registry', p.close conn w'', ?_, ?_, hDescribes⟩
    · simp only [hFinish]
      rfl
    · simp only [hFinish']
      simp [hClose, ScriptReport.observations, ScriptReport.left?]

end EntitySql
