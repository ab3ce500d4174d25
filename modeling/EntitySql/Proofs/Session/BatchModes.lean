import EntitySql.Proofs.Session.BatchTransaction
import EntitySql.Proofs.Session.ScriptTransaction
import EntitySql.Proofs.Session.SeparateSteps

/-
  Batches with and without a transaction: when the two modes
  cannot be told apart.

  Key definitions include:
    * `Action.Alike`
    * `Observation.judgement?`, `judgements`
    * `Provider.AlikeInBothModes`
    * `BatchStep.IsBlindTo`

  Key theorems include:
    * `Action.Alike.runSteps`
    * `Provider.AlikeInBothModes.runTogether`
    * `BatchStep.beside_isBlindTo`
    * `Provider.runBatch_alike_in_both_modes`

  The two modes are two loops. Both run one list of steps by
  one rule, so that they differ only as far as the statements
  or the callbacks answer differently.
-/

namespace EntitySql

open EntitySql.Action

variable {ω κ α β σ : Type}

------------------------------------------------------------
-- Actions that cannot be told apart
------------------------------------------------------------

namespace Action

/-
  From related worlds the two actions end alike, in worlds that
  are related again.
-/
def Alike
    (related : ω → ω → Prop)
    (first second : Action ω α) : Prop :=
  ∀ w u, related w u →
    (first.runOn w).1 = (second.runOn u).1 ∧
      related (first.runOn w).2 (second.runOn u).2

variable {related : ω → ω → Prop}

theorem Alike.pure
    (a : α) :
    Alike related (pure a) (pure a) :=
  fun _ _ hRelated => ⟨rfl, hRelated⟩

theorem Alike.bind
    {first second : Action ω α}
    {next next' : α → Action ω β}
    (hFirst : Alike related first second)
    (hNext : ∀ a, Alike related (next a) (next' a)) :
    Alike related (first >>= next) (second >>= next') := by
  intro w u hRelated
  rcases hFirst w u hRelated with ⟨hResult, hAfter⟩
  rw [runOn_bind, runOn_bind]
  rcases hRun : first.runOn w with ⟨e | a, w'⟩
  · rcases hRun' : second.runOn u with ⟨e' | a', u'⟩
    · rw [hRun, hRun'] at hResult hAfter
      cases hResult
      exact ⟨rfl, hAfter⟩
    · rw [hRun, hRun'] at hResult
      cases hResult
  · rcases hRun' : second.runOn u with ⟨e' | a', u'⟩
    · rw [hRun, hRun'] at hResult
      cases hResult
    · rw [hRun, hRun'] at hResult hAfter
      cases hResult
      exact hNext a w' u' hAfter

/-
  Two ways to run statements that cannot be told apart run a
  batch alike, if its callbacks cannot tell them apart either.
-/
theorem Alike.runSteps
    {execute execute' : Statement → Action ω StatementResult}
    {steps : List (BatchStep ω)}
    (hStatements : ∀ step ∈ steps,
      Alike related (execute step.statement)
        (execute' step.statement))
    (hBlind : ∀ step ∈ steps, ∀ answer,
      Alike related (step.onResult answer) (step.onResult answer))
    (i : Nat) :
    Alike related (runSteps execute i steps)
      (runSteps execute' i steps) := by
  induction steps generalizing i with
  | nil => exact .pure _
  | cons step steps ih =>
      rw [List.forall_mem_cons] at hStatements hBlind
      have hRest (goesOn : Bool) :
          Alike related
            (if goesOn then EntitySql.runSteps execute (i + 1) steps
              else Pure.pure (.vetoed i))
            (if goesOn then EntitySql.runSteps execute' (i + 1) steps
              else Pure.pure (.vetoed i)) := by
        cases goesOn with
        | true => exact ih hStatements.2 hBlind.2 (i + 1)
        | false => exact .pure _
      exact hStatements.1.bind fun answer =>
        (hBlind.1 answer).bind hRest

------------------------------------------------------------
-- States beside worlds
------------------------------------------------------------

/- An action on what stands in front of a world. -/
def onFirst
    (action : Action σ α) : Action (σ × ω) α :=
  ofFunction fun (s, w) =>
    let (result, s) := action.runOn s
    (result, (s, w))

/- Related worlds with the same state in front of them. -/
def SameBeside
    (σ : Type)
    (related : ω → ω → Prop)
    (first second : σ × ω) : Prop :=
  first.1 = second.1 ∧ related first.2 second.2

theorem Alike.onSecond
    {first second : Action ω α}
    (hAlike : Alike related first second) :
    Alike (SameBeside σ related) (Provider.onSecond first)
      (Provider.onSecond second) := by
  rintro ⟨s, w⟩ ⟨t, u⟩ ⟨hState, hRelated⟩
  rcases hAlike w u hRelated with ⟨hResult, hAfter⟩
  exact ⟨hResult, hState, hAfter⟩

/- An action that does not see the world cannot tell worlds apart. -/
theorem Alike.onFirst
    (action : Action σ α) :
    Alike (SameBeside σ related) action.onFirst action.onFirst := by
  rintro ⟨s, w⟩ ⟨t, u⟩ ⟨hState, hRelated⟩
  cases hState
  exact ⟨rfl, rfl, hRelated⟩

end Action

/- The step whose callback has a state of its own. -/
def BatchStep.beside
    (ω : Type)
    (step : BatchStep σ) : BatchStep (σ × ω) :=
  ⟨step.statement, fun answer => (step.onResult answer).onFirst⟩

/- The callback of the step cannot tell related worlds apart. -/
def BatchStep.IsBlindTo
    (related : ω → ω → Prop)
    (step : BatchStep ω) : Prop :=
  ∀ answer,
    Alike related (step.onResult answer) (step.onResult answer)

/- A callback with a state of its own is blind to the world. -/
theorem BatchStep.beside_isBlindTo
    (related : ω → ω → Prop)
    (step : BatchStep σ) :
    (step.beside ω).IsBlindTo (SameBeside σ related) :=
  fun answer => .onFirst (step.onResult answer)

------------------------------------------------------------
-- What callbacks are told
------------------------------------------------------------

/- The answer that a callback was given, and its verdict. -/
def Observation.judgement? :
    Observation κ →
      Option (StatementResult × Except SessionError Bool)
  | .judged answer verdict => some (answer, verdict)
  | _ => none

/- The calls of callbacks among what was observed, in order. -/
def judgements
    (log : List (Observation κ)) :
    List (StatementResult × Except SessionError Bool) :=
  log.filterMap Observation.judgement?

@[simp] theorem judgements_append
    (log log' : List (Observation κ)) :
    judgements (log ++ log') = judgements log ++ judgements log' :=
  List.filterMap_append

/- Related worlds in which callbacks were told the same. -/
def ToldAlike
    (related : ω → ω → Prop)
    (first second : List (Observation κ) × ω) : Prop :=
  judgements first.1 = judgements second.1 ∧
    related first.2 second.2

/-
  Actions that cannot be told apart are observed alike if they
  tell callbacks the same.
-/
theorem Action.Alike.observed
    {related : ω → ω → Prop}
    {first second : Action ω α}
    {first' second' : Action (List (Observation κ) × ω) α}
    {sees sees' :
      List (Observation κ) → Except SessionError α → Prop}
    (hAlike : Alike related first second)
    (hFirst : Shows first first' sees)
    (hSecond : Shows second second' sees')
    (hTold : ∀ {entries entries' result},
      sees entries result → sees' entries' result →
        judgements entries = judgements entries') :
    Alike (ToldAlike related) first' second' := by
  rintro ⟨log, w⟩ ⟨log', u⟩ ⟨hLogs, hRelated⟩
  rcases hFirst w with
    ⟨entries, result, w', hRun, hRun', hEntries⟩
  rcases hSecond u with
    ⟨entries', result', u', hOther, hOther', hEntries'⟩
  have hEnds := hAlike w u hRelated
  rw [hRun, hOther] at hEnds
  rcases hEnds with ⟨hResult, hAfter⟩
  dsimp only at hResult
  subst hResult
  rw [hRun', hOther']
  refine ⟨rfl, ?_, hAfter⟩
  dsimp only at hLogs
  simp only [judgements_append, hLogs, hTold hEntries hEntries']

------------------------------------------------------------
-- The two modes
------------------------------------------------------------

namespace Provider

theorem execute_beside
    (p : Provider ω κ)
    (conn : κ)
    (s : Statement) :
    (p.beside σ).execute conn s = onSecond (p.execute conn s) := by
  apply ext_runOn
  rintro ⟨t, w⟩
  simp only [execute, Provider.beside, runOn_bind, runOn_onSecond,
    runOn_pure]
  rcases (p.call conn s.kind.convention s).runOn w with ⟨e | a, w'⟩
  · rfl
  · rfl

theorem withConnection_beside
    (p : Provider ω κ)
    (s : Statement) :
    ((p.beside σ).withConnection fun own =>
        (p.beside σ).execute own s) =
      onSecond (p.withConnection fun own => p.execute own s) := by
  simp only [execute_beside]
  apply ext_runOn
  rintro ⟨t, w⟩
  simp only [withConnection, Provider.beside, runOn_ofFunction,
    runOn_onSecond]
  rcases p.openConnection.runOn w with ⟨e | conn, w'⟩
  · rfl
  · rfl

/-
  Statements answer the same in both modes. A world in which
  every statement has a connection of its own is related to one
  in which they share the connection of a transaction, from its
  beginning to its ending, both of which succeed.
-/
structure AlikeInBothModes
    (p : Provider ω κ)
    (isolation : Isolation)
    (statements : List Statement)
    (w : ω)
    (conn : κ)
    (related : ω → ω → Prop) : Prop where
  begins :
    ∃ u v,
      p.openConnection.runOn w = (.ok conn, u) ∧
      (p.control conn (.begin isolation)).runOn u = (.ok (), v) ∧
      related w v
  commits :
    ∀ u v, related u v →
      ((p.control conn .commit).runOn v).1 = .ok ()
  rolls_back :
    ∀ u v, related u v →
      ((p.control conn .rollback).runOn v).1 = .ok ()
  answers :
    ∀ s ∈ statements,
      Alike related (p.withConnection fun own => p.execute own s)
        (p.execute conn s)

namespace AlikeInBothModes

/- A state beside the world has no part in the answers. -/
theorem beside
    {p : Provider ω κ}
    {isolation : Isolation}
    {statements : List Statement}
    {w : ω}
    {conn : κ}
    {related : ω → ω → Prop}
    (hAlike : p.AlikeInBothModes isolation statements w conn related)
    (s : σ) :
    (p.beside σ).AlikeInBothModes isolation statements (s, w) conn
      (SameBeside σ related) := by
  constructor
  case begins =>
    rcases hAlike.begins with ⟨u, v, hOpen, hBegin, hStart⟩
    refine ⟨(s, u), (s, v), ?_, ?_, rfl, hStart⟩
    · simp only [Provider.beside, runOn_onSecond, hOpen]
    · simp only [Provider.beside, runOn_onSecond, hBegin]
  case commits =>
    rintro ⟨t, u⟩ ⟨t', v⟩ ⟨_, hRelated⟩
    exact hAlike.commits u v hRelated
  case rolls_back =>
    rintro ⟨t, u⟩ ⟨t', v⟩ ⟨_, hRelated⟩
    exact hAlike.rolls_back u v hRelated
  case answers =>
    intro statement hMem
    rw [withConnection_beside, execute_beside]
    exact (hAlike.answers statement hMem).onSecond

variable
  {p : Provider ω κ}
  {isolation : Isolation}
  {steps : List (BatchStep ω)}
  {w : ω}
  {conn : κ}
  {related : ω → ω → Prop}

/- The steps end alike and tell their callbacks the same. -/
theorem runSteps
    (hAlike :
      p.AlikeInBothModes isolation (steps.map (·.statement)) w conn
        related)
    (hBlind : ∀ step ∈ steps, step.IsBlindTo related) :
    Alike (ToldAlike related)
      (p.observed.runEach (steps.map (BatchStep.observed κ)))
      (EntitySql.runSteps (p.observed.execute conn) 0
        (steps.map (BatchStep.observed κ))) := by
  apply Alike.runSteps
  · intro observed hMem
    rcases List.mem_map.mp hMem with ⟨step, hStep, rfl⟩
    have hOwn :=
      p.shows_withConnection fun own =>
        p.shows_execute own step.statement
    refine (hAlike.answers step.statement
      (List.mem_map_of_mem hStep)).observed hOwn
        (p.shows_execute conn step.statement) ?_
    rintro entries entries' result hEntries rfl
    cases hEntries with
    | openFails => rfl
    | worked hWork =>
        subst hWork
        rfl
  · intro observed hMem answer
    rcases List.mem_map.mp hMem with ⟨step, hStep, rfl⟩
    refine (hBlind step hStep answer).observed (Shows.noted _ _)
      (Shows.noted _ _) ?_
    rintro entries entries' result rfl rfl
    rfl

/- The ending of the transaction succeeds and calls nothing back. -/
theorem runOn_finish
    {statements : List Statement}
    (hAlike : p.AlikeInBothModes isolation statements w conn related)
    (completes : Bool)
    (log : List (Observation κ))
    {u v : ω}
    (hRelated : related u v) :
    ∃ v' k,
      (p.observed.finish conn
          (if completes then .commit else .rollback)).runOn
          (log, v) =
        (.ok (), (log ++ [.controlled conn k (.ok ())], v')) := by
  cases completes with
  | true =>
      refine ⟨((p.control conn .commit).runOn v).2, .commit, ?_⟩
      simp only [finish, commitOrRollBack, if_true,
        runOn_ofFunction, observed_control,
        hAlike.commits u v hRelated]
  | false =>
      refine ⟨((p.control conn .rollback).runOn v).2, .rollback, ?_⟩
      simp only [finish, Bool.false_eq_true, if_false,
        observed_control, hAlike.rolls_back u v hRelated]

/-
  The transaction ends as the batch without one, and tells the
  callbacks the same.
-/
theorem runTogether
    (hAlike :
      p.AlikeInBothModes isolation (steps.map (·.statement)) w conn
        related)
    (hBlind : ∀ step ∈ steps, step.IsBlindTo related) :
    ∃ log u,
      (p.observed.runTogether isolation
          (steps.map (BatchStep.observed κ))).runOn ([], w) =
        (((p.observed.runEach
            (steps.map (BatchStep.observed κ))).runOn ([], w)).1,
          (log, u)) ∧
      judgements log =
        judgements ((p.observed.runEach
          (steps.map (BatchStep.observed κ))).runOn ([], w)).2.1 := by
  rcases hAlike.begins with ⟨u, v, hOpen, hBegin, hStart⟩
  have hOpened :
      p.observed.openConnection.runOn ([], w) =
        (.ok conn, ([.opened (.ok conn)], u)) := by
    simp only [Provider.observed, runOn_noted, hOpen,
      List.nil_append]
  rcases hAlike.runSteps hBlind ([], w)
      ([.opened (.ok conn),
        .controlled conn (.begin isolation) (.ok ())], v)
      ⟨rfl, hStart⟩ with
    ⟨hResult, hTold, hRelated⟩
  rw [hResult, hTold, Provider.runTogether, runOn_transaction,
    hOpened]
  simp only [observed_control, hBegin, List.singleton_append]
  rcases hSteps : (EntitySql.runSteps (p.observed.execute conn) 0
      (steps.map (BatchStep.observed κ))).runOn
      ([.opened (.ok conn),
        .controlled conn (.begin isolation) (.ok ())], v) with
    ⟨e | outcome, log, v'⟩
  · refine ⟨_, _, rfl, ?_⟩
    simp [judgements, Observation.judgement?]
  · rw [hSteps] at hRelated
    rcases hAlike.runOn_finish outcome.isCompleted log hRelated with
      ⟨v'', k, hFinish⟩
    simp only [hFinish]
    refine ⟨_, _, rfl, ?_⟩
    simp [judgements, Observation.judgement?]

end AlikeInBothModes

/-
  On every run a batch runs the statements of its steps in
  order, and the callback of a step judges its answer before
  anything of the next step happens; the first error or veto
  stops both. Without a transaction every step that is reached
  has a connection of its own, and none is controlled; in a
  transaction they share one. If the statements answer the same
  in both modes, and no callback can tell the modes apart, then
  the callbacks are given the same answers and the batch ends
  the same.
-/
theorem runBatch_alike_in_both_modes
    (p : Provider ω κ)
    (isolation : Isolation)
    (steps : List (BatchStep ω))
    (w : ω) :
    ∃ (singles : List (SingleReport κ))
      (report : BatchReport κ)
      (apart together : Except SessionError BatchOutcome)
      (w₁ w₂ : ω),
      (p.runBatch steps none).runOn w = (apart, w₁) ∧
      (p.observed.runBatch (steps.map (BatchStep.observed κ))
          none).runOn ([], w) =
        (apart,
          (SingleReport.allObservations (steps.map (·.statement))
            singles, w₁)) ∧
      SingleReport.Describes singles (steps.map (·.statement))
        apart ∧
      (p.runBatch steps (some isolation)).runOn w =
        (together, w₂) ∧
      (p.observed.runBatch (steps.map (BatchStep.observed κ))
          (some isolation)).runOn ([], w) =
        (together,
          (report.observations isolation
            (steps.map (·.statement)), w₂)) ∧
      report.Describes isolation (steps.map (·.statement))
        together ∧
      ∀ conn related,
        p.AlikeInBothModes isolation (steps.map (·.statement)) w conn
          related →
        (∀ step ∈ steps, step.IsBlindTo related) →
          apart = together ∧
          judgements
              (SingleReport.allObservations
                (steps.map (·.statement)) singles) =
            judgements
              (report.observations isolation
                (steps.map (·.statement))) := by
  have hTransaction :=
    p.shows_transaction isolation BatchOutcome.isCompleted
      fun conn => p.shows_runSteps conn 0 steps
  rcases p.shows_runEach steps w with
    ⟨_, apart, w₁, hApart, hApart', singles, rfl, hSingles⟩
  rcases hTransaction w with
    ⟨_, together, w₂, hTogether, hTogether', hTransacts⟩
  rcases BatchReport.exists_of_transacts hTransacts with
    ⟨report, rfl, hReport⟩
  refine ⟨singles, report, apart, together, w₁, w₂, hApart,
    hApart' [], hSingles, hTogether, hTogether' [], hReport, ?_⟩
  intro conn related hAlike hBlind
  rcases hAlike.runTogether hBlind with ⟨log, u, hEnds, hTold⟩
  have hSame := (hTogether' []).symm.trans hEnds
  rw [hApart' []] at hSame hTold
  cases hSame
  exact ⟨rfl, hTold.symm⟩

end Provider

------------------------------------------------------------
-- Counting in both modes
------------------------------------------------------------

namespace Tally

/- A saved number, and the one that a transaction works on. -/
structure Numbers where
  saved : Nat
  working? : Option Nat

namespace Numbers

/- The number that a connection sees. -/
def current
    (n : Numbers) : Nat :=
  n.working?.getD n.saved

/- The numbers when one more is counted. -/
def next
    (n : Numbers) : Numbers :=
  match n.working? with
  | none => ⟨n.saved + 1, none⟩
  | some k => ⟨n.saved, some (k + 1)⟩

def after
    (n : Numbers) : Control → Numbers
  | .begin _ => ⟨n.saved, some n.saved⟩
  | .commit => ⟨n.current, none⟩
  | .rollback => ⟨n.saved, none⟩

/- A transaction works on the number that is saved without it. -/
def SharedBy
    (n n' : Numbers) : Prop :=
  n.working? = none ∧ n'.working? = some n.saved

theorem current_next
    {n n' : Numbers}
    (hShared : n.SharedBy n') :
    n.next.current = n'.next.current ∧ n.next.SharedBy n'.next := by
  rcases n with ⟨saved, working?⟩
  rcases n' with ⟨saved', working?'⟩
  rcases hShared with ⟨hNone, hSome⟩
  cases hNone
  cases hSome
  exact ⟨rfl, rfl, rfl⟩

end Numbers

/- A database whose scalar statements count. -/
def database : Provider Numbers Unit where
  openConnection := pure ()
  call _ c _ :=
    match c with
    | .scalar =>
        Action.ofFunction fun n =>
          (.ok (.int (Int64.ofNat n.next.current)), n.next)
    | .nonQuery => pure 0
    | .reader => pure []
  control _ k := Action.ofFunction fun n => (.ok (), n.after k)
  close _ n := n

theorem database_alike
    (isolation : Isolation)
    (statements : List Statement)
    (saved : Nat) :
    database.AlikeInBothModes isolation statements ⟨saved, none⟩ ()
      Numbers.SharedBy := by
  constructor
  case begins => exact ⟨_, _, rfl, rfl, rfl, rfl⟩
  case commits => exact fun _ _ _ => rfl
  case rolls_back => exact fun _ _ _ => rfl
  case answers =>
    rintro ⟨sql, params, kind⟩ _ n n' hShared
    rcases Numbers.current_next hShared with ⟨hCurrent, hNext⟩
    have hScalar :
        (Except.ok (.scalar (.int (Int64.ofNat n.next.current))) :
            Except SessionError StatementResult) =
          .ok (.scalar (.int (Int64.ofNat n'.next.current))) := by
      rw [hCurrent]
    cases kind with
    | insert => exact ⟨hScalar, hNext⟩
    | scalar => exact ⟨hScalar, hNext⟩
    | update => exact ⟨rfl, hShared⟩
    | delete => exact ⟨rfl, hShared⟩
    | select => exact ⟨rfl, hShared⟩
    | procedure => exact ⟨rfl, hShared⟩
    | multiResult => exact ⟨rfl, hShared⟩

/- A step whose callback counts its calls and vetoes the third. -/
def step : BatchStep Nat :=
  ⟨⟨"SELECT COUNT(*)", [], .scalar⟩,
    fun _ => Action.ofFunction fun calls =>
      (.ok (decide (calls < 2)), calls + 1)⟩

def batch : List (BatchStep (Nat × Numbers)) :=
  [step.beside Numbers, step.beside Numbers, step.beside Numbers,
    step.beside Numbers]

/- The third step is vetoed in both modes, but only one saves. -/
theorem third_step_vetoed_in_both_modes :
    ∃ w₁ w₂,
      ((database.beside Nat).runBatch batch none).runOn
          (0, ⟨0, none⟩) =
        (.ok (.vetoed 2), w₁) ∧
      ((database.beside Nat).runBatch batch
          (some .serializable)).runOn (0, ⟨0, none⟩) =
        (.ok (.vetoed 2), w₂) ∧
      w₁.2.saved = 3 ∧ w₂.2.saved = 0 := by
  rcases (database.beside Nat).runBatch_alike_in_both_modes
      .serializable batch (0, ⟨0, none⟩) with
    ⟨singles, report, apart, together, w₁, w₂, hApart, _, _,
      hTogether, _, _, hModes⟩
  have hBlind :
      ∀ s ∈ batch, s.IsBlindTo (SameBeside Nat Numbers.SharedBy) := by
    simp [batch, BatchStep.beside_isBlindTo]
  have hSame :=
    (hModes () _ ((database_alike _ _ 0).beside 0) hBlind).1
  have hVetoed :
      ((database.beside Nat).runBatch batch none).runOn
          (0, ⟨0, none⟩) =
        (.ok (.vetoed 2), (3, ⟨3, none⟩)) :=
    rfl
  have hSaved :
      (((database.beside Nat).runBatch batch
          (some .serializable)).runOn (0, ⟨0, none⟩)).2.2.saved =
        0 :=
    rfl
  rw [hApart] at hVetoed
  rw [hTogether] at hSaved
  cases hVetoed
  subst hSame
  exact ⟨_, w₂, hApart, hTogether, rfl, hSaved⟩

end Tally

end EntitySql
