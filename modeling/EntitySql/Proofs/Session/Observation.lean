import EntitySql.Session.Batch

/-
  What can be seen of a provider at work. A journal holds the
  requests; an observation also holds how a request ended, and
  on which connection it was made.

  Key definitions include:
    * `Observation`
    * `Provider.observed`, `BatchStep.observed`
    * `Action.Shows`

  Key theorems include:
    * `Action.Shows.bind`
    * `Provider.shows_withConnection`

  Observing changes nothing: an action and its observed copy
  end alike in the same world, and only the observations are
  longer afterwards.
-/

namespace EntitySql

------------------------------------------------------------
-- Observations
------------------------------------------------------------

/- A request and how it ended, or the verdict of a callback. -/
inductive Observation (κ : Type) where
  | opened (result : Except SessionError κ)
  | controlled (conn : κ) (k : Control)
      (result : Except SessionError Unit)
  | called (conn : κ) (c : Convention) (s : Statement)
      (answer : Except SessionError StatementResult)
  | judged (answer : StatementResult)
      (verdict : Except SessionError Bool)
  | closed (conn : κ)

/- The error of a result, if it is one. -/
def failure?
    {α : Type} : Except SessionError α → Option SessionError
  | .error e => some e
  | .ok _ => none

/- The error of something that failed. -/
def Observation.failure?
    {κ : Type} : Observation κ → Option SessionError
  | .opened result => EntitySql.failure? result
  | .controlled _ _ result => EntitySql.failure? result
  | .called _ _ _ answer => EntitySql.failure? answer
  | .judged _ verdict => EntitySql.failure? verdict
  | .closed _ => none

/- The same action, which also notes how it ended. -/
def Action.noted
    {ω κ α : Type}
    (note : Except SessionError α → Observation κ)
    (action : Action ω α) : Action (List (Observation κ) × ω) α :=
  Action.ofFunction fun (log, w) =>
    let (result, w) := action.runOn w
    (result, (log ++ [note result], w))

/- The same provider, whose work is observed. -/
def Provider.observed
    {ω κ : Type}
    (p : Provider ω κ) :
    Provider (List (Observation κ) × ω) κ where
  openConnection := p.openConnection.noted .opened
  call conn c s :=
    (p.call conn c s).noted fun answer =>
      .called conn c s (answer.map (StatementResult.ofAnswer c))
  control conn k := (p.control conn k).noted (.controlled conn k)
  close conn := fun (log, w) =>
    (log ++ [.closed conn], p.close conn w)

/- The same step, whose callback is observed. -/
def BatchStep.observed
    {ω : Type}
    (κ : Type)
    (step : BatchStep ω) : BatchStep (List (Observation κ) × ω) :=
  ⟨step.statement,
    fun answer => (step.onResult answer).noted (.judged answer)⟩

------------------------------------------------------------
-- Running actions
------------------------------------------------------------

namespace Action

variable {ω κ α β : Type}

@[simp] theorem runOn_ofFunction
    (f : ω → Except SessionError α × ω)
    (w : ω) :
    (ofFunction f).runOn w = f w := rfl

@[simp] theorem runOn_pure
    (a : α)
    (w : ω) :
    (pure a : Action ω α).runOn w = (.ok a, w) := rfl

@[simp] theorem runOn_throw
    (e : SessionError)
    (w : ω) :
    (throw e : Action ω α).runOn w = (.error e, w) := rfl

theorem runOn_bind
    (action : Action ω α)
    (next : α → Action ω β)
    (w : ω) :
    (action >>= next).runOn w =
      (match action.runOn w with
        | (.ok a, w') => (next a).runOn w'
        | (.error e, w') => (.error e, w')) := by
  change (ExceptT.bind action next) w = _
  simp only [ExceptT.bind, ExceptT.mk, ExceptT.bindCont, runOn,
    bind, StateT.bind, ExceptT.run, StateT.run]
  rcases action w with ⟨result, w'⟩
  cases result <;> rfl

/- A sequence ends well if its first part does and the rest. -/
theorem runOn_bind_eq_ok_iff
    {action : Action ω α}
    {next : α → Action ω β}
    {w w' : ω}
    {b : β} :
    (action >>= next).runOn w = (.ok b, w') ↔
      ∃ a between, action.runOn w = (.ok a, between) ∧
        (next a).runOn between = (.ok b, w') := by
  rw [runOn_bind]
  rcases action.runOn w with ⟨cause | a, between⟩
  · constructor
    · nofun
    · rintro ⟨_, _, hFirst, _⟩
      cases hFirst
  · constructor
    · exact fun hNext => ⟨a, between, rfl, hNext⟩
    · rintro ⟨_, _, hFirst, hNext⟩
      cases hFirst
      exact hNext

theorem runOn_onSecond
    {σ : Type}
    (action : Action ω α)
    (s : σ)
    (w : ω) :
    (Provider.onSecond action).runOn (s, w) =
      ((action.runOn w).1, (s, (action.runOn w).2)) :=
  rfl

/- An action is how it runs. -/
theorem ext_runOn
    {first second : Action ω α}
    (hRuns : ∀ w, first.runOn w = second.runOn w) :
    first = second :=
  funext hRuns

theorem runOn_noted
    (note : Except SessionError α → Observation κ)
    (action : Action ω α)
    (log : List (Observation κ))
    (w : ω) :
    (action.noted note).runOn (log, w) =
      ((action.runOn w).1,
        (log ++ [note (action.runOn w).1], (action.runOn w).2)) :=
  rfl

------------------------------------------------------------
-- What actions show
------------------------------------------------------------

/-
  An action and its observed copy end alike in the same world,
  and the new observations and the result are as a predicate
  says, on every run.
-/
def Shows
    (plain : Action ω α)
    (observed : Action (List (Observation κ) × ω) α)
    (sees :
      List (Observation κ) → Except SessionError α → Prop) : Prop :=
  ∀ w, ∃ entries result w',
    plain.runOn w = (result, w') ∧
    (∀ log,
      observed.runOn (log, w) = (result, (log ++ entries, w'))) ∧
    sees entries result

/- What is seen of two actions when the second needs the first. -/
inductive Then
    (sees : List (Observation κ) → Except SessionError α → Prop)
    (seesNext :
      α → List (Observation κ) → Except SessionError β → Prop) :
    List (Observation κ) → Except SessionError β → Prop where
  | failed {entries e} (first : sees entries (.error e)) :
      Then sees seesNext entries (.error e)
  | followed {a entries entries' result}
      (first : sees entries (.ok a))
      (next : seesNext a entries' result) :
      Then sees seesNext (entries ++ entries') result

namespace Shows

theorem mono
    {plain : Action ω α}
    {observed : Action (List (Observation κ) × ω) α}
    {sees sees' :
      List (Observation κ) → Except SessionError α → Prop}
    (hShows : Shows plain observed sees)
    (hSees : ∀ {entries result},
      sees entries result → sees' entries result) :
    Shows plain observed sees' := by
  intro w
  rcases hShows w with
    ⟨entries, result, w', hPlain, hObserved, hEntries⟩
  exact ⟨entries, result, w', hPlain, hObserved, hSees hEntries⟩

theorem pure
    (a : α) :
    Shows (κ := κ) (pure a : Action ω α) (pure a)
      fun entries result => entries = [] ∧ result = .ok a := by
  intro w
  exact ⟨[], .ok a, w, rfl, fun log => by simp, rfl, rfl⟩

theorem throw
    (e : SessionError) :
    Shows (κ := κ) (throw e : Action ω α) (throw e)
      fun entries result => entries = [] ∧ result = .error e := by
  intro w
  exact ⟨[], .error e, w, rfl, fun log => by simp, rfl, rfl⟩

theorem noted
    (note : Except SessionError α → Observation κ)
    (action : Action ω α) :
    Shows action (action.noted note)
      fun entries result => entries = [note result] := by
  intro w
  exact ⟨_, _, _, rfl, fun log => runOn_noted note action log w,
    rfl⟩

theorem bind
    {plain : Action ω α}
    {observed : Action (List (Observation κ) × ω) α}
    {sees : List (Observation κ) → Except SessionError α → Prop}
    {next : α → Action ω β}
    {next' : α → Action (List (Observation κ) × ω) β}
    {seesNext :
      α → List (Observation κ) → Except SessionError β → Prop}
    (hFirst : Shows plain observed sees)
    (hNext : ∀ a, Shows (next a) (next' a) (seesNext a)) :
    Shows (plain >>= next) (observed >>= next')
      (Then sees seesNext) := by
  intro w
  rcases hFirst w with
    ⟨entries, result, w', hPlain, hObserved, hEntries⟩
  cases result with
  | error e =>
      refine ⟨entries, .error e, w', ?_, ?_, .failed hEntries⟩
      · rw [runOn_bind, hPlain]
      · intro log
        rw [runOn_bind, hObserved]
  | ok a =>
      rcases hNext a w' with
        ⟨entries', result', w'', hPlain', hObserved', hEntries'⟩
      refine ⟨entries ++ entries', result', w'', ?_, ?_,
        .followed hEntries hEntries'⟩
      · rw [runOn_bind, hPlain]
        exact hPlain'
      · intro log
        rw [runOn_bind, hObserved, ← List.append_assoc]
        exact hObserved' (log ++ entries)

end Shows

end Action

------------------------------------------------------------
-- What providers show
------------------------------------------------------------

namespace Provider

variable {ω κ α : Type}

open EntitySql.Action

/- A connection of its own is opened first and closed last. -/
inductive Connected
    (sees :
      κ → List (Observation κ) → Except SessionError α → Prop) :
    List (Observation κ) → Except SessionError α → Prop where
  | openFails (e) : Connected sees [.opened (.error e)] (.error e)
  | worked {conn entries result}
      (work : sees conn entries result) :
      Connected sees
        (.opened (.ok conn) :: entries ++ [.closed conn]) result

theorem shows_withConnection
    (p : Provider ω κ)
    {body : κ → Action ω α}
    {body' : κ → Action (List (Observation κ) × ω) α}
    {sees :
      κ → List (Observation κ) → Except SessionError α → Prop}
    (hBody : ∀ conn, Shows (body conn) (body' conn) (sees conn)) :
    Shows (p.withConnection body) (p.observed.withConnection body')
      (Connected sees) := by
  intro w
  rcases hOpen : p.openConnection.runOn w with ⟨opening, w'⟩
  have hOpen' : ∀ log,
      p.observed.openConnection.runOn (log, w) =
        (opening, (log ++ [.opened opening], w')) := by
    intro log
    simp only [Provider.observed, runOn_noted, hOpen]
  cases opening with
  | error e =>
      refine ⟨_, .error e, w', ?_, ?_, .openFails e⟩
      · simp only [withConnection, runOn_ofFunction, hOpen]
      · intro log
        simp only [withConnection, runOn_ofFunction, hOpen']
  | ok conn =>
      rcases hBody conn w' with
        ⟨entries, result, w'', hPlain, hObserved, hEntries⟩
      refine ⟨_, result, p.close conn w'', ?_, ?_,
        .worked hEntries⟩
      · simp only [withConnection, runOn_ofFunction, hOpen, hPlain]
      · intro log
        simp only [withConnection, runOn_ofFunction, hOpen',
          hObserved]
        simp [Provider.observed]

/- A statement is one call, made in the way of its kind. -/
theorem shows_execute
    (p : Provider ω κ)
    (conn : κ)
    (s : Statement) :
    Shows (p.execute conn s) (p.observed.execute conn s)
      fun entries result =>
        entries = [.called conn s.kind.convention s result] := by
  have hCall :=
    Shows.noted
      (fun answer =>
        Observation.called conn s.kind.convention s
          (answer.map (StatementResult.ofAnswer s.kind.convention)))
      (p.call conn s.kind.convention s)
  refine (hCall.bind fun _ => Shows.pure _).mono ?_
  intro entries result hThen
  cases hThen with
  | failed hFirst => exact hFirst
  | followed hFirst hNext =>
      rcases hNext with ⟨rfl, rfl⟩
      simp [hFirst, Except.map]

end Provider

end EntitySql
