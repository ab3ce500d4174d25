import EntitySql.Proofs.Session.Observation

/-
  The course of a transaction: what is asked of a connection
  and in which order, for every way in which the requests and
  the work in between can fail.

  Key definitions include:
    * `Provider.Ends`
    * `Provider.Encloses`

  Key theorems include:
    * `Provider.shows_inTransaction`
    * `Provider.shows_transaction`
-/

namespace EntitySql

namespace Provider

open EntitySql.Action

variable {ω κ α : Type}

------------------------------------------------------------
-- Endings
------------------------------------------------------------

/-
  The requests that end a transaction. Whether the rollback of
  a failed commit or of an abandoned transaction succeeds makes
  no difference.
-/
inductive Ends
    (conn : κ) :
    Ending → List (Observation κ) → Except SessionError Unit →
      Prop where
  | committed :
      Ends conn .commit [.controlled conn .commit (.ok ())] (.ok ())
  | commitFails (e rolledBack) :
      Ends conn .commit
        [.controlled conn .commit (.error e),
          .controlled conn .rollback rolledBack]
        (.error e)
  | rolledBack (result) :
      Ends conn .rollback
        [.controlled conn .rollback result] result
  | abandoned (rolledBack) :
      Ends conn .abandon
        [.controlled conn .rollback rolledBack] (.ok ())

/- A control of the observed provider is noted once. -/
theorem observed_control
    (p : Provider ω κ)
    (conn : κ)
    (k : Control)
    (log : List (Observation κ))
    (w : ω) :
    (p.observed.control conn k).runOn (log, w) =
      (((p.control conn k).runOn w).1,
        (log ++ [.controlled conn k ((p.control conn k).runOn w).1],
          ((p.control conn k).runOn w).2)) :=
  rfl

theorem observed_rollBackQuietly
    (p : Provider ω κ)
    (conn : κ)
    (log : List (Observation κ))
    (w : ω) :
    p.observed.rollBackQuietly conn (log, w) =
      (log ++ [.controlled conn .rollback
          ((p.control conn .rollback).runOn w).1],
        p.rollBackQuietly conn w) :=
  rfl

theorem shows_finish
    (p : Provider ω κ)
    (conn : κ)
    (ending : Ending) :
    Shows (p.finish conn ending) (p.observed.finish conn ending)
      (Ends conn ending) := by
  intro w
  cases ending with
  | commit =>
      rcases hCommit : (p.control conn .commit).runOn w with
        ⟨result, w'⟩
      cases result with
      | ok =>
          refine ⟨_, .ok (), w', ?_, ?_, .committed⟩
          · simp only [finish, commitOrRollBack, runOn_ofFunction,
              hCommit]
          · intro log
            simp only [finish, commitOrRollBack, runOn_ofFunction,
              observed_control, hCommit]
      | error e =>
          refine ⟨_, .error e, p.rollBackQuietly conn w', ?_, ?_,
            .commitFails e ((p.control conn .rollback).runOn w').1⟩
          · simp only [finish, commitOrRollBack, runOn_ofFunction,
              hCommit]
          · intro log
            simp only [finish, commitOrRollBack, runOn_ofFunction,
              observed_control, hCommit, observed_rollBackQuietly,
              List.append_assoc, List.singleton_append]
  | rollback =>
      exact ⟨_, _, _, rfl, fun log => observed_control ..,
        .rolledBack _⟩
  | abandon =>
      exact ⟨_, .ok (), _, rfl,
        fun log => by
          simp only [finish, runOn_ofFunction,
            observed_rollBackQuietly],
        .abandoned ((p.control conn .rollback).runOn w).1⟩

------------------------------------------------------------
-- Transactions on a connection
------------------------------------------------------------

/-
  Work enclosed in a transaction. Nothing follows a beginning
  that fails, and work that fails is rolled back.
-/
inductive Encloses
    (conn : κ)
    (isolation : Isolation)
    (ending : α → Ending)
    (sees : List (Observation κ) → Except SessionError α → Prop) :
    List (Observation κ) →
      Except SessionError (α × Except SessionError Unit) →
        Prop where
  | beginFails (e) :
      Encloses conn isolation ending sees
        [.controlled conn (.begin isolation) (.error e)] (.error e)
  | workFails {entries e} (rolledBack)
      (work : sees entries (.error e)) :
      Encloses conn isolation ending sees
        (.controlled conn (.begin isolation) (.ok ()) :: entries ++
          [.controlled conn .rollback rolledBack])
        (.error e)
  | ended {entries a entries' result}
      (work : sees entries (.ok a))
      (ends : Ends conn (ending a) entries' result) :
      Encloses conn isolation ending sees
        (.controlled conn (.begin isolation) (.ok ()) :: entries ++
          entries')
        (.ok (a, result))

theorem shows_inTransaction
    (p : Provider ω κ)
    (isolation : Isolation)
    (ending : α → Ending)
    {body : κ → Action ω α}
    {body' : κ → Action (List (Observation κ) × ω) α}
    {sees : List (Observation κ) → Except SessionError α → Prop}
    (conn : κ)
    (hBody : Shows (body conn) (body' conn) sees) :
    Shows (p.inTransaction isolation ending body conn)
      (p.observed.inTransaction isolation ending body' conn)
      (Encloses conn isolation ending sees) := by
  intro w
  rcases hBegin : (p.control conn (.begin isolation)).runOn w with
    ⟨begun, w'⟩
  cases begun with
  | error e =>
      refine ⟨_, .error e, w', ?_, ?_, .beginFails e⟩
      · simp only [inTransaction, runOn_bind, hBegin]
      · intro log
        simp only [inTransaction, runOn_bind, observed_control,
          hBegin]
  | ok =>
      rcases hBody w' with
        ⟨entries, result, w'', hPlain, hObserved, hEntries⟩
      cases result with
      | error e =>
          refine ⟨_, .error e, p.rollBackQuietly conn w'', ?_, ?_,
            .workFails ((p.control conn .rollback).runOn w'').1
              hEntries⟩
          · simp only [inTransaction, runOn_bind, hBegin,
              runOn_ofFunction, hPlain]
          · intro log
            simp only [inTransaction, runOn_bind, observed_control,
              hBegin, runOn_ofFunction, hObserved,
              observed_rollBackQuietly, List.append_assoc,
              List.cons_append, List.nil_append]
      | ok a =>
          rcases p.shows_finish conn (ending a) w'' with
            ⟨entries', ended, w''', hFinish, hFinish', hEnds⟩
          refine ⟨_, .ok (a, ended), w''', ?_, ?_,
            .ended hEntries hEnds⟩
          · simp only [inTransaction, runOn_bind, hBegin,
              runOn_ofFunction, hPlain, hFinish]
          · intro log
            simp only [inTransaction, runOn_bind, observed_control,
              hBegin, runOn_ofFunction, hObserved, hFinish',
              List.append_assoc, List.cons_append, List.nil_append]

------------------------------------------------------------
-- Transactions of their own
------------------------------------------------------------

/- The result of a transaction whose ending went in some way. -/
def ended
    (a : α) : Except SessionError Unit → Except SessionError α
  | .ok () => .ok a
  | .error e => .error e

/- What a transaction on a connection of its own shows. -/
inductive Transacts
    (isolation : Isolation)
    (keep : α → Bool)
    (sees :
      κ → List (Observation κ) → Except SessionError α → Prop) :
    List (Observation κ) → Except SessionError α → Prop where
  | openFails (e) :
      Transacts isolation keep sees [.opened (.error e)] (.error e)
  | beginFails (conn e) :
      Transacts isolation keep sees
        [.opened (.ok conn),
          .controlled conn (.begin isolation) (.error e),
          .closed conn]
        (.error e)
  | workFails {conn entries e} (rolledBack)
      (work : sees conn entries (.error e)) :
      Transacts isolation keep sees
        ([.opened (.ok conn),
          .controlled conn (.begin isolation) (.ok ())] ++ entries ++
          [.controlled conn .rollback rolledBack, .closed conn])
        (.error e)
  | ends {conn entries a entries' result}
      (work : sees conn entries (.ok a))
      (ends :
        Ends conn (if keep a then .commit else .rollback)
          entries' result) :
      Transacts isolation keep sees
        ([.opened (.ok conn),
          .controlled conn (.begin isolation) (.ok ())] ++ entries ++
          entries' ++ [.closed conn])
        (ended a result)

theorem shows_transaction
    (p : Provider ω κ)
    (isolation : Isolation)
    (keep : α → Bool)
    {body : κ → Action ω α}
    {body' : κ → Action (List (Observation κ) × ω) α}
    {sees :
      κ → List (Observation κ) → Except SessionError α → Prop}
    (hBody : ∀ conn, Shows (body conn) (body' conn) (sees conn)) :
    Shows (p.transaction isolation keep body)
      (p.observed.transaction isolation keep body')
      (Transacts isolation keep sees) := by
  have hInside :=
    p.shows_withConnection fun conn =>
      p.shows_inTransaction isolation
        (fun a => if keep a then Ending.commit else .rollback)
        conn (hBody conn)
  have hEnd (answer : α × Except SessionError Unit) :
      Shows (κ := κ)
        (match answer.2 with
          | .ok () => pure answer.1
          | .error e => throw e : Action ω α)
        (match answer.2 with
          | .ok () => pure answer.1
          | .error e => throw e)
        fun entries result =>
          entries = [] ∧ result = ended answer.1 answer.2 := by
    rcases answer with ⟨a, (e | _)⟩
    · exact Shows.throw e
    · exact Shows.pure a
  refine (hInside.bind hEnd).mono ?_
  intro entries result hThen
  cases hThen with
  | failed hConnected =>
      cases hConnected with
      | openFails => exact .openFails _
      | worked hEnclosed =>
          cases hEnclosed with
          | beginFails => exact .beginFails _ _
          | workFails rolledBack hWork =>
              simpa using Transacts.workFails rolledBack hWork
  | followed hConnected hNext =>
      rcases hNext with ⟨rfl, rfl⟩
      cases hConnected with
      | worked hEnclosed =>
          cases hEnclosed with
          | ended hWork hEnds =>
              simpa using Transacts.ends hWork hEnds

end Provider

end EntitySql
