import EntitySql.Result.ResultSet
import EntitySql.Session.Config
import EntitySql.Statement.Basic

/-
  This file defines the boundary to a database: a provider
  opens connections, and a connection runs statements and
  controls one transaction.

  Key definitions include:
    * `Action`
    * `Convention.Answer`, `StatementResult`
    * `Control`, `Provider`
    * `Provider.execute`
    * `Provider.withConnection`
    * `Ending`, `Provider.finish`
    * `Provider.transaction`, `Provider.guarded`

  The world `ω` is everything a provider acts on, and `κ` is
  the type of its connections. A failed action may still have
  changed the world.
-/

namespace EntitySql

------------------------------------------------------------
-- Actions
------------------------------------------------------------

/- An action on a world that may fail. -/
abbrev Action (ω α : Type) :=
  ExceptT SessionError (StateM ω) α

namespace Action

variable {ω α : Type}

/- The action that a function on the world describes. -/
def ofFunction
    (f : ω → Except SessionError α × ω) : Action ω α :=
  ExceptT.mk f

/- Run an action: how it ends, and the world after it. -/
def runOn
    (action : Action ω α)
    (w : ω) : Except SessionError α × ω :=
  (ExceptT.run action).run w

/- The action that goes on with how another one ends. -/
def attempt
    (action : Action ω α) : Action ω (Except SessionError α) :=
  ofFunction fun w =>
    let (result, w) := action.runOn w
    (.ok result, w)

end Action

------------------------------------------------------------
-- Answers
------------------------------------------------------------

/- What a statement answers when it is called in some way. -/
abbrev Convention.Answer : Convention → Type
  | .scalar => Value
  | .nonQuery => Nat
  | .reader => List ResultSet

/- The answer of a statement. -/
inductive StatementResult where
  | scalar (v : Value)
  | affected (rows : Nat)
  | rows (sets : List ResultSet)
  deriving DecidableEq, Repr

namespace StatementResult

def ofAnswer : (c : Convention) → c.Answer → StatementResult
  | .scalar, v => .scalar v
  | .nonQuery, n => .affected n
  | .reader, sets => .rows sets

def scalar? : StatementResult → Option Value
  | .scalar v => some v
  | _ => none

def affected? : StatementResult → Option Nat
  | .affected n => some n
  | _ => none

def rows? : StatementResult → Option (List ResultSet)
  | .rows sets => some sets
  | _ => none

end StatementResult

------------------------------------------------------------
-- Providers
------------------------------------------------------------

/- The control of a transaction. -/
inductive Control where
  | begin (isolation : Isolation)
  | commit
  | rollback
  deriving DecidableEq, Repr

/- A database, as far as it can be reached. -/
structure Provider (ω κ : Type) where
  openConnection : Action ω κ
  call : κ → (c : Convention) → Statement → Action ω c.Answer
  control : κ → Control → Action ω Unit
  close : κ → ω → ω

namespace Provider

variable {ω κ α : Type}

/- Run a statement in the way its kind is called. -/
def execute
    (p : Provider ω κ)
    (conn : κ)
    (s : Statement) : Action ω StatementResult := do
  let answer ← p.call conn s.kind.convention s
  pure (StatementResult.ofAnswer s.kind.convention answer)

/-
  Open a connection, work on it, and close it however the work
  ends.
-/
def withConnection
    (p : Provider ω κ)
    (body : κ → Action ω α) : Action ω α :=
  Action.ofFunction fun w =>
    match p.openConnection.runOn w with
    | (.error e, w) => (.error e, w)
    | (.ok conn, w) =>
        let (result, w) := (body conn).runOn w
        (result, p.close conn w)

------------------------------------------------------------
-- Transactions
------------------------------------------------------------

/- Roll back, whether or not that succeeds. -/
def rollBackQuietly
    (p : Provider ω κ)
    (conn : κ)
    (w : ω) : ω :=
  ((p.control conn .rollback).runOn w).2

/- Commit; a transaction that cannot commit is rolled back. -/
def commitOrRollBack
    (p : Provider ω κ)
    (conn : κ) : Action ω Unit :=
  Action.ofFunction fun w =>
    match (p.control conn .commit).runOn w with
    | (.ok (), w) => (.ok (), w)
    | (.error e, w) => (.error e, p.rollBackQuietly conn w)

/- The ways to end a transaction. -/
inductive Ending where
  | commit
  | rollback
  | abandon
  deriving DecidableEq, Repr

/-
  End a transaction. One that is abandoned is rolled back, and
  nobody is told whether that succeeds.
-/
def finish
    (p : Provider ω κ)
    (conn : κ) : Ending → Action ω Unit
  | .commit => p.commitOrRollBack conn
  | .rollback => p.control conn .rollback
  | .abandon =>
      Action.ofFunction fun w => (.ok (), p.rollBackQuietly conn w)

/-
  Work inside a transaction on a connection. The result of the
  work says how to end it; after an error the transaction is
  abandoned. The answer is the result of the work and how the
  ending went.
-/
def inTransaction
    (p : Provider ω κ)
    (isolation : Isolation)
    (ending : α → Ending)
    (body : κ → Action ω α)
    (conn : κ) : Action ω (α × Except SessionError Unit) := do
  p.control conn (.begin isolation)
  Action.ofFunction fun w =>
    match (body conn).runOn w with
    | (.error e, w) => (.error e, p.rollBackQuietly conn w)
    | (.ok a, w) =>
        let (ended, w) := (p.finish conn (ending a)).runOn w
        (.ok (a, ended), w)

/-
  Work inside a transaction on a connection of its own, which
  is ended in a given way.
-/
def guarded
    (p : Provider ω κ)
    (isolation : Isolation)
    (ending : Ending)
    (body : κ → Action ω α) :
    Action ω (α × Except SessionError Unit) :=
  p.withConnection (p.inTransaction isolation (fun _ => ending) body)

/-
  Work inside a transaction on a connection of its own. A
  result worth keeping is committed, any other one is rolled
  back, and an ending that fails is the failure of the whole.
-/
def transaction
    (p : Provider ω κ)
    (isolation : Isolation)
    (keep : α → Bool)
    (body : κ → Action ω α) : Action ω α := do
  let ending a := if keep a then Ending.commit else .rollback
  let (a, ended) ←
    p.withConnection (p.inTransaction isolation ending body)
  match ended with
  | .ok () => pure a
  | .error e => throw e

------------------------------------------------------------
-- Larger worlds
------------------------------------------------------------

/- An action on one part of a world. -/
def onSecond
    {σ : Type}
    (action : Action ω α) : Action (σ × ω) α :=
  Action.ofFunction fun (s, w) =>
    let (result, w) := action.runOn w
    (result, (s, w))

/- The provider in a world that holds something else as well. -/
def beside
    (σ : Type)
    (p : Provider ω κ) : Provider (σ × ω) κ where
  openConnection := onSecond p.openConnection
  call conn c s := onSecond (p.call conn c s)
  control conn k := onSecond (p.control conn k)
  close conn := fun (s, w) => (s, p.close conn w)

end Provider

end EntitySql
