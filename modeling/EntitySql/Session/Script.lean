import EntitySql.Schema.Registry
import EntitySql.Session.Provider

/-
  This file defines scripts: programs that call statements and
  use entity types, written without a connection.

  Key definitions include:
    * `Script`
    * `Operation`
    * `Script.run`

  A script sees the answer of every call and may go on after
  an error. What it cannot do is control the transaction or
  the connection that it runs on.
-/

namespace EntitySql

------------------------------------------------------------
-- Scripts
------------------------------------------------------------

/- A program whose only effects are uses and calls. -/
inductive Script (α : Type) : Type where
  | done (a : α)
  | use (e : EntityType) (next : Script α)
  | call (c : Convention) (s : Statement)
      (next : Except SessionError c.Answer → Script α)

namespace Script

variable {α β : Type}

/- Go on with another script. -/
def bind
    (script : Script α)
    (next : α → Script β) : Script β :=
  match script with
  | .done a => next a
  | .use e rest => .use e (bind rest next)
  | .call c s rest => .call c s fun answer => bind (rest answer) next

instance : Monad Script where
  pure := .done
  bind := bind

/-
  Run a script on a connection. The registry notes the entity
  types in the order of their use.
-/
def run
    {ω κ : Type}
    (p : Provider ω κ)
    (conn : κ) : Script α → Registry → ω → α × Registry × ω
  | .done a, registry, w => (a, registry, w)
  | .use e next, registry, w => run p conn next (registry.use e) w
  | .call c s next, registry, w =>
      let (answer, w) := (p.call conn c s).runOn w
      run p conn (next answer) registry w

/- Run a script on a connection as an action, which never fails. -/
def runOn
    {ω κ : Type}
    (script : Script α)
    (p : Provider ω κ)
    (conn : κ) : Action (Registry × ω) α :=
  Action.ofFunction fun (registry, w) =>
    let (a, registry, w) := script.run p conn registry w
    (.ok a, (registry, w))

end Script

------------------------------------------------------------
-- Operations
------------------------------------------------------------

/- A script that may fail. -/
abbrev Operation (α : Type) :=
  ExceptT SessionError Script α

namespace Operation

variable {α : Type}

/- Note the use of an entity type. -/
def use
    (e : EntityType) : Operation Unit :=
  ExceptT.mk (.use e (.done (.ok ())))

/- Note the use of several entity types. -/
def useAll : List EntityType → Operation Unit
  | [] => pure ()
  | e :: es => do
      use e
      useAll es

/- Call a statement in one of the three ways. -/
def call
    (c : Convention)
    (s : Statement) : Operation c.Answer :=
  ExceptT.mk (.call c s .done)

/- Run a statement in the way its kind is called. -/
def execute
    (s : Statement) : Operation StatementResult := do
  let answer ← call s.kind.convention s
  pure (StatementResult.ofAnswer s.kind.convention answer)

/- Fail with an error of the mapping. -/
def ofMapping
    (result : Except MappingError α) : Operation α :=
  match result with
  | .ok a => pure a
  | .error e => throw (.mapping e)

/-
  Run operations in order, with how each of them ended. The
  first that fails is the last to run, unless none stops.
-/
def runAll
    (stop : Bool) :
    List (Operation α) → Script (List (Except SessionError α))
  | [] => pure []
  | operation :: rest => do
      match ← ExceptT.run operation with
      | .ok a => do
          let results ← runAll stop rest
          pure (.ok a :: results)
      | .error e =>
          if stop then pure [.error e]
          else do
            let results ← runAll stop rest
            pure (.error e :: results)

/- Run an operation on a connection. -/
def runOn
    {ω κ : Type}
    (operation : Operation α)
    (p : Provider ω κ)
    (conn : κ) : Action (Registry × ω) α :=
  Action.ofFunction fun (registry, w) =>
    (ExceptT.run operation).run p conn registry w

end Operation

end EntitySql
