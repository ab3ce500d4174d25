import EntitySql.Session.Batch
import EntitySql.Session.Mapper

/-
  This file defines sessions: typed access to one database
  under one configuration.

  Key definitions include:
    * `Session`
    * `Session.perform`
    * `Session.transaction`
    * `Session.transactionDefault`
-/

namespace EntitySql

/- A configuration and the entity types used so far. -/
structure Session where
  config : Config
  registry : Registry
  deriving DecidableEq, Repr

namespace Session

/- A session whose tables are named as configured. -/
def ofConfig
    (config : Config) : Session :=
  ⟨config, Registry.ofNaming config.naming⟩

/-
  A session over an existing registry, whose naming counts
  instead of the configured one.
-/
def withRegistry
    (config : Config)
    (registry : Registry) : Session :=
  ⟨config, registry⟩

def mapper
    (s : Session) : Mapper :=
  ⟨s.registry.naming, s.config.dialect⟩

variable {ω κ γ α : Type}

/- Perform an operation on a connection of its own. -/
def perform
    (p : Provider ω κ)
    (operation : Operation α) : Action (Registry × ω) α :=
  (p.beside Registry).withConnection fun conn =>
    operation.runOn p conn

/-
  Run a script on a connection and keep what it leaves behind
  in front of the world.
-/
def runReporting
    (p : Provider ω κ)
    (script : Script (γ × Except SessionError α))
    (conn : κ) : Action (Option γ × Registry × ω) α :=
  Action.ofFunction fun (_, registry, w) =>
    let ((report, result), registry, w) :=
      script.run p conn registry w
    (result, (some report, registry, w))

/-
  Run a script in a transaction, which is committed iff the
  script ends well. What the script leaves behind is there
  even if it fails, and is missing only if it never ran.
-/
def transaction
    (p : Provider ω κ)
    (isolation : Isolation)
    (script : Script (γ × Except SessionError α)) :
    Action (Option γ × Registry × ω) α :=
  ((p.beside Registry).beside (Option γ)).transaction isolation
    (fun _ => true) (runReporting p script)

/- The same with the configured isolation. -/
def transactionDefault
    (s : Session)
    (p : Provider ω κ)
    (script : Script (γ × Except SessionError α)) :
    Action (Option γ × Registry × ω) α :=
  transaction p s.config.isolation script

end Session

end EntitySql
