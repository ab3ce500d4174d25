import EntitySql.Session.Provider

/-
  This file defines the journal of a provider: everything it
  is asked to do, in order.

  Key definitions include:
    * `Event`
    * `Provider.journaled`

  A request is noted before the provider answers it, so the
  journal also holds the requests that fail.
-/

namespace EntitySql

/- A request to a provider or to one of its connections. -/
inductive Event where
  | opened
  | called (c : Convention) (s : Statement)
  | controlled (k : Control)
  | closed
  deriving DecidableEq, Repr

/- An action that is noted before it is run. -/
def Event.before
    {ω α : Type}
    (event : Event)
    (action : Action ω α) : Action (List Event × ω) α :=
  Action.ofFunction fun (journal, w) =>
    let (result, w) := action.runOn w
    (result, (journal ++ [event], w))

/- The same provider, which also keeps a journal. -/
def Provider.journaled
    {ω κ : Type}
    (p : Provider ω κ) : Provider (List Event × ω) κ where
  openConnection := Event.opened.before p.openConnection
  call conn c s := (Event.called c s).before (p.call conn c s)
  control conn k := (Event.controlled k).before (p.control conn k)
  close conn := fun (journal, w) =>
    (journal ++ [.closed], p.close conn w)

end EntitySql
