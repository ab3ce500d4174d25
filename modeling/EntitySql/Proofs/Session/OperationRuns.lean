import EntitySql.Proofs.Session.Observation
import EntitySql.Session.Mapper

/-
  This file runs operations one step at a time.

  Key definitions include:
    * `Operation.Gives`

  Key theorems include:
    * `Script.run_bind`
    * `Operation.gives_bind`
    * `Operation.runOn_bind`, `Mapper.runOn_callFor`
    * `Mapper.gives_callFor`

  An operation notes the entity types that it uses, whether or
  not it succeeds. What it answers does not depend on them.
-/

namespace EntitySql

variable {ω κ α β : Type}

------------------------------------------------------------
-- Scripts
------------------------------------------------------------

/- A sequence runs its first script and then the next one. -/
theorem Script.run_bind
    (p : Provider ω κ)
    (conn : κ)
    (script : Script α)
    (next : α → Script β)
    (registry : Registry)
    (w : ω) :
    (script.bind next).run p conn registry w =
      (next (script.run p conn registry w).1).run p conn
        (script.run p conn registry w).2.1
        (script.run p conn registry w).2.2 := by
  induction script generalizing registry w with
  | done a => rfl
  | use e rest ih => exact ih (registry.use e) w
  | call c s rest ih => exact ih _ registry _

/- What a script answers does not depend on the registry. -/
theorem Script.run_registry
    (p : Provider ω κ)
    (conn : κ)
    (script : Script α)
    (registry registry' : Registry)
    (w : ω) :
    (script.run p conn registry w).1 =
        (script.run p conn registry' w).1 ∧
      (script.run p conn registry w).2.2 =
        (script.run p conn registry' w).2.2 := by
  induction script generalizing registry registry' w with
  | done a => exact ⟨rfl, rfl⟩
  | use e rest ih => exact ih (registry.use e) (registry'.use e) w
  | call c s rest ih => exact ih _ registry registry' _

------------------------------------------------------------
-- Operations
------------------------------------------------------------

namespace Operation

variable {p : Provider ω κ}
variable {conn : κ}

/- A sequence of operations ends where the first of them fails. -/
theorem runOn_bind
    (operation : Operation α)
    (next : α → Operation β)
    (registry : Registry)
    (w : ω) :
    ((operation >>= next).runOn p conn).runOn (registry, w) =
      (match (operation.runOn p conn).runOn (registry, w) with
        | (.ok a, rest) => ((next a).runOn p conn).runOn rest
        | (.error e, rest) => (.error e, rest)) := by
  simp only [runOn, Action.runOn_ofFunction]
  change
    (Script.bind (ExceptT.run operation) _).run p conn registry w =
      _
  rw [Script.run_bind]
  rcases (ExceptT.run operation).run p conn registry w with
    ⟨e | a, registry', w'⟩ <;> rfl

theorem runOn_useAll
    (es : List EntityType)
    (registry : Registry)
    (w : ω) :
    ((useAll es).runOn p conn).runOn (registry, w) =
      (.ok (), (registry.useAll es, w)) := by
  induction es generalizing registry with
  | nil => rfl
  | cons e es ih =>
      rw [useAll, runOn_bind]
      exact ih (registry.use e)

theorem runOn_ofMapping
    (result : Except MappingError α)
    (registry : Registry)
    (w : ω) :
    ((ofMapping result).runOn p conn).runOn (registry, w) =
      (result.mapError SessionError.mapping, (registry, w)) := by
  cases result <;> rfl

/-
  On a connection the operation succeeds in one world with an
  answer, and leaves another world behind.
-/
def Gives
    (p : Provider ω κ)
    (conn : κ)
    (operation : Operation α)
    (w : ω)
    (a : α)
    (w' : ω) : Prop :=
  ∀ registry, ∃ registry',
    (operation.runOn p conn).runOn (registry, w) =
      (.ok a, (registry', w'))

theorem gives_pure
    (a : α)
    (w : ω) :
    Gives p conn (pure a) w a w := by
  intro registry
  exact ⟨registry, rfl⟩

theorem gives_bind
    {operation : Operation α}
    {next : α → Operation β}
    {w w' w'' : ω}
    {a : α}
    {b : β}
    (hFirst : Gives p conn operation w a w')
    (hNext : Gives p conn (next a) w' b w'') :
    Gives p conn (operation >>= next) w b w'' := by
  intro registry
  rcases hFirst registry with ⟨registry₁, hRun⟩
  rcases hNext registry₁ with ⟨registry₂, hRest⟩
  refine ⟨registry₂, ?_⟩
  rw [runOn_bind, hRun]
  exact hRest

/- One run decides what an operation gives. -/
theorem gives_of_run
    {operation : Operation α}
    {registry registry' : Registry}
    {w w' : ω}
    {a : α}
    (hRun :
      (ExceptT.run operation).run p conn registry w =
        (.ok a, registry', w')) :
    Gives p conn operation w a w' := by
  intro other
  have hSame :=
    (ExceptT.run operation).run_registry p conn registry other w
  rw [hRun] at hSame
  refine ⟨((ExceptT.run operation).run p conn other w).2.1, ?_⟩
  change (ExceptT.run operation).run p conn other w = _
  exact Prod.ext hSame.1.symm (Prod.ext rfl hSame.2.symm)

/- What a sequence gives, its second operation gives at last. -/
theorem gives_next
    {operation : Operation α}
    {next : α → Operation β}
    {w w' w'' : ω}
    {a : α}
    {b : β}
    (hFirst : Gives p conn operation w a w')
    (hBoth : Gives p conn (operation >>= next) w b w'') :
    Gives p conn (next a) w' b w'' := by
  rcases hFirst {} with ⟨registry₁, hRun⟩
  rcases hBoth {} with ⟨registry₂, hRest⟩
  rw [runOn_bind, hRun] at hRest
  exact gives_of_run hRest

/- A mapping that is given a result succeeded. -/
theorem eq_ok_of_gives_ofMapping
    {result : Except MappingError α}
    {w w' : ω}
    {a : α}
    (hGives : Gives p conn (ofMapping result) w a w') :
    result = .ok a := by
  rcases hGives {} with ⟨registry, hRun⟩
  cases result with
  | error e => cases hRun
  | ok b =>
      cases hRun
      rfl

theorem gives_use
    (e : EntityType)
    (w : ω) :
    Gives p conn (use e) w () w := by
  intro registry
  exact ⟨registry.use e, rfl⟩

theorem gives_useAll
    (es : List EntityType)
    (w : ω) :
    Gives p conn (useAll es) w () w := by
  intro registry
  exact ⟨registry.useAll es, runOn_useAll es registry w⟩

theorem gives_ofMapping
    {result : Except MappingError α}
    {a : α}
    (hResult : result = .ok a)
    (w : ω) :
    Gives p conn (ofMapping result) w a w := by
  rw [hResult]
  exact gives_pure a w

end Operation

open Operation

/-
  A request is called if its statement can be written, and the
  answer is that of the call.
-/
theorem Mapper.runOn_callFor
    (p : Provider ω κ)
    (conn : κ)
    (m : Mapper)
    (c : Convention)
    (request : Request)
    (registry : Registry)
    (w : ω) :
    ((m.callFor c request).runOn p conn).runOn (registry, w) =
      (match request.statement m.naming m.dialect with
        | .error e =>
            (.error (.mapping e),
              (registry.useAll (request.reached m.naming), w))
        | .ok s =>
            (((p.call conn c s).runOn w).1,
              (registry.useAll (request.reached m.naming),
                ((p.call conn c s).runOn w).2))) := by
  rw [callFor, runOn_bind, statement, runOn_bind, runOn_useAll]
  cases request.statement m.naming m.dialect <;> rfl

/- A request is called as the statement that it is written as. -/
theorem Mapper.gives_callFor
    {p : Provider ω κ}
    {conn : κ}
    {m : Mapper}
    {c : Convention}
    {request : Request}
    {draft : Draft}
    {answer : c.Answer}
    {w w' : ω}
    (hDraft : request.draft m.naming = .ok draft)
    (hCall :
      (p.call conn c (draft.statement m.dialect)).runOn w =
        (.ok answer, w')) :
    Gives p conn (m.callFor c request) w answer w' := by
  have hStatement :
      request.statement m.naming m.dialect =
        .ok (draft.statement m.dialect) := by
    unfold Request.statement
    rw [hDraft]
    rfl
  intro registry
  refine ⟨registry.useAll (request.reached m.naming), ?_⟩
  rw [runOn_callFor, hStatement]
  simp only [hCall]

end EntitySql
