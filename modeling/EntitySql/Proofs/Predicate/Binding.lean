import Mathlib.Data.List.Forall2
import EntitySql.Predicate.Compile

/-
  This file reads binding steps one at a time.

  Key definitions include:
    * `Binding.Yields`

  Key theorems include:
    * `bind_eq_ok_iff`
    * `mapM_eq_ok_iff`, `exists_mapM_eq_ok_iff`
    * `invariant_of_foldlM`
    * `Binding.yields_bind_iff`
    * `Binding.exists_yields_mapM`

  A step that yields a value has succeeded; each theorem says
  of one way to build a step what has to happen for that.
-/

namespace EntitySql

variable {α β ε : Type}

/- A sequence succeeds if its first part does and the rest. -/
theorem bind_eq_ok_iff
    {first : Except ε α}
    {next : α → Except ε β}
    {b : β} :
    first >>= next = .ok b ↔
      ∃ a, first = .ok a ∧ next a = .ok b := by
  cases first with
  | error cause => exact ⟨nofun, fun ⟨_, hFirst, _⟩ => nomatch hFirst⟩
  | ok a =>
      constructor
      · exact fun hNext => ⟨a, rfl, hNext⟩
      · rintro ⟨_, hFirst, hNext⟩
        cases hFirst
        exact hNext

/- A list is taken in if every element of it is. -/
theorem mapM_eq_ok_iff
    {f : α → Except ε β}
    {xs : List α}
    {ys : List β} :
    xs.mapM f = .ok ys ↔ List.Forall₂ (fun x y => f x = .ok y) xs ys := by
  induction xs generalizing ys with
  | nil =>
      rw [List.mapM_nil, List.forall₂_nil_left_iff]
      exact Except.ok.injEq [] ys ▸ eq_comm
  | cons x xs ih =>
      rw [List.mapM_cons]
      cases hFirst : f x with
      | error e =>
          constructor
          · nofun
          · rintro (_ | ⟨hFirst', _⟩)
            cases hFirst.symm.trans hFirst'
      | ok y =>
          cases hRest : xs.mapM f with
          | error e =>
              constructor
              · nofun
              · rintro (_ | ⟨_, hRest'⟩)
                cases hRest.symm.trans (ih.mpr hRest')
          | ok zs =>
              constructor
              · intro hOk
                cases hOk
                exact .cons hFirst (ih.mp hRest)
              · rintro (_ | ⟨hFirst', hRest'⟩)
                cases hFirst.symm.trans hFirst'
                cases hRest.symm.trans (ih.mpr hRest')
                rfl

/- A list can be taken in if every element of it can. -/
theorem exists_mapM_eq_ok_iff
    {f : α → Except ε β}
    {xs : List α} :
    (∃ ys, xs.mapM f = .ok ys) ↔ ∀ x ∈ xs, ∃ y, f x = .ok y := by
  simp only [mapM_eq_ok_iff]
  induction xs with
  | nil => simp
  | cons x xs ih =>
      rw [List.forall_mem_cons, ← ih]
      constructor
      · rintro ⟨_, _ | ⟨hFirst, hRest⟩⟩
        exact ⟨⟨_, hFirst⟩, ⟨_, hRest⟩⟩
      · rintro ⟨⟨y, hFirst⟩, ⟨ys, hRest⟩⟩
        exact ⟨y :: ys, .cons hFirst hRest⟩

/-
  A run that succeeds ends with what every step keeps, and each
  of its elements is one that a step accepts.
-/
theorem invariant_of_foldlM
    {f : β → α → Except ε β}
    {P : β → Prop}
    {Q : α → Prop}
    {xs : List α}
    {b b' : β}
    (hStep :
      ∀ x ∈ xs, ∀ b b', P b → f b x = .ok b' → P b' ∧ Q x)
    (hStart : P b)
    (hRun : xs.foldlM f b = .ok b') :
    P b' ∧ ∀ x ∈ xs, Q x := by
  induction xs generalizing b with
  | nil =>
      cases hRun
      exact ⟨hStart, nofun⟩
  | cons x xs ih =>
      rw [List.forall_mem_cons] at hStep
      rw [List.foldlM_cons] at hRun
      cases hFirst : f b x with
      | error cause =>
          rw [hFirst] at hRun
          cases hRun
      | ok next =>
          rw [hFirst] at hRun
          rcases hStep.1 b next hStart hFirst with ⟨hNext, hHere⟩
          rcases ih hStep.2 hNext hRun with ⟨hEnd, hRest⟩
          exact ⟨hEnd, List.forall_mem_cons.mpr ⟨hHere, hRest⟩⟩

/- Every element of the second list is related to one of the first. -/
theorem exists_mem_of_forall₂
    {R : α → β → Prop}
    {xs : List α}
    {ys : List β}
    {y : β}
    (hRelated : List.Forall₂ R xs ys)
    (hMem : y ∈ ys) :
    ∃ x ∈ xs, R x y := by
  induction hRelated with
  | nil => cases hMem
  | cons hFirst _ ih =>
      rcases List.mem_cons.mp hMem with rfl | hRest
      · exact ⟨_, List.mem_cons_self, hFirst⟩
      · rcases ih hRest with ⟨x, hIn, hRelates⟩
        exact ⟨x, List.mem_cons_of_mem _ hIn, hRelates⟩

namespace Binding

/- The step succeeds on a parameter set and leaves another. -/
def Yields
    (step : Binding α)
    (before : ParameterSet)
    (result : α)
    (after : ParameterSet) : Prop :=
  step.run.run before = (.ok result, after)

------------------------------------------------------------
-- Sequences
------------------------------------------------------------

@[simp] theorem yields_pure_iff
    (a b : α)
    (s t : ParameterSet) :
    Yields (pure a) s b t ↔ a = b ∧ s = t := by
  change (Except.ok a, s) = (Except.ok b, t) ↔ _
  simp

/- After a step that succeeds the rest runs. -/
theorem run_bind_of_ok
    {step : Binding α}
    {s u : ParameterSet}
    {a : α}
    (next : α → Binding β)
    (hStep : step.run.run s = (.ok a, u)) :
    (step >>= next).run.run s = (next a).run.run u := by
  simp only [ExceptT.run_bind, StateT.run_bind, hStep]
  rfl

/- A step that fails is the failure of the whole. -/
theorem run_bind_of_error
    {step : Binding α}
    {s u : ParameterSet}
    {e : MappingError}
    (next : α → Binding β)
    (hStep : step.run.run s = (.error e, u)) :
    (step >>= next).run.run s = (.error e, u) := by
  simp only [ExceptT.run_bind, StateT.run_bind, hStep]
  rfl

/- A sequence succeeds if its first step does and the rest. -/
@[simp] theorem yields_bind_iff
    (step : Binding α)
    (next : α → Binding β)
    (s t : ParameterSet)
    (b : β) :
    Yields (step >>= next) s b t ↔
      ∃ a u, Yields step s a u ∧ Yields (next a) u b t := by
  constructor
  · intro hYields
    cases hStep : step.run.run s with
    | mk result u =>
        cases result with
        | ok a =>
            refine ⟨a, u, hStep, ?_⟩
            exact (run_bind_of_ok next hStep).symm.trans hYields
        | error e =>
            have hError :=
              (run_bind_of_error next hStep).symm.trans hYields
            cases hError
  · rintro ⟨a, u, hStep, hNext⟩
    exact (run_bind_of_ok next hStep).trans hNext

@[simp] theorem yields_map_iff
    (f : α → β)
    (step : Binding α)
    (s t : ParameterSet)
    (b : β) :
    Yields (f <$> step) s b t ↔
      ∃ a, Yields step s a t ∧ f a = b := by
  rw [map_eq_pure_bind, yields_bind_iff]
  simp

/- Steps that never fail do not fail one after the other. -/
theorem exists_yields_mapM
    {f : α → Binding β}
    {xs : List α}
    (hStep : ∀ x ∈ xs, ∀ s, ∃ y t, (f x).Yields s y t)
    (s : ParameterSet) :
    ∃ ys t, (xs.mapM f).Yields s ys t := by
  induction xs generalizing s with
  | nil => exact ⟨[], s, rfl⟩
  | cons x xs ih =>
      rw [List.forall_mem_cons] at hStep
      rcases hStep.1 s with ⟨y, u, hFirst⟩
      rcases ih hStep.2 u with ⟨ys, t, hRest⟩
      refine ⟨y :: ys, t, ?_⟩
      simp only [List.mapM_cons, yields_bind_iff, yields_pure_iff]
      exact ⟨y, u, hFirst, ys, t, hRest, rfl, rfl⟩

------------------------------------------------------------
-- Single steps
------------------------------------------------------------

/- A refusal yields nothing. -/
@[simp] theorem not_yields_refuse
    (cause : Unsupported)
    (s t : ParameterSet)
    (a : α) :
    ¬ Yields (refuse cause) s a t := by
  intro hYields
  cases hYields

/- A resolution that may fail leaves the parameters alone. -/
@[simp] theorem yields_liftM_iff
    (result : Except MappingError α)
    (s t : ParameterSet)
    (a : α) :
    Yields (liftM result) s a t ↔ result = .ok a ∧ s = t := by
  change (result, s) = (Except.ok a, t) ↔ _
  exact Prod.mk.injEq .. ▸ Iff.rfl

@[simp] theorem yields_bindValue_iff
    (base : String)
    (v : Value)
    (s t : ParameterSet)
    (p : Parameter) :
    Yields (bindValue base v) s p t ↔
      p = ⟨(s.bind base v).1, v⟩ ∧ t = (s.bind base v).2 := by
  change
    (Except.ok (⟨(s.bind base v).1, v⟩ : Parameter),
        (s.bind base v).2) =
      (Except.ok p, t) ↔ _
  simp [eq_comm]

@[simp] theorem yields_bindValues_iff
    (base : String)
    (vs : List Value)
    (s t : ParameterSet)
    (ps : List Parameter) :
    Yields (bindValues base vs) s ps t ↔
      ps = (s.bindList base vs).1 ∧
        t = (s.bindList base vs).2 := by
  change
    (Except.ok (s.bindList base vs).1, (s.bindList base vs).2) =
      (Except.ok ps, t) ↔ _
  simp [eq_comm]

end Binding

end EntitySql
