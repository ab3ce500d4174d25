import EntitySql.Proofs.Predicate.Binding
import EntitySql.Proofs.Predicate.ParameterNames

/-
  This file compares two runs that bind different values.

  Key definitions include:
    * `EqualAlike`
    * `ParameterSet.InStep`
    * `Binding.Twins`

  Key theorems include:
    * `ParameterSet.bind_inStep`
    * `ParameterSet.bindList_inStep`
    * `Binding.Twins.bind`
    * `Binding.Twins.mapM`

  Binding looks at values only to find equal ones. Two sets
  stay in step as long as the values bound into them are
  equal to one another in the same places, and then the names
  of both sets are the same.
-/

namespace EntitySql

/-
  Any two of the first values are equal iff the values in the
  same places of the second ones are.
-/
def EqualAlike
    (vs ws : List Value) : Prop :=
  (vs.zip ws).Pairwise fun x y =>
    x.1.equal y.1 = x.2.equal y.2

------------------------------------------------------------
-- Parameter sets in step
------------------------------------------------------------

namespace ParameterSet

/- The values that are bound, in the order of binding. -/
def values
    (s : ParameterSet) : List Value :=
  s.params.map Parameter.value

@[simp] theorem values_push
    (s : ParameterSet)
    (p : Parameter) :
    (s.push p).values = s.values ++ [p.value] := by
  simp [push, values]

/-
  Two sets with the same names, whose values are equal in the
  same places, also when the values still to be bound come in.
-/
structure InStep
    (s s' : ParameterSet)
    (vs ws : List Value) : Prop where
  names_eq : s.names = s'.names
  alike : EqualAlike (s.values ++ vs) (s'.values ++ ws)

variable {s s' : ParameterSet}
variable {vs ws : List Value}

theorem length_values_eq
    (hNames : s.names = s'.names) :
    s.values.length = s'.values.length := by
  have hLength := congrArg List.length hNames
  simpa [names, values] using hLength

/- The search for a free name looks at names only. -/
theorem firstFree_congr
    (hNames : s.names = s'.names)
    (candidate : Nat → String)
    (n : Nat) :
    s.firstFree candidate n = s'.firstFree candidate n := by
  have hContains (name : String) :
      s.contains name = s'.contains name := by
    rw [Bool.eq_iff_iff, contains_iff, contains_iff, hNames]
  have hSize : s.size = s'.size := by
    have hLength := congrArg List.length hNames
    simpa [names, size] using hLength
  have hSearch (fuel n : Nat) :
      firstFree.search s candidate fuel n =
        firstFree.search s' candidate fuel n := by
    induction fuel generalizing n with
    | zero => rfl
    | succ fuel ih =>
        simp only [firstFree.search, hContains, ih]
  unfold firstFree
  rw [hSize, hSearch]

/- The name under which an equal value is found. -/
def foundName?
    (s : ParameterSet)
    (base : String)
    (v : Value) : Option String :=
  (s.params.find? fun p =>
      p.value.equal v && extendsName p.name base).map
    Parameter.name

theorem bind_of_foundName?_some
    {base name : String}
    {v : Value}
    (hFound : s.foundName? base v = some name) :
    s.bind base v = (name, s) := by
  rcases Option.map_eq_some_iff.mp hFound with
    ⟨p, hFind, rfl⟩
  unfold bind
  rw [hFind]

theorem bind_of_foundName?_none
    {base : String}
    {v : Value}
    (hFound : s.foundName? base v = none) :
    s.bind base v =
      (numbered base (s.firstFree (numbered base) 1),
        s.push
          ⟨numbered base (s.firstFree (numbered base) 1), v⟩) := by
  have hFind := Option.map_eq_none_iff.mp hFound
  unfold bind
  rw [hFind]

/- Values that are equal alike are found under the same name. -/
theorem foundName?_congr
    {v w : Value}
    (hStep : InStep s s' (v :: vs) (w :: ws))
    (base : String) :
    s.foundName? base v = s'.foundName? base w := by
  have hLength := length_values_eq hStep.names_eq
  have hEqual :
      ∀ x ∈ s.values.zip s'.values,
        x.1.equal v = x.2.equal w := by
    have hAlike := hStep.alike
    unfold EqualAlike at hAlike
    rw [List.zip_append hLength, List.pairwise_append] at hAlike
    intro x hMem
    exact hAlike.2.2 x hMem (v, w) List.mem_cons_self
  have hNames := hStep.names_eq
  rcases s with ⟨params⟩
  rcases s' with ⟨params'⟩
  clear hStep hLength
  unfold foundName?
  induction params generalizing params' with
  | nil =>
      rcases params' with _ | ⟨p', params'⟩
      · rfl
      · cases hNames
  | cons p params ih =>
      rcases params' with _ | ⟨p', params'⟩
      · cases hNames
      · simp only [names, List.map_cons, List.cons.injEq] at hNames
        simp only [values, List.map_cons, List.zip_cons_cons,
          List.forall_mem_cons] at hEqual
        have hRest := ih params' hEqual.2 hNames.2
        simp only [List.find?_cons, hEqual.1, hNames.1]
        cases p'.value.equal w && extendsName p'.name base
        · exact hRest
        · simp only [Option.map_some, hNames.1]

/- A value that needs no parameter drops out. -/
theorem InStep.dropped
    {v w : Value}
    (hStep : InStep s s' (v :: vs) (w :: ws)) :
    InStep s s' vs ws := by
  have hLength := length_values_eq hStep.names_eq
  refine ⟨hStep.names_eq, ?_⟩
  have hAlike := hStep.alike
  unfold EqualAlike at hAlike ⊢
  rw [List.zip_append hLength] at hAlike ⊢
  have hFewer :
      List.Sublist (s.values.zip s'.values ++ vs.zip ws)
        (s.values.zip s'.values ++ (v :: vs).zip (w :: ws)) :=
    (List.sublist_cons_self _ _).append_left _
  exact List.Pairwise.sublist hFewer hAlike

/- A value that gets a parameter is one of those bound. -/
theorem InStep.pushed
    {v w : Value}
    (hStep : InStep s s' (v :: vs) (w :: ws))
    (name : String) :
    InStep (s.push ⟨name, v⟩) (s'.push ⟨name, w⟩) vs ws := by
  constructor
  case names_eq => rw [names_push, names_push, hStep.names_eq]
  case alike =>
    have hAlike := hStep.alike
    simpa using hAlike

/- Binding keeps two sets in step, under one name. -/
theorem bind_inStep
    {v w : Value}
    (hStep : InStep s s' (v :: vs) (w :: ws))
    (base : String) :
    (s.bind base v).1 = (s'.bind base w).1 ∧
      InStep (s.bind base v).2 (s'.bind base w).2 vs ws := by
  have hFound := foundName?_congr hStep base
  cases hName : s'.foundName? base w with
  | some name =>
      rw [bind_of_foundName?_some (hFound.trans hName),
        bind_of_foundName?_some hName]
      exact ⟨rfl, hStep.dropped⟩
  | none =>
      rw [bind_of_foundName?_none (hFound.trans hName),
        bind_of_foundName?_none hName,
        firstFree_congr hStep.names_eq]
      exact ⟨rfl, hStep.pushed _⟩

/- The same for lists of one length, element by element. -/
theorem bindFrom_inStep
    {xs ys : List Value}
    (hLength : xs.length = ys.length)
    (hStep : InStep s s' (xs ++ vs) (ys ++ ws))
    (base : String)
    (n : Nat) :
    (s.bindFrom base n xs).1.map Parameter.name =
        (s'.bindFrom base n ys).1.map Parameter.name ∧
      InStep (s.bindFrom base n xs).2
        (s'.bindFrom base n ys).2 vs ws := by
  induction xs generalizing s s' n ys with
  | nil =>
      have hNil := List.eq_nil_of_length_eq_zero hLength.symm
      subst hNil
      exact ⟨rfl, hStep⟩
  | cons x xs ih =>
      rcases ys with _ | ⟨y, ys⟩
      · cases hLength
      · have hFree :=
          firstFree_congr hStep.names_eq (memberName base) n
        have hRest :=
          ih (Nat.succ_inj.mp hLength)
            (hStep.pushed
              (memberName base (s.firstFree (memberName base) n)))
            (s.firstFree (memberName base) n + 1)
        simp only [bindFrom, ← hFree, List.map_cons]
        exact ⟨congrArg _ hRest.1, hRest.2⟩

theorem bindList_inStep
    {xs ys : List Value}
    (hLength : xs.length = ys.length)
    (hStep : InStep s s' (xs ++ vs) (ys ++ ws))
    (base : String) :
    (s.bindList base xs).1.map Parameter.name =
        (s'.bindList base ys).1.map Parameter.name ∧
      InStep (s.bindList base xs).2 (s'.bindList base ys).2
        vs ws :=
  bindFrom_inStep hLength hStep base 1

end ParameterSet

------------------------------------------------------------
-- Twin runs
------------------------------------------------------------

namespace Binding

open ParameterSet

variable {α β : Type}

/- The step fails, whatever it has bound before. -/
def Fails
    (step : Binding α)
    (before : ParameterSet) : Prop :=
  ∃ e after, step.run.run before = (.error e, after)

/-
  Two steps that bind some values each: from any two sets they
  both fail, or both succeed with related results. Where the
  sets have to be in step before, they are in step after.
-/
def Twins
    (inStep : Prop)
    (step step' : Binding α)
    (xs ys : List Value)
    (related : α → α → Prop) : Prop :=
  ∀ s s' vs ws,
    (inStep → InStep s s' (xs ++ vs) (ys ++ ws)) →
    (step.Fails s ∧ step'.Fails s') ∨
    ∃ a a' t t', step.Yields s a t ∧ step'.Yields s' a' t' ∧
      related a a' ∧ (inStep → InStep t t' vs ws)

namespace Twins

variable {inStep : Prop}
variable {step step' : Binding α}
variable {xs ys xs' ys' : List Value}
variable {related : α → α → Prop}

theorem pure
    {a a' : α}
    (hRelated : related a a') :
    Twins inStep (pure a) (pure a') [] [] related := by
  intro s s' vs ws hStep
  exact Or.inr ⟨a, a', s, s', rfl, rfl, hRelated, hStep⟩

/- Refusals do not depend on what was bound. -/
theorem refuse
    (cause cause' : Unsupported) :
    Twins inStep (Binding.refuse cause) (Binding.refuse cause')
      xs ys related := by
  intro s s' vs ws hStep
  exact Or.inl ⟨⟨_, _, rfl⟩, ⟨_, _, rfl⟩⟩

/- Nothing runs after a refusal. -/
theorem refuseBind
    (cause cause' : Unsupported)
    (next next' : β → Binding α) :
    Twins inStep (Binding.refuse cause >>= next)
      (Binding.refuse cause' >>= next') xs ys related := by
  intro s s' vs ws hStep
  exact Or.inl ⟨⟨_, _, run_bind_of_error next rfl⟩,
    ⟨_, _, run_bind_of_error next' rfl⟩⟩

/- The same resolution fails or succeeds in both runs. -/
theorem liftM
    (result : Except MappingError α) :
    Twins inStep (liftM result) (liftM result) [] []
      fun a a' => result = .ok a ∧ a = a' := by
  intro s s' vs ws hStep
  cases result with
  | error e => exact Or.inl ⟨⟨_, _, rfl⟩, ⟨_, _, rfl⟩⟩
  | ok a => exact Or.inr ⟨a, a, s, s', rfl, rfl, ⟨rfl, rfl⟩, hStep⟩

theorem bind
    {next next' : α → Binding β}
    {relatedNext : β → β → Prop}
    (hFirst : Twins inStep step step' xs ys related)
    (hNext : ∀ a a', related a a' →
      Twins inStep (next a) (next' a') xs' ys' relatedNext) :
    Twins inStep (step >>= next) (step' >>= next')
      (xs ++ xs') (ys ++ ys') relatedNext := by
  intro s s' vs ws hStep
  simp only [List.append_assoc] at hStep
  rcases hFirst s s' _ _ hStep with
    ⟨⟨e, t, hFail⟩, ⟨e', t', hFail'⟩⟩ |
      ⟨a, a', t, t', hOk, hOk', hRelated, hAfter⟩
  · exact Or.inl ⟨⟨e, t, run_bind_of_error next hFail⟩,
      ⟨e', t', run_bind_of_error next' hFail'⟩⟩
  · rcases hNext a a' hRelated t t' vs ws hAfter with
      ⟨⟨e, u, hFail⟩, ⟨e', u', hFail'⟩⟩ |
        ⟨b, b', u, u', hLast, hLast', hResult, hEnd⟩
    · exact Or.inl
        ⟨⟨e, u, (run_bind_of_ok next hOk).trans hFail⟩,
          ⟨e', u', (run_bind_of_ok next' hOk').trans hFail'⟩⟩
    · exact Or.inr
        ⟨b, b', u, u', (run_bind_of_ok next hOk).trans hLast,
          (run_bind_of_ok next' hOk').trans hLast', hResult, hEnd⟩

/- A step that binds nothing leaves the values to the rest. -/
theorem bindSilent
    {next next' : α → Binding β}
    {relatedNext : β → β → Prop}
    (hFirst : Twins inStep step step' [] [] related)
    (hNext : ∀ a a', related a a' →
      Twins inStep (next a) (next' a') xs ys relatedNext) :
    Twins inStep (step >>= next) (step' >>= next') xs ys
      relatedNext :=
  hFirst.bind hNext

/- Nothing is bound after the first step. -/
theorem bindLast
    {next next' : α → Binding β}
    {relatedNext : β → β → Prop}
    (hFirst : Twins inStep step step' xs ys related)
    (hNext : ∀ a a', related a a' →
      Twins inStep (next a) (next' a') [] [] relatedNext) :
    Twins inStep (step >>= next) (step' >>= next') xs ys
      relatedNext := by
  simpa using hFirst.bind hNext

/- The result of the last step is only wrapped. -/
theorem bindPure
    {f f' : α → β}
    {relatedNext : β → β → Prop}
    (hFirst : Twins inStep step step' xs ys related)
    (hNext : ∀ a a', related a a' →
      relatedNext (f a) (f' a')) :
    Twins inStep (step >>= fun a => Pure.pure (f a))
      (step' >>= fun a => Pure.pure (f' a)) xs ys relatedNext := by
  apply hFirst.bindLast
  intro a a' hRelated
  exact Twins.pure (hNext a a' hRelated)

theorem bindValue
    (base : String)
    (v w : Value) :
    Twins inStep (Binding.bindValue base v)
      (Binding.bindValue base w) [v] [w]
      fun p p' => inStep → p.name = p'.name := by
  intro s s' vs ws hStep
  refine Or.inr ⟨⟨(s.bind base v).1, v⟩, ⟨(s'.bind base w).1, w⟩,
    (s.bind base v).2, (s'.bind base w).2, rfl, rfl, ?_, ?_⟩
  · intro hIn
    exact (bind_inStep (hStep hIn) base).1
  · intro hIn
    exact (bind_inStep (hStep hIn) base).2

theorem bindValues
    (base : String)
    (hLength : xs.length = ys.length) :
    Twins inStep (Binding.bindValues base xs)
      (Binding.bindValues base ys) xs ys
      fun ps ps' =>
        inStep → ps.map Parameter.name = ps'.map Parameter.name := by
  intro s s' vs ws hStep
  refine Or.inr ⟨(s.bindList base xs).1, (s'.bindList base ys).1,
    (s.bindList base xs).2, (s'.bindList base ys).2, rfl, rfl,
    ?_, ?_⟩
  · intro hIn
    exact (bindList_inStep hLength (hStep hIn) base).1
  · intro hIn
    exact (bindList_inStep hLength (hStep hIn) base).2

/- Twin steps one after the other, over inputs of one shape. -/
theorem mapM
    {f f' : α → Binding β}
    {shape : α → α → Prop}
    {relatedEach : β → β → Prop}
    (bound bound' : α → List Value)
    (hStep : ∀ x x', shape x x' →
      Twins inStep (f x) (f' x') (bound x) (bound' x') relatedEach)
    {inputs inputs' : List α}
    (hShape : List.Forall₂ shape inputs inputs') :
    Twins inStep (inputs.mapM f) (inputs'.mapM f')
      (inputs.flatMap bound) (inputs'.flatMap bound')
      (List.Forall₂ relatedEach) := by
  induction hShape with
  | nil =>
      simp only [List.mapM_nil]
      exact Twins.pure .nil
  | cons hFirst _ ih =>
      simp only [List.mapM_cons, List.flatMap_cons]
      apply (hStep _ _ hFirst).bind
      intro y y' hRelated
      apply ih.bindPure
      intro rest rest' hRest
      exact .cons hRelated hRest

end Twins

end Binding

end EntitySql
