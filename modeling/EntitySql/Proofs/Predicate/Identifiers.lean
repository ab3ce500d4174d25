import EntitySql.Proofs.Predicate.Binding
import EntitySql.Proofs.Predicate.TwinRuns
import EntitySql.Text.Word

/-
  This file shows that parameters of columns which are
  identifiers have names which are identifiers.

  Key definitions include:
    * `Text.IsIdentifier`
    * `ParameterSet.HasIdentifiers`
    * `Binding.Keeps`

  Key theorems include:
    * `ParameterSet.bind_identifiers`
    * `ParameterSet.bindList_identifiers`
    * `Binding.Keeps.bind`, `Binding.Keeps.mapM`

  A name that is found again was given before, and a new one
  is its base with digits, or with an infix and digits, after
  it.
-/

namespace EntitySql

------------------------------------------------------------
-- Identifiers
------------------------------------------------------------

namespace Text

/- Word characters, and at least one of them. -/
structure IsIdentifier
    (s : String) : Prop where
  ne_empty : s ≠ ""
  word : ∀ c ∈ s.toList, isWordChar c = true

theorem isWordChar_of_isDigit
    {c : Char}
    (hDigit : c.isDigit = true) :
    isWordChar c = true := by
  simp [isWordChar, isAlphanumeric, Char.isAlphanum, hDigit]

theorem word_toString
    (n : Nat) :
    ∀ c ∈ (toString n).toList, isWordChar c = true := by
  intro c hMem
  rw [Nat.toString_eq_repr, Nat.toList_repr] at hMem
  apply isWordChar_of_isDigit
  exact Nat.isDigit_of_mem_toDigits (by omega) (by omega) hMem

/- ASCII letters and digits make an identifier. -/
theorem IsIdentifier.of_isAlphanum
    {s : String}
    (hNonempty : s ≠ "")
    (hAscii : s.toList.all Char.isAlphanum = true) :
    IsIdentifier s := by
  refine ⟨hNonempty, ?_⟩
  intro c hMem
  have hChar := List.all_eq_true.mp hAscii c hMem
  simp [isWordChar, isAlphanumeric, hChar]

/- Word characters after an identifier belong to it. -/
theorem IsIdentifier.append
    {s : String}
    (hName : IsIdentifier s)
    {suffix : String}
    (hSuffix : ∀ c ∈ suffix.toList, isWordChar c = true) :
    IsIdentifier (s ++ suffix) := by
  constructor
  case ne_empty =>
    intro hEmpty
    exact hName.ne_empty (String.append_eq_empty_iff.mp hEmpty).1
  case word =>
    intro c hMem
    rw [String.toList_append, List.mem_append] at hMem
    rcases hMem with hBase | hAfter
    · exact hName.word c hBase
    · exact hSuffix c hAfter

end Text

------------------------------------------------------------
-- Names of parameters
------------------------------------------------------------

namespace ParameterSet

open Text

/- Every parameter has an identifier for its name. -/
def HasIdentifiers
    (s : ParameterSet) : Prop :=
  ∀ name ∈ s.names, IsIdentifier name

variable {s : ParameterSet}
variable {base : String}

theorem hasIdentifiers_empty :
    HasIdentifiers empty := by
  intro name hMem
  cases hMem

theorem HasIdentifiers.push
    {p : Parameter}
    (hNames : s.HasIdentifiers)
    (hName : IsIdentifier p.name) :
    (s.push p).HasIdentifiers := by
  intro name hMem
  rw [names_push, List.mem_append, List.mem_singleton] at hMem
  rcases hMem with hOld | rfl
  · exact hNames name hOld
  · exact hName

theorem isIdentifier_numbered
    (hBase : IsIdentifier base)
    (n : Nat) :
    IsIdentifier (numbered base n) := by
  unfold numbered
  split
  · exact hBase
  · exact hBase.append (word_toString n)

theorem isIdentifier_memberName
    (hBase : IsIdentifier base)
    (n : Nat) :
    IsIdentifier (memberName base n) := by
  have hInfix : ∀ c ∈ "_InParam_".toList, isWordChar c = true := by
    simp [isWordChar, isAlphanumeric, Char.isAlphanum,
      Char.isAlpha, Char.isUpper, Char.isLower]
  exact (hBase.append hInfix).append (word_toString n)

theorem bind_identifiers
    (hNames : s.HasIdentifiers)
    (hBase : IsIdentifier base)
    (v : Value) :
    IsIdentifier (s.bind base v).1 ∧
      (s.bind base v).2.HasIdentifiers := by
  cases hFound : s.foundName? base v with
  | some name =>
      rw [bind_of_foundName?_some hFound]
      rcases Option.map_eq_some_iff.mp hFound with
        ⟨p, hFind, rfl⟩
      have hMem : p.name ∈ s.names :=
        List.mem_map_of_mem (List.mem_of_find?_eq_some hFind)
      exact ⟨hNames p.name hMem, hNames⟩
  | none =>
      rw [bind_of_foundName?_none hFound]
      have hName :=
        isIdentifier_numbered hBase (s.firstFree (numbered base) 1)
      exact ⟨hName, hNames.push hName⟩

theorem bindFrom_identifiers
    (hNames : s.HasIdentifiers)
    (hBase : IsIdentifier base)
    (n : Nat)
    (vs : List Value) :
    (∀ p ∈ (s.bindFrom base n vs).1, IsIdentifier p.name) ∧
      (s.bindFrom base n vs).2.HasIdentifiers := by
  induction vs generalizing s n with
  | nil => exact ⟨nofun, hNames⟩
  | cons v vs ih =>
      have hName :=
        isIdentifier_memberName hBase
          (s.firstFree (memberName base) n)
      have hRest :=
        ih (hNames.push (p := ⟨_, v⟩) hName)
          (s.firstFree (memberName base) n + 1)
      simp only [bindFrom, List.forall_mem_cons]
      exact ⟨⟨hName, hRest.1⟩, hRest.2⟩

theorem bindList_identifiers
    (hNames : s.HasIdentifiers)
    (hBase : IsIdentifier base)
    (vs : List Value) :
    (∀ p ∈ (s.bindList base vs).1, IsIdentifier p.name) ∧
      (s.bindList base vs).2.HasIdentifiers :=
  bindFrom_identifiers hNames hBase 1 vs

end ParameterSet

------------------------------------------------------------
-- Invariants of binding
------------------------------------------------------------

namespace Binding

variable {α β : Type}

/-
  A step keeps what holds of the parameters, and what it
  yields is good.
-/
def Keeps
    (holds : ParameterSet → Prop)
    (step : Binding α)
    (good : α → Prop) : Prop :=
  ∀ s a t, holds s → step.Yields s a t → holds t ∧ good a

namespace Keeps

variable {holds : ParameterSet → Prop}
variable {step : Binding α}
variable {good : α → Prop}
variable {goodNext : β → Prop}

theorem pure
    {a : α}
    (hGood : good a) :
    Keeps holds (pure a) good := by
  intro s b t hHolds hYields
  rcases (yields_pure_iff a b s t).mp hYields with ⟨rfl, rfl⟩
  exact ⟨hHolds, hGood⟩

theorem refuse
    (cause : Unsupported) :
    Keeps holds (Binding.refuse cause) good := by
  intro s a t _ hYields
  exact absurd hYields (not_yields_refuse cause s t a)

theorem liftM
    (result : Except MappingError α) :
    Keeps holds (liftM result) fun a => result = .ok a := by
  intro s a t hHolds hYields
  rcases (yields_liftM_iff result s t a).mp hYields with
    ⟨hResult, rfl⟩
  exact ⟨hHolds, hResult⟩

theorem bind
    {next : α → Binding β}
    (hFirst : Keeps holds step good)
    (hNext : ∀ a, good a → Keeps holds (next a) goodNext) :
    Keeps holds (step >>= next) goodNext := by
  intro s b t hHolds hYields
  rcases (yields_bind_iff step next s t b).mp hYields with
    ⟨a, u, hStep, hRest⟩
  rcases hFirst s a u hHolds hStep with ⟨hMiddle, hGood⟩
  exact hNext a hGood u b t hMiddle hRest

theorem map
    {f : α → β}
    (hStep : Keeps holds step good)
    (hGood : ∀ a, good a → goodNext (f a)) :
    Keeps holds (f <$> step) goodNext := by
  rw [map_eq_pure_bind]
  apply hStep.bind
  intro a hFirst
  exact Keeps.pure (hGood a hFirst)

/- The invariant holds after every step, so after all. -/
theorem mapM
    {f : α → Binding β}
    {xs : List α}
    (hStep : ∀ x ∈ xs, Keeps holds (f x) goodNext) :
    Keeps holds (xs.mapM f) fun ys => ∀ y ∈ ys, goodNext y := by
  induction xs with
  | nil =>
      rw [List.mapM_nil]
      exact Keeps.pure nofun
  | cons x xs ih =>
      rw [List.mapM_cons]
      rw [List.forall_mem_cons] at hStep
      apply hStep.1.bind
      intro y hFirst
      apply (ih hStep.2).bind
      intro ys hRest
      exact Keeps.pure (List.forall_mem_cons.mpr ⟨hFirst, hRest⟩)

end Keeps

open ParameterSet

theorem bindValue_identifiers
    {base : String}
    (hBase : Text.IsIdentifier base)
    (v : Value) :
    Keeps HasIdentifiers (bindValue base v)
      fun p => Text.IsIdentifier p.name := by
  intro s p t hNames hYields
  rcases (yields_bindValue_iff base v s t p).mp hYields with
    ⟨rfl, rfl⟩
  exact (bind_identifiers hNames hBase v).symm

end Binding

end EntitySql
