import EntitySql.Proofs.Predicate.Truth

/-
  This file defines the grammar of compiled predicates and
  shows that it can be read in one way only.

  Key definitions include:
    * `Formula`, `Formula.truth`
    * `Fragment.Derives`
    * `Fragment.map`, `Formula.map`

  Key theorems include:
    * `Fragment.Derives.eq_of_append_eq`
    * `Fragment.Derives.unique`
    * `Fragment.Derives.map`
-/

namespace EntitySql

------------------------------------------------------------
-- Formulas
------------------------------------------------------------

/- What a list of fragments can be read as. -/
inductive Formula where
  | constant (value : Bool)
  | condition (c : Condition)
  | combined (c : Combinator) (left right : Formula)
  deriving DecidableEq, Repr

/- The truth of two operands of a combinator. -/
def Combinator.truth : Combinator → Truth → Truth → Truth
  | .and => Truth.and
  | .or => Truth.or

/- The truth of a formula on one row. -/
def Formula.truth
    (ν : Valuation) : Formula → Truth
  | .constant value => .ofBool value
  | .condition c => c.truth ν
  | .combined c left right =>
      c.truth (left.truth ν) (right.truth ν)

------------------------------------------------------------
-- The grammar
------------------------------------------------------------

namespace Fragment

/-
  A list of fragments is a constant, a condition, or two
  such lists between parentheses with a combinator between.
-/
inductive Derives : List Fragment → Formula → Prop where
  | constant (value : Bool) :
      Derives [.constant value] (.constant value)
  | condition (c : Condition) :
      Derives [.condition c] (.condition c)
  | combined
      (c : Combinator)
      {left right : List Fragment}
      {f g : Formula}
      (hLeft : Derives left f)
      (hRight : Derives right g) :
      Derives
        (.opening ::
          (left ++
            .closing :: .combinator c :: .opening ::
              (right ++ [.closing])))
        (.combined c f g)

namespace Derives

variable {fs gs rest rest' : List Fragment}
variable {f g : Formula}

/-
  Two readings of one text agree on where they end, what they
  have read, and what is left over.
-/
theorem eq_of_append_eq
    (hFirst : Derives fs f)
    (hSecond : Derives gs g)
    (hText : fs ++ rest = gs ++ rest') :
    f = g ∧ rest = rest' := by
  induction hFirst generalizing gs g rest rest' with
  | constant value =>
      cases hSecond with
      | constant value' =>
          cases hText
          exact ⟨rfl, rfl⟩
      | condition c => cases hText
      | combined c hLeft hRight => cases hText
  | condition c =>
      cases hSecond with
      | constant value => cases hText
      | condition c' =>
          cases hText
          exact ⟨rfl, rfl⟩
      | combined c' hLeft hRight => cases hText
  | combined c hLeft hRight ihLeft ihRight =>
      cases hSecond with
      | constant value => cases hText
      | condition c' => cases hText
      | combined c' hLeft' hRight' =>
          simp only [List.cons_append, List.append_assoc,
            List.cons.injEq, true_and] at hText
          rcases ihLeft hLeft' hText with ⟨hSame, hMiddle⟩
          simp only [List.cons.injEq, true_and,
            Fragment.combinator.injEq] at hMiddle
          rcases hMiddle with ⟨hCombinator, hTail⟩
          rcases ihRight hRight' hTail with
            ⟨hSame', hEnd⟩
          simp only [List.nil_append, List.cons.injEq,
            true_and] at hEnd
          exact ⟨by rw [hCombinator, hSame, hSame'], hEnd⟩

/- A list of fragments has at most one reading. -/
theorem unique
    (hFirst : Derives fs f)
    (hSecond : Derives fs g) :
    f = g :=
  (eq_of_append_eq hFirst hSecond
    (rfl : fs ++ [] = fs ++ [])).1

end Derives

/- Combining two readable lists gives a readable list. -/
theorem derives_combine
    (c : Combinator)
    {left right : List Fragment}
    {f g : Formula}
    (hLeft : Derives left f)
    (hRight : Derives right g) :
    Derives (Scope.combine c left right)
      (.combined c f g) := by
  simpa [Scope.combine] using Derives.combined c hLeft hRight

------------------------------------------------------------
-- Changes of fragments
------------------------------------------------------------

/-
  Change every combinator, constant and condition; parentheses
  stay where they are.
-/
def map
    (combinator : Combinator → Combinator)
    (constant : Bool → Bool)
    (condition : Condition → Condition) : Fragment → Fragment
  | .opening => .opening
  | .closing => .closing
  | .combinator c => .combinator (combinator c)
  | .constant value => .constant (constant value)
  | .condition c => .condition (condition c)

end Fragment

/- The same changes in what the fragments are read as. -/
def Formula.map
    (combinator : Combinator → Combinator)
    (constant : Bool → Bool)
    (condition : Condition → Condition) : Formula → Formula
  | .constant value => .constant (constant value)
  | .condition c => .condition (condition c)
  | .combined c left right =>
      .combined (combinator c)
        (left.map combinator constant condition)
        (right.map combinator constant condition)

/- The conditions of a formula, from left to right. -/
def Formula.conditions : Formula → List Condition
  | .constant _ => []
  | .condition c => [c]
  | .combined _ left right => left.conditions ++ right.conditions

namespace Fragment

/- Changed fragments are read as the changed formula. -/
theorem Derives.map
    {fs : List Fragment}
    {f : Formula}
    (combinator : Combinator → Combinator)
    (constant : Bool → Bool)
    (condition : Condition → Condition)
    (hDerives : Derives fs f) :
    Derives (fs.map (Fragment.map combinator constant condition))
      (f.map combinator constant condition) := by
  induction hDerives with
  | constant value => exact .constant (constant value)
  | condition c => exact .condition (condition c)
  | combined c _ _ ihLeft ihRight =>
      simpa [Fragment.map, Formula.map] using
        Derives.combined (combinator c) ihLeft ihRight

/- The conditions of a formula stand among its fragments. -/
theorem Derives.mem_of_mem_conditions
    {fs : List Fragment}
    {f : Formula}
    {c : Condition}
    (hDerives : Derives fs f)
    (hMem : c ∈ f.conditions) :
    .condition c ∈ fs := by
  induction hDerives with
  | constant value => cases hMem
  | condition c' => simpa [Formula.conditions] using hMem
  | combined _ _ _ ihLeft ihRight =>
      rcases List.mem_append.mp hMem with hLeft | hRight
      · simp [ihLeft hLeft]
      · simp [ihRight hRight]

end Fragment

end EntitySql
