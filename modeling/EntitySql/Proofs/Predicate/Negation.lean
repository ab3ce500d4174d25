import EntitySql.Proofs.Predicate.Binding
import EntitySql.Proofs.Predicate.Grammar

/-
  Compiling the negation of a predicate differs from compiling
  the predicate in one way only: every operator, combinator and
  constant is turned into its counterpart.

  Key definitions include:
    * `Condition.negate`, `Fragment.negate`, `Formula.negate`
    * `CompiledPredicate.negate`
    * `Predicate.Context`, `Predicate.Context.fill`

  Key theorems include:
    * `Formula.truth_negate`
    * `Scope.fragments_not`
    * `Scope.compile_not`
    * `Scope.fragments_fill`
    * `Scope.compile_turns_and_cancels_not`

  The same parameters are bound, in the same order and under
  the same names, and the same errors are raised.
-/

namespace EntitySql

------------------------------------------------------------
-- Counterparts
------------------------------------------------------------

@[simp] theorem SqlOperator.negate_negate
    (op : SqlOperator) :
    op.negate.negate = op := by
  cases op <;> rfl

/- One more negation turns the operator around. -/
theorem SqlOperator.negateIf_not
    (op : SqlOperator)
    (negated : Bool) :
    op.negateIf (!negated) = (op.negateIf negated).negate := by
  cases negated <;> simp [negateIf]

/- The test with the counterpart of its operator. -/
def Condition.negate
    (c : Condition) : Condition :=
  { c with op := c.op.negate }

def Fragment.negate : Fragment → Fragment :=
  Fragment.map Combinator.dual Bool.not Condition.negate

def Formula.negate : Formula → Formula :=
  Formula.map Combinator.dual Bool.not Condition.negate

def CompiledPredicate.negate
    (p : CompiledPredicate) : CompiledPredicate :=
  ⟨p.fragments.map Fragment.negate⟩

@[simp] theorem Fragment.negate_condition
    (c : Condition) :
    negate (.condition c) = .condition c.negate := rfl

@[simp] theorem Fragment.negate_constant
    (value : Bool) :
    negate (.constant value) = .constant (!value) := rfl

/- Two counterparts between parentheses get the dual between. -/
theorem Scope.map_negate_combine
    (c : Combinator)
    (left right : List Fragment) :
    (Scope.combine c left right).map Fragment.negate =
      Scope.combine c.dual (left.map Fragment.negate)
        (right.map Fragment.negate) := by
  simp [Scope.combine, Fragment.negate, Fragment.map]

------------------------------------------------------------
-- Truth
------------------------------------------------------------

/- De Morgan's laws for both combinators. -/
theorem Combinator.truth_dual
    (c : Combinator)
    (t u : Truth) :
    c.dual.truth t.not u.not = (c.truth t u).not := by
  cases c with
  | and => exact (t.not_and u).symm
  | or => exact (t.not_or u).symm

/- Two decided operands are decided together. -/
theorem Combinator.truth_ne_unknown
    {t u : Truth}
    (c : Combinator)
    (hLeft : t ≠ .unknown)
    (hRight : u ≠ .unknown) :
    c.truth t u ≠ .unknown := by
  cases c <;> cases t <;> cases u <;>
    first | contradiction | exact nofun

theorem Condition.truth_negate
    (ν : Valuation)
    (c : Condition) :
    c.negate.truth ν = (c.truth ν).not :=
  SqlOperator.truth_negateIf _ c.op true

/-
  The counterpart of a formula is its negation in three-valued
  logic: it is unknown wherever the formula is.
-/
theorem Formula.truth_negate
    (ν : Valuation)
    (f : Formula) :
    f.negate.truth ν = (f.truth ν).not := by
  induction f with
  | constant value => exact Truth.ofBool_not value
  | condition c => exact c.truth_negate ν
  | combined c left right ihLeft ihRight =>
      change
        c.dual.truth (left.negate.truth ν)
          (right.negate.truth ν) = _
      rw [ihLeft, ihRight, c.truth_dual]
      rfl

/- A formula is decided if all of its conditions are. -/
theorem Formula.truth_ne_unknown
    {ν : Valuation}
    {f : Formula}
    (hDecided : ∀ c ∈ f.conditions, c.truth ν ≠ .unknown) :
    f.truth ν ≠ .unknown := by
  induction f with
  | constant value => cases value <;> nofun
  | condition c => exact hDecided c List.mem_cons_self
  | combined c left right ihLeft ihRight =>
      have hLeft := ihLeft fun c' hMem =>
        hDecided c' (List.mem_append_left _ hMem)
      have hRight := ihRight fun c' hMem =>
        hDecided c' (List.mem_append_right _ hMem)
      exact c.truth_ne_unknown hLeft hRight

------------------------------------------------------------
-- Compilation
------------------------------------------------------------

/- A refusal is the same whatever would come after it. -/
theorem Binding.map_refuse
    {α β : Type}
    (f : α → β)
    (cause : Unsupported) :
    f <$> Binding.refuse cause = Binding.refuse cause := rfl

namespace Scope

variable (scope : Scope)

/- A test of a column gets the counterpart of its operator. -/
theorem valueCondition_not
    (c : ColumnRef)
    (op : CompareOp)
    (v : Value)
    (negated : Bool) :
    scope.valueCondition c op v (!negated) =
      Fragment.negate <$> scope.valueCondition c op v negated := by
  cases hNull : v.isNull <;> cases op <;>
    simp [valueCondition, hNull, Condition.negate,
      SqlOperator.negateIf_not, Binding.refuse]

theorem comparison_not
    (left : Settled)
    (op : CompareOp)
    (right : Settled)
    (negated : Bool) :
    scope.comparison left op right (!negated) =
      Fragment.negate <$>
        scope.comparison left op right negated := by
  cases left <;> cases right <;>
    simp [comparison, valueCondition_not, Condition.negate,
      SqlOperator.negateIf_not, Binding.map_refuse]

theorem membership_not
    (column values : Settled)
    (negated : Bool) :
    scope.membership column values (!negated) =
      Fragment.negate <$>
        scope.membership column values negated := by
  have hListed (vs : List Value) :
      scope.membership column (.list vs) (!negated) =
        Fragment.negate <$>
          scope.membership column (.list vs) negated := by
    cases column with
    | column c =>
        cases vs <;>
          simp [membership, Condition.negate,
            SqlOperator.negateIf_not]
    | value v => simp [membership]
    | list ws => simp [membership, Binding.map_refuse]
  cases values with
  | list vs => exact hListed vs
  | value v => exact hListed [v]
  | column c => simp [membership, Binding.refuse]

theorem pattern_not
    (column : Settled)
    (kind : PatternKind)
    (value : Settled)
    (negated : Bool) :
    scope.pattern column kind value (!negated) =
      Fragment.negate <$>
        scope.pattern column kind value negated := by
  unfold pattern
  split
  · split <;>
      simp [Condition.negate, SqlOperator.negateIf_not,
        Binding.map_refuse]
  · exact (Binding.map_refuse _ _).symm

/-
  Under one more negation a predicate compiles to the
  counterparts of its fragments. The induction is on the
  predicate for both parities at once.
-/
theorem fragments_not
    (p : Predicate)
    (negated : Bool) :
    scope.fragments (!negated) p =
      List.map Fragment.negate <$> scope.fragments negated p := by
  induction p generalizing negated with
  | comparison left op right =>
      simp [fragments, comparison_not]
  | membership column values =>
      simp [fragments, membership_not]
  | pattern column kind value =>
      simp [fragments, pattern_not]
  | and left right ihLeft ihRight =>
      have hDual :
          (if (!negated) = true then Combinator.or else .and) =
            (if negated = true then Combinator.or else .and).dual := by
        cases negated <;> rfl
      simp only [fragments, ihLeft, ihRight, hDual, map_bind,
        map_pure, bind_map_left, map_negate_combine]
  | or left right ihLeft ihRight =>
      have hDual :
          (if (!negated) = true then Combinator.and else .or) =
            (if negated = true then Combinator.and else .or).dual := by
        cases negated <;> rfl
      simp only [fragments, ihLeft, ihRight, hDual, map_bind,
        map_pure, bind_map_left, map_negate_combine]
  | not inner ih => exact ih (!negated)
  | literal value => simp [fragments]

/- The negation of a predicate compiles to the counterpart. -/
theorem compile_not
    (p : Predicate) :
    scope.compile (.not p) =
      CompiledPredicate.negate <$> scope.compile p := by
  have hFragments := scope.fragments_not p false
  simp only [Bool.not_false] at hFragments
  simp only [compile, fragments, Bool.not_false, hFragments,
    map_bind, map_pure, bind_map_left, CompiledPredicate.negate]

end Scope

------------------------------------------------------------
-- Places in a predicate
------------------------------------------------------------

/- A predicate in which the place of one part is left open. -/
inductive Predicate.Context where
  | hole
  | not (inner : Context)
  | andLeft (inner : Context) (right : Predicate)
  | andRight (left : Predicate) (inner : Context)
  | orLeft (inner : Context) (right : Predicate)
  | orRight (left : Predicate) (inner : Context)

/- Put a predicate into the open place. -/
def Predicate.Context.fill : Context → Predicate → Predicate
  | .hole, p => p
  | .not inner, p => .not (inner.fill p)
  | .andLeft inner right, p => .and (inner.fill p) right
  | .andRight left inner, p => .and left (inner.fill p)
  | .orLeft inner right, p => .or (inner.fill p) right
  | .orRight left inner, p => .or left (inner.fill p)

namespace Scope

variable (scope : Scope)

/-
  What compiles alike under both parities does so at every
  place. Both are needed, as the place may be negated itself.
-/
theorem fragments_fill
    {p q : Predicate}
    (hSame :
      ∀ negated,
        scope.fragments negated p = scope.fragments negated q)
    (context : Predicate.Context)
    (negated : Bool) :
    scope.fragments negated (context.fill p) =
      scope.fragments negated (context.fill q) := by
  induction context generalizing negated with
  | hole => exact hSame negated
  | not inner ih => exact ih (!negated)
  | andLeft inner right ih | orLeft inner right ih =>
      simp only [Predicate.Context.fill, fragments, ih]
  | andRight left inner ih | orRight left inner ih =>
      simp only [Predicate.Context.fill, fragments, ih]

/- Two negations give the parity back that they were met with. -/
theorem fragments_not_not
    (p : Predicate)
    (negated : Bool) :
    scope.fragments negated (.not (.not p)) =
      scope.fragments negated p := by
  rw [fragments, fragments, Bool.not_not]

/- An even number of negations leaves no trace. -/
theorem fragments_repeat_not
    (p : Predicate)
    (count : Nat)
    (negated : Bool) :
    scope.fragments negated ((2 * count).repeat .not p) =
      scope.fragments negated p := by
  induction count with
  | zero => rfl
  | succ count ih =>
      exact (scope.fragments_not_not _ negated).trans ih

/-
  The negation of a predicate compiles if the predicate does,
  to the counterparts of its fragments, and with the same error
  otherwise; in both cases it leaves the same parameters. An
  even number of negations at any place of a predicate compiles
  to what the predicate without them does.
-/
theorem compile_turns_and_cancels_not
    (p : Predicate)
    (s : ParameterSet) :
    (scope.compile (.not p)).run.run s =
        (match (scope.compile p).run.run s with
        | (.ok compiled, s') => (.ok compiled.negate, s')
        | (.error cause, s') => (.error cause, s')) ∧
      ∀ (context : Predicate.Context) (count : Nat),
        (scope.compile
            (context.fill ((2 * count).repeat .not p))).run.run s =
          (scope.compile (context.fill p)).run.run s := by
  constructor
  · rw [scope.compile_not, ← bind_pure_comp]
    rcases hRun : (scope.compile p).run.run s with
      ⟨cause | compiled, s'⟩
    · exact Binding.run_bind_of_error _ hRun
    · exact Binding.run_bind_of_ok _ hRun
  · intro context count
    unfold compile
    rw [scope.fragments_fill (scope.fragments_repeat_not p count)]

end Scope

end EntitySql
