import EntitySql.Proofs.Predicate.Constants
import EntitySql.Proofs.Predicate.RowTests
import EntitySql.Proofs.Value.ByteOrder

/-
  A test on constants is folded to what a database says of
  the same test on a column, unless the database says that it
  is unknown: folding knows no third truth value.

  Key definitions include:
    * `ValueTests.OrdersKinds`
    * `ConstantTest`, `ConstantTest.of`
    * `ConstantTest.IsOpen`, `ConstantTest.openFold`

  Key theorems include:
    * `ValueTests.OrdersKinds.compare_eq`
    * `ConstantTest.truth?_column`
    * `Scope.folded_test_agrees_iff`
-/

namespace EntitySql

------------------------------------------------------------
-- Databases that order the kinds of values
------------------------------------------------------------

namespace ValueTests

/-
  A database orders truth values as 0 and 1, integers as
  numbers, texts by their bytes in UTF-8, and bytes one after
  the other.
-/
structure OrdersKinds
    (κ : ValueTests) : Prop where
  bools : ∀ p q,
    κ.compare (.bool p) (.bool q) =
      some (Ord.compare p.toNat q.toNat)
  ints : ∀ m n,
    κ.compare (.int m) (.int n) =
      some (Ord.compare m.toInt n.toInt)
  texts : ∀ s t,
    κ.compare (.text s) (.text t) =
      some (compareBytes (utf8Bytes s) (utf8Bytes t))
  blobs : ∀ as bs,
    κ.compare (.blob as) (.blob bs) = some (compareBytes as bs)

/- The tests that compare values as constants are compared. -/
def ofConstants : ValueTests :=
  ⟨Value.compare, fun _ _ => .unknown⟩

theorem ofConstants_ordersKinds :
    ofConstants.OrdersKinds where
  bools p q := by cases p <;> cases q <;> rfl
  ints _ _ := rfl
  texts s t := congrArg some (compareBytes_utf8Bytes s t).symm
  blobs as bs := congrArg some (compareBytes_eq_compare as bs).symm

variable {κ : ValueTests}
variable {a b : Value}

/- It orders values of one kind as constants are ordered. -/
theorem OrdersKinds.compare_eq
    (hOrders : κ.OrdersKinds)
    (hKind : a.kind = b.kind)
    (hFloat : a.kind ≠ .float)
    (hNull : a ≠ .null) :
    κ.compare a b = a.compare b := by
  have hConstants := ofConstants_ordersKinds
  cases a with
  | null => exact absurd rfl hNull
  | float x => exact absurd rfl hFloat
  | bool p =>
      cases b <;> cases hKind
      exact (hOrders.bools _ _).trans (hConstants.bools _ _).symm
  | int m =>
      cases b <;> cases hKind
      exact (hOrders.ints _ _).trans (hConstants.ints _ _).symm
  | text s =>
      cases b <;> cases hKind
      exact (hOrders.texts _ _).trans (hConstants.texts _ _).symm
  | blob as =>
      cases b <;> cases hKind
      exact (hOrders.blobs _ _).trans (hConstants.blobs _ _).symm

/- A fold of two values of one kind is what the database says. -/
theorem OrdersKinds.truth_of_fold
    {op : CompareOp}
    {holds : Bool}
    (hOrders : κ.OrdersKinds)
    (hComparable : a.Comparable b)
    (hLeft : a ≠ .null)
    (hRight : b ≠ .null)
    (hFold : a.foldComparison op b = .ok holds) :
    κ.truth op a b = .ofBool holds := by
  rcases hComparable hLeft hRight with ⟨hKind, hFloat⟩
  rcases Value.exists_compare hKind hFloat hLeft with
    ⟨order, hOrder, _, hSame⟩
  rw [Value.foldComparison_of_comparable op hComparable hOrder
    hSame] at hFold
  cases hFold
  exact κ.truth_of_compare op
    (Value.isNull_eq_false_iff.mpr hLeft)
    (Value.isNull_eq_false_iff.mpr hRight)
    ((hOrders.compare_eq hKind hFloat hLeft).trans hOrder)

/- Equality is that of the values. -/
theorem OrdersKinds.truth_eq
    (hOrders : κ.OrdersKinds)
    (hComparable : a.Comparable b)
    (hLeft : a ≠ .null)
    (hRight : b ≠ .null) :
    κ.truth .eq a b = .ofBool (decide (a = b)) := by
  rw [← Value.sameConstant_of_comparable hComparable]
  exact hOrders.truth_of_fold hComparable hLeft hRight rfl

end ValueTests

------------------------------------------------------------
-- Tests against constants
------------------------------------------------------------

/-
  A test of one operand against constants: a comparison with
  the operand on the left or on the right, or a membership.
-/
inductive ConstantTest where
  | compared (op : CompareOp) (v : Value)
  | mirrored (v : Value) (op : CompareOp)
  | listed (vs : List Value)
  deriving DecidableEq, Repr

namespace ConstantTest

/- The test of an operand. -/
def of
    (test : ConstantTest)
    (operand : Operand) : Predicate :=
  match test with
  | .compared op v => .comparison operand op (.literal v)
  | .mirrored v op => .comparison (.literal v) op operand
  | .listed vs => .membership operand (.list vs)

def constants : ConstantTest → List Value
  | .compared _ v | .mirrored v _ => [v]
  | .listed vs => vs

/-
  A database leaves the test of a value open: it compares NULL
  with a value, looks for NULL in a list that is not empty, or
  finds NULL but not the value in the list.
-/
def IsOpen
    (test : ConstantTest)
    (x : Value) : Prop :=
  match test with
  | .compared _ v | .mirrored v _ => x = .null ∧ v ≠ .null
  | .listed vs => vs ≠ [] ∧ (x = .null ∨ .null ∈ vs ∧ x ∉ vs)

instance
    (test : ConstantTest)
    (x : Value) :
    Decidable (test.IsOpen x) := by
  unfold IsOpen
  split <;> infer_instance

/- What the test of a constant is folded to, if it is. -/
def fold?
    (test : ConstantTest)
    (x : Value) : Option Bool :=
  match test with
  | .compared op v => (x.foldComparison op v).toOption
  | .mirrored v op => (v.foldComparison op x).toOption
  | .listed vs => some (vs.any x.sameConstant)

/- What an open test is folded to. -/
def openFold
    (test : ConstantTest)
    (x : Value) : Bool :=
  match test with
  | .compared op _ | .mirrored _ op => op == .ne
  | .listed vs => decide (x ∈ vs)

/- What a database says of a test that is folded to a constant. -/
def truthOf
    (test : ConstantTest)
    (x : Value)
    (folded : Bool) : Truth :=
  if test.IsOpen x then .unknown else .ofBool folded

theorem truthOf_of_open
    {test : ConstantTest}
    {x : Value}
    (folded : Bool)
    (hOpen : test.IsOpen x) :
    test.truthOf x folded = .unknown :=
  if_pos hOpen

theorem truthOf_of_closed
    {test : ConstantTest}
    {x : Value}
    (folded : Bool)
    (hClosed : ¬ test.IsOpen x) :
    test.truthOf x folded = .ofBool folded :=
  if_neg hClosed

variable {κ : ValueTests}
variable {scope : Scope}
variable {c : ColumnRef}
variable {e : ColumnExpr}
variable {row : ColumnExpr → Value}
variable {holds : Bool}

------------------------------------------------------------
-- Comparisons
------------------------------------------------------------

/- Beside NULL only the test for inequality is folded to true. -/
theorem eq_openFold_of_fold
    {x v : Value}
    {op : CompareOp}
    (hFold : x.foldComparison op v = .ok holds)
    (hOpen : (compared op v).IsOpen x) :
    holds = (op == .ne) := by
  rcases hOpen with ⟨rfl, hRight⟩
  have hDiffers : ¬ Value.null = v := fun hSame => hRight hSame.symm
  rw [Value.foldComparison_null_iff (Or.inl rfl)] at hFold
  rcases hFold with ⟨rfl, rfl⟩ | ⟨rfl, rfl⟩ <;> simp [hDiffers]

/- The absence of a value is tested as it is folded. -/
theorem nullTruth?_of_fold
    {x : Value}
    {op : CompareOp}
    (hFold : x.foldComparison op .null = .ok holds) :
    (op.nullTruth? fun _ => .ofBool x.isNull) =
      some (.ofBool holds) := by
  have hNull : x.isNull = decide (x = .null) := by
    rw [Bool.eq_iff_iff, Value.isNull_eq_true_iff,
      decide_eq_true_iff]
  rw [Value.foldComparison_null_iff (Or.inr rfl), ← hNull] at hFold
  rcases hFold with ⟨rfl, rfl⟩ | ⟨rfl, rfl⟩
  · rfl
  · exact congrArg some (Truth.ofBool_not _).symm

/- A comparison with the column on the left. -/
theorem constantTruth?_of_fold
    {op : CompareOp}
    {v : Value}
    (hColumn : scope.column c = .ok e)
    (hOrders : κ.OrdersKinds)
    (hComparable : (row e).Comparable v)
    (hFold : (row e).foldComparison op v = .ok holds) :
    scope.constantTruth? (κ.onRow row) op c v =
      some ((compared op v).truthOf (row e) holds) := by
  rw [Scope.constantTruth?_onRow hColumn]
  by_cases hRight : v = .null
  · subst hRight
    have hClosed : ¬ (compared op .null).IsOpen (row e) :=
      fun hOpen => hOpen.2 rfl
    rw [if_pos (by rfl), nullTruth?_of_fold hFold,
      truthOf_of_closed holds hClosed]
  · rw [if_neg (by rwa [Value.isNull_eq_true_iff])]
    by_cases hLeft : row e = .null
    · have hOpen : (compared op v).IsOpen (row e) :=
        ⟨hLeft, hRight⟩
      rw [truthOf_of_open holds hOpen,
        κ.truth_of_null op
          (Or.inl (Value.isNull_eq_true_iff.mpr hLeft))]
    · have hClosed : ¬ (compared op v).IsOpen (row e) :=
        fun hOpen => hLeft hOpen.1
      rw [truthOf_of_closed holds hClosed,
        hOrders.truth_of_fold hComparable hLeft hRight hFold]

------------------------------------------------------------
-- Memberships
------------------------------------------------------------

/- A value that a listed one equals for sure is listed. -/
theorem mem_of_any_truth_holds
    {x : Value}
    {vs : List Value}
    (hOrders : κ.OrdersKinds)
    (hComparable : ∀ v ∈ vs, x.Comparable v)
    (hHolds : .any (vs.map (κ.truth .eq x)) = Truth.holds) :
    x ∈ vs := by
  rw [Truth.any_eq_holds_iff, List.mem_map] at hHolds
  rcases hHolds with ⟨v, hMem, hTrue⟩
  by_cases hNull : x.isNull = true ∨ v.isNull = true
  · rw [κ.truth_of_null .eq hNull] at hTrue
    cases hTrue
  · rw [not_or, Value.isNull_eq_true_iff,
      Value.isNull_eq_true_iff] at hNull
    rw [hOrders.truth_eq (hComparable v hMem) hNull.1 hNull.2]
      at hTrue
    by_cases hSame : x = v
    · rwa [hSame]
    · rw [decide_eq_false hSame] at hTrue
      cases hTrue

/- The truth of a membership is what it is folded to. -/
theorem any_truth_eq_truthOf
    {x : Value}
    {vs : List Value}
    (hOrders : κ.OrdersKinds)
    (hComparable : ∀ v ∈ vs, x.Comparable v) :
    .any (vs.map (κ.truth .eq x)) =
      (listed vs).truthOf x (decide (x ∈ vs)) := by
  by_cases hOpen : (listed vs).IsOpen x
  · rw [truthOf_of_open _ hOpen]
    rcases hOpen with ⟨hListed, rfl | ⟨hNull, hAbsent⟩⟩
    · exact κ.any_truth_of_null rfl hListed
    · cases hAny : Truth.any (vs.map (κ.truth .eq x)) with
      | unknown => rfl
      | fails => exact absurd hAny (κ.any_truth_ne_fails hNull)
      | holds =>
          exact absurd
            (mem_of_any_truth_holds hOrders hComparable hAny)
            hAbsent
  · rw [truthOf_of_closed _ hOpen]
    by_cases hListed : vs = []
    · rw [hListed]
      rfl
    · -- NULL may be listed only if the value itself is listed.
      have hValue : x ≠ .null :=
        fun hNull => hOpen ⟨hListed, Or.inl hNull⟩
      by_cases hMem : x ∈ vs
      · rw [decide_eq_true hMem, Truth.ofBool,
          Truth.any_eq_holds_iff, List.mem_map]
        refine ⟨x, hMem, ?_⟩
        rw [hOrders.truth_eq (hComparable x hMem) hValue hValue,
          decide_eq_true rfl]
        rfl
      · rw [decide_eq_false hMem, Truth.ofBool,
          Truth.any_eq_fails_iff, List.forall_mem_map]
        intro v hListed'
        have hElement : v ≠ .null := by
          rintro rfl
          exact hOpen ⟨hListed, Or.inr ⟨hListed', hMem⟩⟩
        have hDiffers : x ≠ v := by
          rintro rfl
          exact hMem hListed'
        rw [hOrders.truth_eq (hComparable v hListed') hValue
          hElement, decide_eq_false hDiffers]
        rfl

/- Looking for a comparable constant is membership. -/
theorem any_sameConstant
    {x : Value}
    {vs : List Value}
    (hComparable : ∀ v ∈ vs, x.Comparable v) :
    vs.any x.sameConstant = decide (x ∈ vs) := by
  rw [Bool.eq_iff_iff, List.any_eq_true, decide_eq_true_iff]
  constructor
  · rintro ⟨v, hMem, hSame⟩
    rw [Value.sameConstant_of_comparable (hComparable v hMem),
      decide_eq_true_iff] at hSame
    rwa [hSame]
  · intro hMem
    refine ⟨x, hMem, ?_⟩
    rw [Value.sameConstant_of_comparable (hComparable x hMem),
      decide_eq_true_iff]

------------------------------------------------------------
-- All tests
------------------------------------------------------------

/- The test of a constant is as true as it is folded to. -/
theorem truth?_literal
    (test : ConstantTest)
    (x : Value)
    (ν : Valuation) :
    (test.of (.literal x)).truth? scope ν =
      (test.fold? x).map .ofBool := by
  cases test with
  | compared op v =>
      simp [of, fold?, Predicate.truth?, Operand.settled,
        Settled.comparisonTruth?]
  | mirrored v op =>
      simp [of, fold?, Predicate.truth?, Operand.settled,
        Settled.comparisonTruth?]
  | listed vs => rfl

/-
  On a row that holds the value, a test of a column has the
  truth that the database gives the folded test of the value.
-/
theorem truth?_column
    {test : ConstantTest}
    (hColumn : scope.column c = .ok e)
    (hOrders : κ.OrdersKinds)
    (hComparable : ∀ v ∈ test.constants, (row e).Comparable v)
    (hFold : test.fold? (row e) = some holds) :
    (test.of (.column c)).truth? scope (κ.onRow row) =
        some (test.truthOf (row e) holds) ∧
      (test.IsOpen (row e) → holds = test.openFold (row e)) := by
  have hOk {result : Except MappingError Bool}
      (hSome : result.toOption = some holds) :
      result = .ok holds := by
    cases result with
    | error cause => cases hSome
    | ok found => exact congrArg Except.ok (Option.some.inj hSome)
  cases test with
  | compared op v =>
      have hFolded := hOk hFold
      have hValue := hComparable v List.mem_cons_self
      refine ⟨?_, eq_openFold_of_fold hFolded⟩
      exact (Scope.comparisonTruth?_column_value _ op c v).trans
        (constantTruth?_of_fold hColumn hOrders hValue hFolded)
  | mirrored v op =>
      have hValue := hComparable v List.mem_cons_self
      have hFolded :=
        Value.foldComparison_swapped hValue.symm (hOk hFold)
      have hSwapped : (op.swapped == .ne) = (op == .ne) := by
        cases op <;> rfl
      constructor
      · exact (Scope.comparisonTruth?_value_column _ op c v).trans
          (constantTruth?_of_fold hColumn hOrders hValue hFolded)
      · intro hOpen
        exact (eq_openFold_of_fold hFolded hOpen).trans hSwapped
  | listed vs =>
      change ∀ v ∈ vs, (row e).Comparable v at hComparable
      have hMember : vs.any (row e).sameConstant = holds :=
        Option.some.inj hFold
      rw [any_sameConstant hComparable] at hMember
      refine ⟨?_, fun _ => hMember.symm⟩
      rw [← hMember, ← any_truth_eq_truthOf hOrders hComparable]
      exact Scope.membershipTruth?_onRow hColumn κ row vs

end ConstantTest

------------------------------------------------------------
-- Compiled tests
------------------------------------------------------------

/- Many negations have the parity of their number. -/
theorem Predicate.truth?_repeat_not
    (p : Predicate)
    (count : Nat)
    (scope : Scope)
    (ν : Valuation) :
    (count.repeat Predicate.not p).truth? scope ν =
      (p.truth? scope ν).map
        (·.negateIf (count % 2 == 1)) := by
  induction count with
  | zero => simp [Nat.repeat]
  | succ count ih =>
      have hParity :
          ((count + 1) % 2 == 1) = !(count % 2 == 1) := by
        rcases Nat.mod_two_eq_zero_or_one count with hEven | hOdd
        · simp [Nat.add_mod, hEven]
        · simp [Nat.add_mod, hOdd]
      rw [Nat.repeat, Predicate.truth?, ih, Option.map_map,
        hParity]
      congr 1
      funext t
      cases (count % 2 == 1) <;> simp

/- A truth that is left open stays so under a negation. -/
theorem ConstantTest.truthOf_negateIf
    (test : ConstantTest)
    (x : Value)
    (folded negated : Bool) :
    (test.truthOf x folded).negateIf negated =
      test.truthOf x (folded != negated) := by
  unfold truthOf
  split
  · cases negated <;> rfl
  · exact (Truth.ofBool_bne folded negated).symm

namespace Scope

/-
  Where a test of a constant, under any number of negations,
  is folded to a constant, the test of a column compiles under
  the same negations. On every row that holds the constant its
  truth is unknown if the test is open, and what is folded
  otherwise. So folding to true and being true agree unless an
  open test is folded to true. An open test is folded to true
  if it asks for inequality, or for a value that is listed,
  under an even number of negations, and if it does not under
  an odd number.
-/
theorem folded_test_agrees_iff
    (scope : Scope)
    (c : ColumnRef)
    (e : ColumnExpr)
    (test : ConstantTest)
    (count : Nat)
    (x : Value)
    (folded : Bool)
    (s s' : ParameterSet)
    (hColumn : scope.column c = .ok e)
    (hComparable : ∀ v ∈ test.constants, x.Comparable v)
    (hFolds :
      (scope.compile
          (count.repeat .not (test.of (.literal x)))).Yields
        s ⟨[.constant folded]⟩ s') :
    ∃ compiled t,
      (scope.compile
          (count.repeat .not (test.of (.column c)))).Yields
        s compiled t ∧
      (∀ (κ : ValueTests) (row : ColumnExpr → Value),
        κ.OrdersKinds → row e = x →
          ∃ truth, compiled.HasTruth (κ.onRow row) truth ∧
            (truth = .unknown ↔ test.IsOpen x) ∧
            (truth ≠ .unknown → truth = .ofBool folded) ∧
            ((folded = true ↔ truth = .holds) ↔
              ¬ (test.IsOpen x ∧ folded = true))) ∧
      (test.IsOpen x →
        folded = (test.openFold x != (count % 2 == 1))) := by
  generalize hParity : (count % 2 == 1) = odd
  -- What is folded without the negations.
  have hFold : test.fold? x = some (folded != odd) := by
    have hTruth :=
      truth?_of_compile hFolds
        (CompiledPredicate.hasTruth_constant folded fun _ => .unknown)
    rw [Predicate.truth?_repeat_not, test.truth?_literal, hParity,
      Option.map_map, Option.map_eq_some_iff] at hTruth
    rcases hTruth with ⟨holds, hHolds, hSame⟩
    rw [Function.comp_apply, ← Truth.ofBool_bne,
      Truth.ofBool_inj] at hSame
    rw [hHolds, ← hSame]
    cases holds <;> cases odd <;> rfl
  have hRow
      (κ : ValueTests)
      (row : ColumnExpr → Value)
      (hOrders : κ.OrdersKinds)
      (hHolds : row e = x) :
      (count.repeat Predicate.not
          (test.of (.column c))).truth? scope (κ.onRow row) =
        some (test.truthOf x folded) ∧
      (test.IsOpen x → (folded != odd) = test.openFold x) := by
    subst hHolds
    rcases ConstantTest.truth?_column hColumn hOrders hComparable
      hFold with ⟨hTruth, hOpen⟩
    refine ⟨?_, hOpen⟩
    rw [Predicate.truth?_repeat_not, hTruth, hParity,
      Option.map_some, test.truthOf_negateIf]
    cases folded <;> cases odd <;> rfl
  have hConstants :=
    hRow .ofConstants (fun _ => x)
      ValueTests.ofConstants_ordersKinds rfl
  rcases exists_compile hConstants.1 s with
    ⟨compiled, t, hYields, hCompiled⟩
  refine ⟨compiled, t, hYields, ?_, ?_⟩
  · intro κ row hOrders hHolds
    have hTruth :=
      hCompiled _ _ (hRow κ row hOrders hHolds).1
    refine ⟨test.truthOf x folded, hTruth, ?_⟩
    unfold ConstantTest.truthOf
    by_cases hOpen : test.IsOpen x
    · simp [hOpen]
    · cases folded <;> simp [hOpen, Truth.ofBool]
  · intro hOpen
    rw [← hConstants.2 hOpen]
    cases folded <;> cases odd <;> rfl

end Scope

namespace FoldedRatings

def blog : EntityKey :=
  ⟨0, "Blog"⟩

def rating : ColumnRef :=
  { entity := blog, column := "rating" }

/-
  NOT (5 IN (1, NULL, 5)) is folded to false, and a rating of
  5 is not outside of that list in any database.
-/
theorem five_is_not_unlisted :
    let test : ConstantTest := .listed [.int 1, .null, .int 5]
    (Scope.table blog).column rating = .ok (.bare "rating") ∧
      (∀ v ∈ test.constants, (Value.int 5).Comparable v) ∧
      ((Scope.table blog).compile
          (Nat.repeat .not 1 (test.of (.literal (.int 5))))).Yields
        .empty ⟨[.constant false]⟩ .empty ∧
      ∃ compiled t,
        ((Scope.table blog).compile
            (Nat.repeat .not 1 (test.of (.column rating)))).Yields
          .empty compiled t ∧
        ∀ (κ : ValueTests) (row : ColumnExpr → Value),
          κ.OrdersKinds → row (.bare "rating") = .int 5 →
            compiled.HasTruth (κ.onRow row) .fails := by
  intro test
  have hColumn :
      (Scope.table blog).column rating = .ok (.bare "rating") :=
    rfl
  have hComparable :
      ∀ v ∈ test.constants, (Value.int 5).Comparable v := by
    decide
  have hFolds :
      ((Scope.table blog).compile
          (Nat.repeat .not 1 (test.of (.literal (.int 5))))).Yields
        .empty ⟨[.constant false]⟩ .empty :=
    rfl
  refine ⟨hColumn, hComparable, hFolds, ?_⟩
  rcases Scope.folded_test_agrees_iff (.table blog) rating
      (.bare "rating") test 1 (.int 5) false .empty .empty hColumn
      hComparable hFolds with
    ⟨compiled, t, hYields, hRows, _⟩
  refine ⟨compiled, t, hYields, ?_⟩
  intro κ row hOrders hHolds
  rcases hRows κ row hOrders hHolds with
    ⟨truth, hTruth, hOpen, hClosed, _⟩
  have hDecided : truth ≠ .unknown := by
    rw [Ne, hOpen]
    decide
  rw [hClosed hDecided] at hTruth
  exact hTruth

/-
  NULL is taken to differ from 5, but a rating that is NULL
  does not do so in any database.
-/
theorem null_differs_in_constants_only :
    let test : ConstantTest := .compared .ne (.int 5)
    let differs : CompiledPredicate :=
      ⟨[.condition
        ⟨"rating", .bare "rating", .ne,
          .parameter ⟨"rating", .int 5⟩⟩]⟩
    ((Scope.table blog).compile (test.of (.literal .null))).Yields
        .empty ⟨[.constant true]⟩ .empty ∧
      ((Scope.table blog).compile (test.of (.column rating))).Yields
        .empty differs ⟨[⟨"rating", .int 5⟩]⟩ ∧
      ∀ κ : ValueTests,
        differs.HasTruth (κ.onRow fun _ => .null) .unknown := by
  intro test differs
  refine ⟨rfl, rfl, ?_⟩
  intro κ
  exact ⟨_, .condition _, rfl⟩

end FoldedRatings

end EntitySql
