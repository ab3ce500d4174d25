import EntitySql.Predicate.Compile
import EntitySql.Proofs.Value.Equality

/-
  This file says what comparisons of constants are folded to,
  for constants that are NULL or of one ordered kind.

  Key definitions include:
    * `Value.Comparable`

  Key theorems include:
    * `Value.exists_compare`
    * `Value.sameConstant_of_comparable`
    * `Value.foldComparison_of_comparable`
    * `Value.foldComparison_null_iff`
    * `Value.foldComparison_swapped`

  Floats are left out: NaN is not equal to itself, and the two
  zeros are equal though they are not the same.
-/

namespace EntitySql

namespace Value

------------------------------------------------------------
-- Comparable values
------------------------------------------------------------

/- One of the values is NULL, or both are of one ordered kind. -/
def Comparable
    (a b : Value) : Prop :=
  a ≠ .null → b ≠ .null → a.kind = b.kind ∧ a.kind ≠ .float

instance
    (a b : Value) :
    Decidable (a.Comparable b) :=
  inferInstanceAs (Decidable (_ → _))

theorem Comparable.symm
    {a b : Value}
    (hComparable : a.Comparable b) :
    b.Comparable a := by
  intro hRight hLeft
  rcases hComparable hLeft hRight with ⟨hKind, hFloat⟩
  exact ⟨hKind.symm, hKind ▸ hFloat⟩

@[simp] theorem compare_null_left
    (v : Value) :
    Value.null.compare v = none := rfl

@[simp] theorem compare_null_right
    (v : Value) :
    v.compare .null = none := by
  cases v <;> rfl

/- A lawful order, swapped and where it finds the same. -/
theorem ord_compare_swap_and_eq_iff
    {α : Type}
    [Ord α] [Std.OrientedOrd α] [Std.LawfulEqOrd α]
    (a b : α) :
    Ord.compare b a = (Ord.compare a b).swap ∧
      (Ord.compare a b = .eq ↔ a = b) :=
  ⟨Std.OrientedCmp.eq_swap, Std.LawfulEqCmp.compare_eq_iff_eq⟩

/-
  Two values of one ordered kind have an order, which turns
  around with them and is that of equals for equal values only.
-/
theorem exists_compare
    {a b : Value}
    (hKind : a.kind = b.kind)
    (hFloat : a.kind ≠ .float)
    (hNull : a ≠ .null) :
    ∃ order, a.compare b = some order ∧
      b.compare a = some order.swap ∧ (order = .eq ↔ a = b) := by
  cases a with
  | null => exact absurd rfl hNull
  | float x => exact absurd rfl hFloat
  | bool p =>
      cases b <;> cases hKind
      rename_i q
      rcases ord_compare_swap_and_eq_iff p q with ⟨hSwap, hSame⟩
      exact ⟨_, rfl, congrArg some hSwap,
        hSame.trans ⟨congrArg Value.bool, Value.bool.inj⟩⟩
  | int m =>
      cases b <;> cases hKind
      rename_i n
      rcases ord_compare_swap_and_eq_iff m.toInt n.toInt with
        ⟨hSwap, hSame⟩
      rw [Int64.toInt_inj] at hSame
      exact ⟨_, rfl, congrArg some hSwap,
        hSame.trans ⟨congrArg Value.int, Value.int.inj⟩⟩
  | text s =>
      cases b <;> cases hKind
      rename_i t
      rcases ord_compare_swap_and_eq_iff s t with ⟨hSwap, hSame⟩
      exact ⟨_, rfl, congrArg some hSwap,
        hSame.trans ⟨congrArg Value.text, Value.text.inj⟩⟩
  | blob as =>
      cases b <;> cases hKind
      rename_i bs
      rcases ord_compare_swap_and_eq_iff as bs with ⟨hSwap, hSame⟩
      exact ⟨_, rfl, congrArg some hSwap,
        hSame.trans ⟨congrArg Value.blob, Value.blob.inj⟩⟩

------------------------------------------------------------
-- Folding
------------------------------------------------------------

/- Comparable constants are the same if they are equal. -/
theorem sameConstant_of_comparable
    {a b : Value}
    (hComparable : a.Comparable b) :
    a.sameConstant b = decide (a = b) := by
  unfold sameConstant
  by_cases hLeft : a = .null
  · rw [hLeft]
    cases b <;> simp [equal]
  · by_cases hRight : b = .null
    · rw [hRight]
      cases a <;> simp [equal] at hLeft ⊢
    · rcases hComparable hLeft hRight with ⟨hKind, hFloat⟩
      rcases exists_compare hKind hFloat hLeft with
        ⟨order, hOrder, _, hSame⟩
      by_cases hEqual : a = b
      · rw [hOrder, hSame.mpr hEqual, decide_eq_true hEqual]
        rfl
      · have hDiffers : a.equal b = false := by
          rw [Bool.eq_false_iff]
          intro hAlike
          rcases eq_or_floats_of_equal hAlike with
            hSame | ⟨x, _, rfl, _, _⟩
          · exact hEqual hSame
          · exact hFloat rfl
        simp [hOrder, hDiffers, hSame, hEqual]

/- Two values of one ordered kind are compared by their order. -/
theorem foldComparison_of_comparable
    {a b : Value}
    {order : Ordering}
    (op : CompareOp)
    (hComparable : a.Comparable b)
    (hOrder : a.compare b = some order)
    (hSame : order = .eq ↔ a = b) :
    a.foldComparison op b = .ok (op.holds order) := by
  have hConstants : a.sameConstant b = (order == .eq) := by
    rw [sameConstant_of_comparable hComparable, Bool.eq_iff_iff]
    simp [hSame]
  cases op <;>
    simp [foldComparison, hConstants, hOrder, CompareOp.holds, bne]

/- NULL is compared for equality only, and equals itself. -/
theorem foldComparison_null_iff
    {a b : Value}
    {op : CompareOp}
    {holds : Bool}
    (hNull : a = .null ∨ b = .null) :
    a.foldComparison op b = .ok holds ↔
      op = .eq ∧ holds = decide (a = b) ∨
        op = .ne ∧ holds = !decide (a = b) := by
  have hComparable : a.Comparable b := by
    intro hLeft hRight
    rcases hNull with hNull | hNull
    · exact absurd hNull hLeft
    · exact absurd hNull hRight
  have hNone : a.compare b = none := by
    rcases hNull with rfl | rfl <;> simp
  cases op <;>
    simp [foldComparison, sameConstant_of_comparable hComparable,
      hNone, eq_comm]

/- With the sides swapped the mirrored operator holds. -/
theorem foldComparison_swapped
    {a b : Value}
    {op : CompareOp}
    {holds : Bool}
    (hComparable : a.Comparable b)
    (hFold : a.foldComparison op b = .ok holds) :
    b.foldComparison op.swapped a = .ok holds := by
  by_cases hNull : a = .null ∨ b = .null
  · rw [foldComparison_null_iff hNull] at hFold
    rw [foldComparison_null_iff hNull.symm]
    rcases hFold with ⟨rfl, rfl⟩ | ⟨rfl, rfl⟩
    · exact Or.inl ⟨rfl, by simp [eq_comm]⟩
    · exact Or.inr ⟨rfl, by simp [eq_comm]⟩
  · rw [not_or] at hNull
    rcases hComparable hNull.1 hNull.2 with ⟨hKind, hFloat⟩
    rcases exists_compare hKind hFloat hNull.1 with
      ⟨order, hOrder, hSwap, hSame⟩
    rw [foldComparison_of_comparable op hComparable hOrder hSame]
      at hFold
    have hSwapSame : order.swap = .eq ↔ b = a := by
      rw [Ordering.swap_eq_eq, hSame, eq_comm]
    rw [foldComparison_of_comparable op.swapped hComparable.symm
      hSwap hSwapSame, ← hFold]
    cases op <;> cases order <;> rfl

end Value

end EntitySql
