import Mathlib
import EntitySql.Value.Field

/-
  Equal values read as equal fields. The only equal values
  that differ are the two zeros among the floats.

  Key definitions include:
    * `FieldValue.equal`, `FieldValue.Alike`

  Key theorems include:
    * `Double.eq_or_zeros_of_equal`
    * `Value.equal_symm`, `Value.equal_trans`
    * `Value.equal_refl`, `Value.compare_self`
    * `FieldType.read_of_equal`
-/

namespace EntitySql

------------------------------------------------------------
-- Floats
------------------------------------------------------------

namespace Double

/- Equal numbers are the same, unless they are zeros. -/
theorem eq_or_zeros_of_equal
    {x y : Double}
    (hEqual : x.equal y = true) :
    x = y ∨ (x.magnitude = 0 ∧ y.magnitude = 0) := by
  unfold equal compare at hEqual
  split at hEqual
  · cases hEqual
  · have hKeys : x.orderKey = y.orderKey := by
      simpa using hEqual
    rcases x with ⟨a⟩
    rcases y with ⟨b⟩
    have ha := a.toNat_lt
    have hb := b.toNat_lt
    by_cases hSame : a.toNat = b.toNat
    · exact Or.inl (congrArg Double.mk (UInt64.toNat_inj.mp hSame))
    · right
      simp only [orderKey, negative, magnitude, decide_eq_true_eq]
        at hKeys ⊢
      omega

/- Equal numbers are numbers, and have one place in the order. -/
theorem equal_iff
    {x y : Double} :
    x.equal y = true ↔
      x.isNaN = false ∧ y.isNaN = false ∧
        x.orderKey = y.orderKey := by
  unfold equal compare
  cases x.isNaN <;> cases y.isNaN <;> simp

theorem toSinglePrecision_of_zero
    {x : Double}
    (hZero : x.magnitude = 0) :
    x.toSinglePrecision = x := by
  have hSignificand : x.significand = 0 := by
    simp [significand, hZero]
  simp [toSinglePrecision, hSignificand]

/- Rounding keeps equal numbers equal, or the same. -/
theorem toSinglePrecision_of_equal
    {x y : Double}
    (hEqual : x.equal y = true) :
    x.toSinglePrecision = y.toSinglePrecision ∨
      x.toSinglePrecision.equal y.toSinglePrecision = true := by
  rcases eq_or_zeros_of_equal hEqual with rfl | ⟨hx, hy⟩
  · exact Or.inl rfl
  · rw [toSinglePrecision_of_zero hx, toSinglePrecision_of_zero hy]
    exact Or.inr hEqual

end Double

------------------------------------------------------------
-- Values
------------------------------------------------------------

namespace Value

theorem isNull_eq_true_iff
    {v : Value} :
    v.isNull = true ↔ v = .null := by
  cases v <;> simp [isNull]

theorem isNull_eq_false_iff
    {v : Value} :
    v.isNull = false ↔ v ≠ .null := by
  cases v <;> simp [isNull]

theorem eq_or_floats_of_equal
    {v w : Value}
    (hEqual : v.equal w = true) :
    v = w ∨
      ∃ x y, v = .float x ∧ w = .float y ∧ x.equal y = true := by
  cases v <;> cases w <;> simp_all [equal]

theorem equal_symm
    {v w : Value}
    (hEqual : v.equal w = true) :
    w.equal v = true := by
  cases v <;> cases w <;>
    simp_all [equal, Double.equal_iff]

theorem equal_trans
    {u v w : Value}
    (hFirst : u.equal v = true)
    (hSecond : v.equal w = true) :
    u.equal w = true := by
  rcases eq_or_floats_of_equal hFirst with
    rfl | ⟨x, y, rfl, rfl, hNumbers⟩
  · exact hSecond
  · rcases eq_or_floats_of_equal hSecond with
      rfl | ⟨_, z, hSame, rfl, hNumbers'⟩
    · exact hFirst
    · cases hSame
      rw [Double.equal_iff] at hNumbers hNumbers'
      exact Double.equal_iff.mpr
        ⟨hNumbers.1, hNumbers'.2.1, hNumbers.2.2.trans hNumbers'.2.2⟩

/- The value is a float that is no number. -/
def isNaN : Value → Bool
  | .float x => x.isNaN
  | _ => false

/- All values but NaN are equal to themselves. -/
theorem equal_refl
    {v : Value}
    (hNaN : v.isNaN = false) :
    v.equal v = true := by
  cases v with
  | float x => exact Double.equal_iff.mpr ⟨hNaN, hNaN, rfl⟩
  | null => rfl
  | bool b => exact beq_self_eq_true b
  | int n => exact beq_self_eq_true n
  | text s => exact beq_self_eq_true s
  | blob bytes => exact beq_self_eq_true bytes

/- All values but NULL and NaN compare equal to themselves. -/
theorem compare_self
    {v : Value}
    (hNull : v.isNull = false)
    (hNaN : v.isNaN = false) :
    v.compare v = some .eq := by
  cases v with
  | null => cases hNull
  | bool b => cases b <;> rfl
  | int n => simp [compare]
  | float x =>
      have hNumber : x.isNaN = false := hNaN
      simp [compare, Double.compare, hNumber]
  | text s => simp [compare]
  | blob bytes => simp [compare]

end Value

------------------------------------------------------------
-- Fields
------------------------------------------------------------

namespace FieldValue

/-
  Equality of fields as the program compares them: floats are
  equal as numbers.
-/
def equal : FieldValue → FieldValue → Bool
  | .float x, .float y => x.equal y
  | .any v, .any w => v.equal w
  | a, b => decide (a = b)

/- The fields hold the same, or are equal. -/
def Alike
    (a b : FieldValue) : Prop :=
  a = b ∨ a.equal b = true

theorem Alike.refl
    (a : FieldValue) :
    a.Alike a :=
  Or.inl rfl

end FieldValue

/- Where one of two equal values can be read, so can the other. -/
theorem FieldType.read_of_equal
    {t : FieldType}
    {v w : Value}
    {field : FieldValue}
    (hEqual : v = w ∨ v.equal w = true)
    (hRead : t.read w = .ok field) :
    ∃ found, t.read v = .ok found ∧ found.Alike field := by
  have hFloats :
      v = w ∨
        ∃ x y, v = .float x ∧ w = .float y ∧ x.equal y = true := by
    rcases hEqual with hSame | hEqual
    · exact Or.inl hSame
    · exact Value.eq_or_floats_of_equal hEqual
  rcases hFloats with rfl | ⟨x, y, rfl, rfl, hNumbers⟩
  · exact ⟨field, hRead, .refl field⟩
  · rcases t with ⟨base, optional⟩
    simp only [read, Value.isNull, Bool.and_false,
      Bool.false_eq_true, if_false] at hRead ⊢
    cases base with
    | float64 =>
        cases hRead
        exact ⟨.float x, rfl, Or.inr hNumbers⟩
    | float32 =>
        cases hRead
        refine ⟨.float x.toSinglePrecision, rfl, ?_⟩
        rcases Double.toSinglePrecision_of_equal hNumbers with
          hSame | hRounded
        · exact Or.inl (congrArg FieldValue.float hSame)
        · exact Or.inr hRounded
    | any =>
        cases hRead
        exact ⟨.any (.float x), rfl, Or.inr hNumbers⟩
    | bool => cases hRead
    | integer type => cases hRead
    | text => cases hRead
    | blob => cases hRead
    | date => cases hRead
    | moment => cases hRead
    | instant => cases hRead

end EntitySql
