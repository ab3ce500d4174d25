import Mathlib
import EntitySql.Value.Field

/-
  Bytes are compared one after the other, and a text has the
  same place among texts as its bytes have among bytes.

  Key definitions include:
    * `compareBytes`

  Key theorems include:
    * `compareBytes_eq_compare`
    * `compareBytes_swap`
    * `compareBytes_utf8EncodeChar`
    * `compareBytes_utf8Bytes`
-/

namespace EntitySql

------------------------------------------------------------
-- Bytes
------------------------------------------------------------

/-
  The order of two byte sequences: the first bytes that differ
  decide as numbers, and what ends first comes first.
-/
def compareBytes : List UInt8 → List UInt8 → Ordering
  | [], [] => .eq
  | [], _ :: _ => .lt
  | _ :: _, [] => .gt
  | a :: as, b :: bs =>
      (Ord.compare a.toNat b.toNat).then (compareBytes as bs)

@[simp] theorem compareBytes_cons_cons
    (a b : UInt8)
    (as bs : List UInt8) :
    compareBytes (a :: as) (b :: bs) =
      (Ord.compare a.toNat b.toNat).then (compareBytes as bs) :=
  rfl

@[simp] theorem compareBytes_self
    (bytes : List UInt8) :
    compareBytes bytes bytes = .eq := by
  induction bytes with
  | nil => rfl
  | cons b bs ih => simp [ih]

/- Swapping the sides turns the order around. -/
theorem compareBytes_swap
    (as bs : List UInt8) :
    (compareBytes as bs).swap = compareBytes bs as := by
  induction as generalizing bs with
  | nil => cases bs <;> rfl
  | cons a as ih =>
      cases bs with
      | nil => rfl
      | cons b bs =>
          rw [compareBytes_cons_cons, compareBytes_cons_cons,
            Ordering.swap_then, ih, Nat.compare_swap]

/- What is common in front does not count. -/
theorem compareBytes_append
    (common as bs : List UInt8) :
    compareBytes (common ++ as) (common ++ bs) =
      compareBytes as bs := by
  induction common with
  | nil => rfl
  | cons b common ih => simp [ih]

/- Bytes are ordered as their numbers are. -/
theorem compare_toNat
    (a b : UInt8) :
    Ord.compare a b = Ord.compare a.toNat b.toNat := by
  change compareOfLessAndEq a b = compareOfLessAndEq a.toNat b.toNat
  unfold compareOfLessAndEq
  simp only [UInt8.lt_iff_toNat_lt, ← UInt8.toNat_inj]

/- It is the order of the library on lists of bytes. -/
theorem compareBytes_eq_compare
    (as bs : List UInt8) :
    compareBytes as bs = Ord.compare as bs := by
  induction as generalizing bs with
  | nil => cases bs <;> rfl
  | cons a as ih =>
      cases bs with
      | nil => rfl
      | cons b bs =>
          rw [compareBytes_cons_cons, ← compare_toNat, ih]
          exact List.compare_cons_cons.symm

------------------------------------------------------------
-- Characters
------------------------------------------------------------

/- The greater byte decides, unless the bytes are the same. -/
theorem compareBytes_cons_of_le
    {a b : Nat}
    {as bs : List UInt8}
    (hBound : b < 256)
    (hLess : a ≤ b)
    (hRest : a = b → compareBytes as bs = .lt) :
    compareBytes (UInt8.ofNat a :: as) (UInt8.ofNat b :: bs) =
      .lt := by
  rw [compareBytes_cons_cons, UInt8.toNat_ofNat_of_lt' hBound,
    UInt8.toNat_ofNat_of_lt' (Nat.lt_of_le_of_lt hLess hBound)]
  rcases hLess.eq_or_lt with rfl | hLess
  · rw [hRest rfl, Nat.compare_eq_eq.mpr rfl]
    rfl
  · rw [Nat.compare_eq_lt.mpr hLess]
    rfl

/-
  The bytes of a smaller character come first, whatever stands
  behind: longer encodings begin with a greater byte, and those
  of one length have the digits of the number in order.
-/
theorem compareBytes_utf8EncodeChar
    {c d : Char}
    (hLess : c < d)
    (as bs : List UInt8) :
    compareBytes (String.utf8EncodeChar c ++ as)
        (String.utf8EncodeChar d ++ bs) = .lt := by
  have hNumbers : c.val.toNat < d.val.toNat := hLess
  have hBound : d.val.toNat < 1114112 := by
    rcases d.valid with hLow | ⟨_, hHigh⟩ <;> omega
  unfold String.utf8EncodeChar
  generalize c.val.toNat = v at *
  generalize d.val.toNat = w at *
  dsimp only
  split_ifs <;>
    simp only [List.cons_append, List.nil_append] <;>
    repeat
      first
        | omega
        | refine compareBytes_cons_of_le (by omega) (by omega)
            fun _ => ?_

theorem utf8EncodeChar_ne_nil
    (c : Char) :
    String.utf8EncodeChar c ≠ [] := by
  rw [← List.length_pos_iff, String.length_utf8EncodeChar]
  exact c.utf8Size_pos

------------------------------------------------------------
-- Texts
------------------------------------------------------------

/- A text before another one has its bytes before the others. -/
theorem compareBytes_of_chars_lt
    {cs ds : List Char}
    (hLess : cs < ds) :
    compareBytes (cs.flatMap String.utf8EncodeChar)
        (ds.flatMap String.utf8EncodeChar) = .lt := by
  induction cs generalizing ds with
  | nil =>
      cases ds with
      | nil => exact absurd hLess (lt_irrefl _)
      | cons d ds =>
          rw [List.flatMap_cons, List.flatMap_nil]
          cases hBytes : String.utf8EncodeChar d with
          | nil => exact absurd hBytes (utf8EncodeChar_ne_nil d)
          | cons b bs => rfl
  | cons c cs ih =>
      cases ds with
      | nil => exact absurd hLess (List.not_lt_nil _)
      | cons d ds =>
          rw [List.flatMap_cons, List.flatMap_cons]
          rcases List.cons_lt_cons_iff.mp hLess with
            hFirst | ⟨rfl, hRest⟩
          · exact compareBytes_utf8EncodeChar hFirst _ _
          · rw [compareBytes_append]
            exact ih hRest

/- Texts are ordered as their bytes are. -/
theorem compareBytes_utf8Bytes
    (s t : String) :
    compareBytes (utf8Bytes s) (utf8Bytes t) = Ord.compare s t := by
  change _ = compareOfLessAndEq s t
  unfold compareOfLessAndEq utf8Bytes
  split
  · rename_i hLess
    exact compareBytes_of_chars_lt (String.lt_iff_toList_lt.mp hLess)
  · rename_i hNotLess
    split
    · rename_i hSame
      rw [hSame, compareBytes_self]
    · rename_i hDiffers
      have hGreater : t.toList < s.toList := by
        rw [← String.lt_iff_toList_lt]
        rcases lt_trichotomy s t with hLess | hSame | hGreater
        · exact absurd hLess hNotLess
        · exact absurd hSame hDiffers
        · exact hGreater
      rw [← compareBytes_swap, compareBytes_of_chars_lt hGreater]
      rfl

end EntitySql
