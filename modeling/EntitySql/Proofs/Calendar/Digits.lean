import EntitySql.Calendar.Reader
import EntitySql.Calendar.Text

/-
  Numbers of dates and times, written as digits and read back.

  Key theorems include:
    * `spanDigits_append`
    * `digitsValue_paddedDigits`
    * `number_paddedDigits`
    * `number_unlimited_paddedDigits`
    * `number_lt`

  A number of a fixed width is read whatever follows it. One
  of any width is read up to the first character that is no
  digit.
-/

namespace EntitySql

/- Powers are those of the core library. -/
attribute [local instance (2000)] instPowNat

namespace Calendar

------------------------------------------------------------
-- Runs of digits
------------------------------------------------------------

/- No digit is read where none may be or none is. -/
theorem spanDigits_of_head
    {most : Option Nat}
    {rest : List Char}
    (hRest : most ≠ some 0 → ∀ c ∈ rest.head?, c.isDigit = false) :
    spanDigits most rest = ([], rest) := by
  cases rest with
  | nil => rcases most with _ | _ | m <;> rfl
  | cons c rest =>
      rcases most with _ | _ | m
      · simp [spanDigits, hRest (by simp) c rfl]
      · rfl
      · simp [spanDigits, hRest (by simp) c rfl]

/- A digit is read if any may be. -/
theorem spanDigits_cons
    {most : Option Nat}
    {c : Char}
    (cs : List Char)
    (hMost : most ≠ some 0)
    (hDigit : c.isDigit = true) :
    spanDigits most (c :: cs) =
      (c :: (spanDigits (most.map (· - 1)) cs).1,
        (spanDigits (most.map (· - 1)) cs).2) := by
  rcases most with _ | _ | m
  · rw [spanDigits, if_pos hDigit]
    exact hMost
  · exact absurd rfl hMost
  · rw [spanDigits, if_pos hDigit]
    exact hMost

/-
  Digits are read as far as they are allowed. What follows
  them may begin with a digit only if no more are allowed.
-/
theorem spanDigits_append
    {most : Option Nat}
    {ds rest : List Char}
    (hDigits : ∀ c ∈ ds, c.isDigit = true)
    (hMost : ∀ m ∈ most, ds.length ≤ m)
    (hRest :
      most ≠ some ds.length →
        ∀ c ∈ rest.head?, c.isDigit = false) :
    spanDigits most (ds ++ rest) = (ds, rest) := by
  induction ds generalizing most with
  | nil => exact spanDigits_of_head hRest
  | cons d ds ih =>
      have hNotZero : most ≠ some 0 := by
        rintro rfl
        simpa using hMost 0 rfl
      have hRun :
          spanDigits (most.map (· - 1)) (ds ++ rest) =
            (ds, rest) := by
        apply ih
        · intro c hMem
          exact hDigits c (List.mem_cons_of_mem d hMem)
        · intro m hMem
          rcases most with _ | most
          · cases hMem
          · have hBound := hMost most rfl
            simp only [Option.map_some, Option.mem_def,
              Option.some.injEq, List.length_cons] at hMem hBound
            omega
        · intro hMore
          apply hRest
          rintro rfl
          simp at hMore
      rw [List.cons_append,
        spanDigits_cons _ hNotZero (hDigits d List.mem_cons_self),
        hRun]

------------------------------------------------------------
-- Written numbers
------------------------------------------------------------

theorem isDigit_of_mem_paddedDigits
    {width n : Nat}
    {c : Char}
    (hMem : c ∈ paddedDigits width n) :
    c.isDigit = true := by
  simp only [paddedDigits, List.mem_append, List.mem_replicate]
    at hMem
  rcases hMem with ⟨_, rfl⟩ | hMem
  · rfl
  · exact Nat.isDigit_of_mem_toDigits (by omega) (by omega) hMem

theorem length_paddedDigits
    {width n : Nat}
    (hWidth : 0 < width)
    (hBound : n < 10 ^ width) :
    (paddedDigits width n).length = width := by
  have hLength : (decimalDigits n).length ≤ width :=
    (Nat.length_toDigits_le_iff (by omega) hWidth).mpr hBound
  simp only [paddedDigits, List.length_append,
    List.length_replicate]
  omega

theorem length_paddedDigits_pos
    (width n : Nat) :
    0 < (paddedDigits width n).length := by
  have hPos : 0 < (decimalDigits n).length :=
    Nat.length_toDigits_pos
  simp only [paddedDigits, List.length_append]
  omega

/- The zeros in front of a number do not count. -/
theorem digitsValue_paddedDigits
    (width n : Nat) :
    digitsValue (paddedDigits width n) = n := by
  have hZeros (k : Nat) :
      Nat.ofDigitChars 10 (List.replicate k '0') 0 = 0 := by
    induction k with
    | zero => rfl
    | succ k ih =>
        rw [List.replicate_succ, Nat.ofDigitChars_cons]
        exact ih
  change Nat.ofDigitChars 10 (paddedDigits width n) 0 = n
  rw [paddedDigits, Nat.ofDigitChars_append, hZeros]
  exact Nat.ofDigitChars_toDigits (by omega) (by omega)

/- A number of a fixed width is read whatever follows it. -/
theorem number_paddedDigits
    {least width n : Nat}
    (rest : List Char)
    (hLeast : least ≤ width)
    (hWidth : 0 < width)
    (hBound : n < 10 ^ width) :
    number least (some width) (paddedDigits width n ++ rest) =
      some (n, rest) := by
  have hLength := length_paddedDigits hWidth hBound
  have hSpan :
      spanDigits (some width) (paddedDigits width n ++ rest) =
        (paddedDigits width n, rest) := by
    apply spanDigits_append
    · intro c hMem
      exact isDigit_of_mem_paddedDigits hMem
    · intro m hMem
      cases hMem
      exact Nat.le_of_eq hLength
    · intro hMore
      rw [hLength] at hMore
      exact absurd rfl hMore
  simp only [number, hSpan, hLength, digitsValue_paddedDigits]
  rw [if_neg (by omega)]

/- A number of any width is read up to its last digit. -/
theorem number_unlimited_paddedDigits
    {rest : List Char}
    (width n : Nat)
    (hRest : ∀ c ∈ rest.head?, c.isDigit = false) :
    number 1 none (paddedDigits width n ++ rest) =
      some (n, rest) := by
  have hSpan :
      spanDigits none (paddedDigits width n ++ rest) =
        (paddedDigits width n, rest) := by
    apply spanDigits_append
    · intro c hMem
      exact isDigit_of_mem_paddedDigits hMem
    · intro m hMem
      cases hMem
    · exact fun _ => hRest
  have hPos := length_paddedDigits_pos width n
  simp only [number, hSpan, digitsValue_paddedDigits]
  rw [if_neg (by omega)]

/- A number that has to begin with a digit does. -/
theorem number_of_head
    {least : Nat}
    {most : Option Nat}
    {cs : List Char}
    (hLeast : 0 < least)
    (hHead : ∀ c ∈ cs.head?, c.isDigit = false) :
    number least most cs = none := by
  simp only [number, spanDigits_of_head fun _ => hHead,
    List.length_nil]
  rw [if_pos hLeast]

------------------------------------------------------------
-- Numbers of few digits
------------------------------------------------------------

/- Only digits are read, and no more than are allowed. -/
theorem spanDigits_spec
    (most : Option Nat)
    (cs : List Char) :
    (∀ c ∈ (spanDigits most cs).1, c.isDigit = true) ∧
      ∀ m ∈ most, (spanDigits most cs).1.length ≤ m := by
  induction cs generalizing most with
  | nil =>
      rw [spanDigits_of_head (by simp)]
      simp
  | cons c cs ih =>
      by_cases hRead : most ≠ some 0 ∧ c.isDigit = true
      · rw [spanDigits_cons cs hRead.1 hRead.2]
        rcases ih (most.map (· - 1)) with ⟨hDigits, hMost⟩
        refine ⟨List.forall_mem_cons.mpr ⟨hRead.2, hDigits⟩, ?_⟩
        rintro (_ | m) rfl
        · exact absurd rfl hRead.1
        · have hLength := hMost m rfl
          rw [List.length_cons]
          omega
      · have hNone : spanDigits most (c :: cs) = ([], c :: cs) := by
          apply spanDigits_of_head
          intro hMost d hMem
          cases hMem
          simpa [hMost] using hRead
        rw [hNone]
        simp

theorem digitsValue_lt
    {ds : List Char}
    (hDigits : ∀ c ∈ ds, c.isDigit = true) :
    digitsValue ds < 10 ^ ds.length := by
  have hFold (init : Nat) :
      Nat.ofDigitChars 10 ds init < (init + 1) * 10 ^ ds.length := by
    induction ds generalizing init with
    | nil => simp
    | cons d ds ih =>
        rcases List.forall_mem_cons.mp hDigits with ⟨hDigit, hRest⟩
        have hBound : d.toNat - '0'.toNat ≤ 9 := by
          have hRange : 48 ≤ d.toNat ∧ d.toNat ≤ 57 := by
            simpa [Char.isDigit, UInt32.le_iff_toNat_le]
              using hDigit
          change d.toNat - 48 ≤ 9
          omega
        rw [Nat.ofDigitChars_cons]
        calc
          Nat.ofDigitChars 10 ds (10 * init + (d.toNat - '0'.toNat))
              < (10 * init + (d.toNat - '0'.toNat) + 1) *
                  10 ^ ds.length := ih hRest _
          _ ≤ (init + 1) * 10 * 10 ^ ds.length :=
              Nat.mul_le_mul_right _ (by omega)
          _ = (init + 1) * 10 ^ (d :: ds).length := by
              rw [List.length_cons, Nat.pow_succ, Nat.mul_assoc,
                Nat.mul_comm 10]
  change Nat.ofDigitChars 10 ds 0 < 10 ^ ds.length
  simpa using hFold 0

/- A number of few digits is small. -/
theorem number_lt
    {least most n : Nat}
    {cs rest : List Char}
    (hNumber : number least (some most) cs = some (n, rest)) :
    n < 10 ^ most := by
  rcases spanDigits_spec (some most) cs with ⟨hDigits, hMost⟩
  simp only [number] at hNumber
  split at hNumber
  next => cases hNumber
  next =>
    cases hNumber
    exact Nat.lt_of_lt_of_le (digitsValue_lt hDigits)
      (Nat.pow_le_pow_right (by omega) (hMost most rfl))

end Calendar

end EntitySql
