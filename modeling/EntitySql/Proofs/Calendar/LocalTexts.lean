import EntitySql.Proofs.Calendar.Digits
import EntitySql.Value.Field

/-
  Dates and local moments are read back from their texts.

  Key theorems include:
    * `signedYear_yearDigits`
    * `fraction_fractionDigits`
    * `date_chars`, `clockTime_chars`
    * `Date.parse?_text`, `Moment.parse?_text`
    * `BaseType.local_text_reads_back`

  The readers allow more than is ever written: blanks, short
  numbers and long fractions. Whatever a text was read as is
  written in one way, and that way is always read again.
-/

namespace EntitySql

/- Powers are those of the core library. -/
attribute [local instance (2000)] instPowNat

------------------------------------------------------------
-- Blanks
------------------------------------------------------------

theorem Text.isBlank_of_isDigit
    {c : Char}
    (hDigit : c.isDigit = true) :
    Text.isBlank c = false := by
  have hLow : 48 ≤ c.toNat ∧ c.toNat ≤ 57 := by
    simpa [Char.isDigit, UInt32.le_iff_toNat_le] using hDigit
  simp only [Text.isBlank, CodeRanges.holds, Text.blankRanges,
    List.any_cons, List.any_nil, Bool.or_eq_false_iff,
    Bool.and_eq_false_iff, decide_eq_false_iff_not, and_true]
  omega

/- A text that begins with no blank is not trimmed. -/
theorem Text.trimStart_of_head
    {cs : List Char}
    (hHead : ∀ c ∈ cs.head?, Text.isBlank c = false) :
    Text.trimStart cs = cs := by
  cases cs with
  | nil => rfl
  | cons c cs =>
      simp [Text.trimStart, hHead c rfl]

namespace Calendar

/- A written number begins with a digit. -/
theorem isDigit_head_paddedDigits
    {width n : Nat}
    {rest : List Char} :
    ∀ c ∈ (paddedDigits width n ++ rest).head?,
      c.isDigit = true := by
  intro c hMem
  have hPos := length_paddedDigits_pos width n
  apply @isDigit_of_mem_paddedDigits width n
  cases hDigits : paddedDigits width n with
  | nil => simp [hDigits] at hPos
  | cons d ds =>
      rw [hDigits] at hMem
      rw [Option.mem_some.mp hMem]
      exact List.mem_cons_self

theorem trimStart_paddedDigits
    (width n : Nat)
    (rest : List Char) :
    Text.trimStart (paddedDigits width n ++ rest) =
      paddedDigits width n ++ rest := by
  apply Text.trimStart_of_head
  intro c hMem
  exact Text.isBlank_of_isDigit (isDigit_head_paddedDigits c hMem)

------------------------------------------------------------
-- Parts
------------------------------------------------------------

section Steps

variable {α β : Type}
variable {first : Option α} {next : α → Option β}

/- A reader goes on with what its first step has read. -/
theorem bind_of_some
    {a : α}
    {b : Option β}
    (hFirst : first = some a)
    (hNext : next a = b) :
    (first >>= next) = b := by
  rw [hFirst]
  exact hNext

/- A reader that succeeds has read something at first. -/
theorem exists_of_bind
    {b : β}
    (hBind : (first >>= next) = some b) :
    ∃ a, first = some a ∧ next a = some b :=
  Option.bind_eq_some_iff.mp hBind

end Steps

theorem shortNumber_paddedDigits
    {n : Nat}
    (rest : List Char)
    (hBound : n < 100) :
    shortNumber (paddedDigits 2 n ++ rest) = some (n, rest) := by
  rw [shortNumber, trimStart_paddedDigits]
  exact number_paddedDigits rest (by omega) (by omega) hBound

/-
  A written year is read back. One of more than four digits
  has a sign, so that its digits are not counted.
-/
theorem signedYear_yearDigits
    {rest : List Char}
    (year : Int)
    (hRest : ∀ c ∈ rest.head?, c.isDigit = false) :
    signedYear (yearDigits year ++ rest) = some (year, rest) := by
  unfold yearDigits
  split
  next hFour =>
    have hNumber :
        number 1 (some 4) (paddedDigits 4 year.toNat ++ rest) =
          some (year.toNat, rest) :=
      number_paddedDigits rest (by omega) (by omega) (by omega)
    have hHead :=
      @isDigit_head_paddedDigits 4 year.toNat rest
    unfold signedYear
    rw [trimStart_paddedDigits]
    split
    next hMinus =>
      rw [hMinus] at hHead
      exact absurd (hHead '-' rfl) (by decide)
    next hPlus =>
      rw [hPlus] at hHead
      exact absurd (hHead '+' rfl) (by decide)
    next =>
      simp only [hNumber, Option.bind_eq_bind, Option.bind_some,
        Option.pure_def, Int.toNat_of_nonneg hFour.1]
  next hWide =>
    have hNumber :=
      number_unlimited_paddedDigits 4 year.natAbs hRest
    split
    next hNegative =>
      have hTrim :
          Text.trimStart
              ('-' :: paddedDigits 4 year.natAbs ++ rest) =
            '-' :: (paddedDigits 4 year.natAbs ++ rest) :=
        rfl
      have hYear : -(year.natAbs : Int) = year := by
        omega
      simp only [signedYear, hTrim, hNumber, Option.bind_eq_bind,
        Option.bind_some, Option.pure_def, hYear]
    next hPositive =>
      have hTrim :
          Text.trimStart
              ('+' :: paddedDigits 4 year.natAbs ++ rest) =
            '+' :: (paddedDigits 4 year.natAbs ++ rest) :=
        rfl
      have hYear : (year.natAbs : Int) = year := by
        omega
      simp only [signedYear, hTrim, hNumber, Option.bind_eq_bind,
        Option.bind_some, Option.pure_def, hYear]

/- A fraction has a number of digits that divides its unit. -/
theorem fraction_paddedDigits
    {width n nano : Nat}
    {rest : List Char}
    (hWidth : 0 < width)
    (hNine : width ≤ 9)
    (hBound : n < 10 ^ width)
    (hUnit : n * 10 ^ (9 - width) = nano)
    (hRest : ∀ c ∈ rest.head?, c.isDigit = false) :
    fraction ('.' :: paddedDigits width n ++ rest) =
      some (nano, rest) := by
  have hLength := length_paddedDigits hWidth hBound
  have hSpan :
      spanDigits (some 9) (paddedDigits width n ++ rest) =
        (paddedDigits width n, rest) := by
    apply spanDigits_append
    · intro c hMem
      exact isDigit_of_mem_paddedDigits hMem
    · intro m hMem
      cases hMem
      omega
    · exact fun _ => hRest
  have hNonempty : (paddedDigits width n).isEmpty = false := by
    rw [List.isEmpty_eq_false_iff, ← List.length_pos_iff]
    omega
  have hDrop : rest.dropWhile Char.isDigit = rest := by
    cases rest with
    | nil => rfl
    | cons c rest => simp [hRest c rfl]
  simp only [fraction, List.cons_append, hSpan, hNonempty, hLength,
    digitsValue_paddedDigits, hDrop, hUnit]
  rfl

/-
  A written fraction is read back: the zeros that were left
  out are put behind it again.
-/
theorem fraction_fractionDigits
    {nano : Nat}
    {rest : List Char}
    (hBound : nano < 1000000000)
    (hRest :
      ∀ c ∈ rest.head?, c.isDigit = false ∧ c ≠ '.') :
    fraction (fractionDigits nano ++ rest) = some (nano, rest) := by
  have hDigits : ∀ c ∈ rest.head?, c.isDigit = false :=
    fun c hMem => (hRest c hMem).1
  unfold fractionDigits
  split
  next hZero =>
    subst hZero
    cases rest with
    | nil => rfl
    | cons c rest =>
        rw [List.nil_append, fraction]
        exact fun _ hCons =>
          (hRest c rfl).2 (List.cons.inj hCons).1
  next =>
    split
    next hMilli =>
      exact fraction_paddedDigits (by omega) (by omega) (by omega)
        (by omega) hDigits
    next =>
      split
      next hMicro =>
        exact fraction_paddedDigits (by omega) (by omega)
          (by omega) (by omega) hDigits
      next =>
        exact fraction_paddedDigits (by omega) (by omega)
          (by omega) (by omega) hDigits

@[simp] theorem literal_cons
    (c : Char)
    (rest : List Char) :
    literal c (c :: rest) = some ((), rest) :=
  if_pos rfl

end Calendar

------------------------------------------------------------
-- Dates and times
------------------------------------------------------------

namespace Date

/- The parts of a date are that date. -/
theorem of?_self
    (d : Date) :
    of? d.year d.month d.day = some d :=
  dif_pos d.valid

theorem month_lt
    (d : Date) : d.month < 100 := by
  have hValid := d.valid
  unfold Valid at hValid
  omega

theorem day_lt
    (d : Date) : d.day < 100 := by
  have hValid := d.valid
  have hMonth : daysInMonth d.year d.month ≤ 31 := by
    unfold daysInMonth
    split
    · split <;> omega
    · split <;> omega
  unfold Valid at hValid
  omega

end Date

theorem ClockTime.of?_self
    (t : ClockTime) :
    ClockTime.of? t.hour t.minute t.second t.nano = some t :=
  dif_pos t.valid

namespace Calendar

/- A written date is read, whatever follows it. -/
theorem date_chars
    (d : Date)
    (rest : List Char) :
    Calendar.date (d.chars ++ rest) = some (d, rest) := by
  have hYear (cs : List Char) :
      signedYear (yearDigits d.year ++ '-' :: cs) =
        some (d.year, '-' :: cs) := by
    apply signedYear_yearDigits
    intro c hMem
    cases hMem
    rfl
  simp only [Date.chars, List.append_assoc, List.cons_append,
    List.nil_append]
  unfold Calendar.date
  refine bind_of_some (hYear _) ?_
  refine bind_of_some (literal_cons _ _) ?_
  refine bind_of_some (shortNumber_paddedDigits _ d.month_lt) ?_
  refine bind_of_some (literal_cons _ _) ?_
  refine bind_of_some (shortNumber_paddedDigits _ d.day_lt) ?_
  exact bind_of_some d.of?_self rfl

/-
  A written time is read if what follows it cannot belong to
  its fraction.
-/
theorem clockTime_chars
    (t : ClockTime)
    {rest : List Char}
    (hRest :
      ∀ c ∈ rest.head?, c.isDigit = false ∧ c ≠ '.') :
    Calendar.clockTime (t.chars ++ rest) = some (t, rest) := by
  have hValid := t.valid
  unfold ClockTime.Valid at hValid
  have hFraction := fraction_fractionDigits hValid.2.2.2 hRest
  simp only [ClockTime.chars, List.append_assoc, List.cons_append,
    List.nil_append]
  unfold Calendar.clockTime
  refine bind_of_some (shortNumber_paddedDigits _ (by omega)) ?_
  refine bind_of_some (literal_cons _ _) ?_
  refine bind_of_some (shortNumber_paddedDigits _ (by omega)) ?_
  refine bind_of_some (literal_cons _ _) ?_
  refine bind_of_some (shortNumber_paddedDigits _ (by omega)) ?_
  refine bind_of_some hFraction ?_
  exact bind_of_some t.of?_self rfl

end Calendar

open Calendar

/- The text of a date is read as that date. -/
theorem Date.parse?_text
    (d : Date) :
    Date.parse? d.text = some d := by
  have hDate := date_chars d []
  rw [List.append_nil] at hDate
  rw [Date.parse?, Date.text, String.toList_ofList, hDate]
  rfl

/- The text of a moment is read as that moment. -/
theorem Moment.parse?_text
    (m : Moment) :
    Moment.parse? m.text = some m := by
  have hTime := @clockTime_chars m.time [] (by simp)
  rw [List.append_nil] at hTime
  have hHead :
      Text.trimStart (' ' :: m.time.chars) = m.time.chars := by
    have hDrop :
        Text.trimStart (' ' :: m.time.chars) =
          Text.trimStart m.time.chars :=
      rfl
    rw [hDrop, ClockTime.chars]
    simp only [List.append_assoc]
    exact trimStart_paddedDigits ..
  have hSpaced :
      Moment.parse?.spaced m.text.toList = some (m, []) := by
    simp only [Moment.text, String.toList_ofList, List.append_assoc,
      List.cons_append, List.nil_append, Moment.parse?.spaced,
      date_chars, hHead, hTime, Option.bind_eq_bind,
      Option.bind_some, Option.pure_def]
  rw [Moment.parse?, hSpaced]
  rfl

------------------------------------------------------------
-- Fields
------------------------------------------------------------

section

variable {α : Type}
variable {t : BaseType}
variable {parse? : String → Option α}
variable {make : α → FieldValue}
variable {s : String}

/- A field is read from a text as the text is parsed. -/
theorem BaseType.map_readText_eq_ok_iff
    {field : FieldValue} :
    (t.readText parse? (.text s)).map make = .ok field ↔
      ∃ a, parse? s = some a ∧ make a = field := by
  cases hParse : parse? s <;> simp [readText, hParse, Except.map]

theorem BaseType.map_readText_of_some
    {a : α}
    (hParse : parse? s = some a) :
    (t.readText parse? (.text s)).map make = .ok (make a) :=
  map_readText_eq_ok_iff.mpr ⟨a, hParse, rfl⟩

theorem BaseType.map_readText_of_none
    (hParse : parse? s = none) :
    (t.readText parse? (.text s)).map make =
      .error (.unreadable t s) := by
  simp only [readText, hParse, Except.map]

end

/-
  A date or a local moment that was read from any text is
  written as a text that is read as the same again.
-/
theorem BaseType.local_text_reads_back
    {t : BaseType}
    {s : String}
    {field : FieldValue}
    (hType : t = .date ∨ t = .moment)
    (hRead : t.read (.text s) = .ok field) :
    ∃ written,
      field.toValue = .text written ∧
      t.read (.text written) = .ok field := by
  rcases hType with rfl | rfl
  · rcases map_readText_eq_ok_iff.mp hRead with ⟨d, _, rfl⟩
    exact ⟨d.text, rfl, map_readText_of_some d.parse?_text⟩
  · rcases map_readText_eq_ok_iff.mp hRead with ⟨m, _, rfl⟩
    exact ⟨m.text, rfl, map_readText_of_some m.parse?_text⟩

/- A leap second of a far year, written in an odd way. -/
theorem BaseType.odd_text_reads_back :
    let odd := " +012024-2- 29T 7: 5:60.1204567899"
    let m : Moment :=
      ⟨⟨12024, 2, 29, by decide⟩,
        ⟨7, 5, 60, 120456789, by decide⟩⟩
    BaseType.moment.read (.text odd) = .ok (.moment m) ∧
      ∃ written,
        (FieldValue.moment m).toValue = .text written ∧
        BaseType.moment.read (.text written) =
          .ok (.moment m) := by
  intro odd m
  have hParse : Moment.parse? odd = some m := by
    decide +kernel
  have hRead :
      BaseType.moment.read (.text odd) = .ok (.moment m) :=
    map_readText_of_some hParse
  exact ⟨hRead, BaseType.local_text_reads_back (.inr rfl) hRead⟩

end EntitySql
