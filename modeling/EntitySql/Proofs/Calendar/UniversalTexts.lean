import EntitySql.Proofs.Calendar.LocalTexts

/-
  Moments of universal time and their texts in the form of
  RFC 3339.

  Key theorems include:
    * `Moment.parseUtc?_utcText`
    * `Moment.year_of_parseUtc?`
    * `BaseType.utc_text_reads_back_iff`

  The form has years of four digits. A moment is stored in
  universal time, and its offset can move it out of the years
  that the form has: then it is written with a sign, and the
  text is not read again.
-/

namespace EntitySql

/- Powers are those of the core library. -/
attribute [local instance (2000)] instPowNat

------------------------------------------------------------
-- Reading what was written
------------------------------------------------------------

namespace Calendar

/- A moment of the years 0 to 9999 has the fixed widths. -/
theorem fixedMoment_chars
    {m : Moment}
    {rest : List Char}
    (hYear : 0 ≤ m.date.year ∧ m.date.year ≤ 9999)
    (hRest :
      ∀ c ∈ rest.head?, c.isDigit = false ∧ c ≠ '.') :
    fixedMoment
        (m.date.chars ++ 'T' :: (m.time.chars ++ rest)) =
      some (m, rest) := by
  have hValid := m.time.valid
  unfold ClockTime.Valid at hValid
  have hFour : m.date.year.toNat < 10 ^ 4 := by omega
  have hNumber {n : Nat} (cs : List Char) (hBound : n < 100) :
      number 2 (some 2) (paddedDigits 2 n ++ cs) = some (n, cs) :=
    number_paddedDigits cs (by omega) (by omega) hBound
  have hDate :
      Date.of? m.date.year.toNat m.date.month m.date.day =
        some m.date := by
    rw [Int.toNat_of_nonneg hYear.1]
    exact m.date.of?_self
  have hSeparator (cs : List Char) :
      separator ('T' :: cs) = some ((), cs) :=
    rfl
  have hFraction :=
    fraction_fractionDigits hValid.2.2.2 hRest
  simp only [Date.chars, yearDigits, if_pos hYear, ClockTime.chars,
    List.append_assoc, List.cons_append, List.nil_append]
  unfold fixedMoment
  refine bind_of_some
    (number_paddedDigits _ (Nat.le_refl 4) (by omega) hFour) ?_
  refine bind_of_some (literal_cons _ _) ?_
  refine bind_of_some (hNumber _ m.date.month_lt) ?_
  refine bind_of_some (literal_cons _ _) ?_
  refine bind_of_some (hNumber _ m.date.day_lt) ?_
  refine bind_of_some (hSeparator _) ?_
  refine bind_of_some (hNumber _ (by omega)) ?_
  refine bind_of_some (literal_cons _ _) ?_
  refine bind_of_some (hNumber _ (by omega)) ?_
  refine bind_of_some (literal_cons _ _) ?_
  refine bind_of_some (hNumber _ (by omega)) ?_
  refine bind_of_some hFraction ?_
  refine bind_of_some hDate ?_
  exact bind_of_some m.time.of?_self rfl

end Calendar

open Calendar

namespace Moment

/- An offset of zero moves nothing. -/
theorem shiftMinutes?_zero
    (m : Moment) :
    m.shiftMinutes? 0 = some m := by
  have hValid := m.time.valid
  unfold ClockTime.Valid at hValid
  have hDay : m.time.minutes < 1440 := by
    unfold ClockTime.minutes
    omega
  have hTime :
      m.time.atMinute? m.time.minutes = some m.time := by
    have hHour : m.time.minutes / 60 = m.time.hour := by
      unfold ClockTime.minutes
      omega
    have hMinute : m.time.minutes % 60 = m.time.minute := by
      unfold ClockTime.minutes
      omega
    rw [ClockTime.atMinute?, hHour, hMinute]
    exact m.time.of?_self
  unfold shiftMinutes?
  simp only [Int.add_zero, Int.toNat_natCast, hTime]
  rw [if_neg (by omega), if_pos (by omega)]
  rfl

/- A moment of the years 0 to 9999 is read from its text. -/
theorem parseUtc?_utcText
    {m : Moment}
    (hYear : 0 ≤ m.date.year ∧ m.date.year ≤ 9999) :
    parseUtc? m.utcText = some m := by
  have hMoment :=
    @fixedMoment_chars m ['+', '0', '0', ':', '0', '0'] hYear
      (by simp [Char.isDigit])
  have hOffset :
      offset ['+', '0', '0', ':', '0', '0'] = some (0, []) :=
    rfl
  simp only [parseUtc?, utcText, String.toList_ofList,
    List.append_assoc, List.cons_append, List.nil_append, hMoment,
    hOffset, Option.bind_eq_bind, Option.bind_some,
    List.isEmpty_nil, if_true, Int.neg_zero, shiftMinutes?_zero]

/- The text of a moment of any other year begins with a sign. -/
theorem parseUtc?_utcText_eq_none
    {m : Moment}
    (hYear : ¬(0 ≤ m.date.year ∧ m.date.year ≤ 9999)) :
    parseUtc? m.utcText = none := by
  have hNumber :
      number 4 (some 4) m.utcText.toList = none := by
    apply number_of_head (by omega)
    simp only [utcText, Date.chars, yearDigits, if_neg hYear,
      String.toList_ofList]
    split <;> simp [Char.isDigit]
  simp only [parseUtc?, fixedMoment, hNumber, Option.bind_eq_bind,
    Option.bind_none]

end Moment

------------------------------------------------------------
-- Years of moments
------------------------------------------------------------

theorem Date.year_of_of?
    {year : Int}
    {month day : Nat}
    {d : Date}
    (hDate : Date.of? year month day = some d) :
    d.year = year := by
  unfold of? at hDate
  split at hDate
  next =>
    cases hDate
    rfl
  next => cases hDate

/- The day before is in the same year or in the one before. -/
theorem Date.year_of_previous?
    {d d' : Date}
    (hPrevious : d.previous? = some d') :
    d'.year = d.year ∨ d'.year = d.year - 1 := by
  unfold previous? at hPrevious
  split at hPrevious
  next => exact .inl (year_of_of? hPrevious)
  next =>
    split at hPrevious
    next => exact .inl (year_of_of? hPrevious)
    next => exact .inr (year_of_of? hPrevious)

/- The day after is in the same year or in the one after. -/
theorem Date.year_of_next?
    {d d' : Date}
    (hNext : d.next? = some d') :
    d'.year = d.year ∨ d'.year = d.year + 1 := by
  unfold next? at hNext
  split at hNext
  next => exact .inl (year_of_of? hNext)
  next =>
    split at hNext
    next => exact .inl (year_of_of? hNext)
    next => exact .inr (year_of_of? hNext)

namespace Moment

/- An offset moves a moment by a year at most. -/
theorem year_of_shiftMinutes?
    {m m' : Moment}
    {delta : Int}
    (hShift : m.shiftMinutes? delta = some m') :
    m.date.year - 1 ≤ m'.date.year ∧
      m'.date.year ≤ m.date.year + 1 := by
  unfold shiftMinutes? at hShift
  simp only [Option.bind_eq_bind, Option.pure_def] at hShift
  split at hShift
  next =>
    simp only [Option.bind_eq_some_iff] at hShift
    rcases hShift with ⟨d, hPrevious, _, _, hMoment⟩
    cases hMoment
    have hYear := Date.year_of_previous? hPrevious
    dsimp only
    omega
  next =>
    split at hShift
    next =>
      simp only [Option.bind_eq_some_iff] at hShift
      rcases hShift with ⟨_, _, hMoment⟩
      cases hMoment
      dsimp only
      omega
    next =>
      simp only [Option.bind_eq_some_iff] at hShift
      rcases hShift with ⟨d, hNext, _, _, hMoment⟩
      cases hMoment
      have hYear := Date.year_of_next? hNext
      dsimp only
      omega

/- A moment of the fixed widths has a year of four digits. -/
theorem year_of_fixedMoment
    {m : Moment}
    {cs rest : List Char}
    (hMoment : fixedMoment cs = some (m, rest)) :
    0 ≤ m.date.year ∧ m.date.year ≤ 9999 := by
  unfold fixedMoment at hMoment
  rcases exists_of_bind hMoment with ⟨⟨year, _⟩, hNumber, hSteps⟩
  -- Eleven steps stand between the year and the date.
  iterate 11
    rcases exists_of_bind hSteps with ⟨⟨_, _⟩, _, hSteps⟩
  rcases exists_of_bind hSteps with ⟨date, hDate, hSteps⟩
  rcases exists_of_bind hSteps with ⟨time, _, hMoment⟩
  cases hMoment
  have hFour := number_lt hNumber
  have hYear := Date.year_of_of? hDate
  dsimp only
  omega

/-
  An instant that was read from a text has one of the years 0
  to 9999, or the one before them or the one behind.
-/
theorem year_of_parseUtc?
    {m : Moment}
    {s : String}
    (hParse : parseUtc? s = some m) :
    -1 ≤ m.date.year ∧ m.date.year ≤ 10000 := by
  simp only [parseUtc?, Option.bind_eq_bind,
    Option.bind_eq_some_iff, Prod.exists] at hParse
  rcases hParse with
    ⟨local', _, hMoment, minutes, cs, _, hShifted⟩
  have hYear := year_of_fixedMoment hMoment
  split at hShifted
  next =>
    have hMoved := year_of_shiftMinutes? hShifted
    omega
  next => cases hShifted

end Moment

------------------------------------------------------------
-- Fields
------------------------------------------------------------

namespace BaseType

theorem read_instant_eq_ok_iff
    {s : String}
    {field : FieldValue} :
    BaseType.instant.read (.text s) = .ok field ↔
      ∃ m, Moment.parseUtc? s = some m ∧ .instant m = field :=
  map_readText_eq_ok_iff

theorem read_instant_of_some
    {s : String}
    {m : Moment}
    (hParse : Moment.parseUtc? s = some m) :
    BaseType.instant.read (.text s) = .ok (.instant m) :=
  read_instant_eq_ok_iff.mpr ⟨m, hParse, rfl⟩

theorem read_instant_of_none
    {s : String}
    (hParse : Moment.parseUtc? s = none) :
    BaseType.instant.read (.text s) =
      .error (.unreadable .instant s) :=
  map_readText_of_none hParse

/-
  An instant that was read from any text is read from the text
  that it is written as iff its year in universal time has
  four digits. Otherwise that year is the one before or the
  one behind those years, and the text is refused.
-/
theorem utc_text_reads_back_iff
    {s : String}
    {field : FieldValue}
    (hRead : BaseType.instant.read (.text s) = .ok field) :
    ∃ (m : Moment) (written : String),
      field = .instant m ∧
      field.toValue = .text written ∧
      (BaseType.instant.read (.text written) = .ok field ↔
        0 ≤ m.date.year ∧ m.date.year ≤ 9999) ∧
      (¬(0 ≤ m.date.year ∧ m.date.year ≤ 9999) →
        (m.date.year = -1 ∨ m.date.year = 10000) ∧
        BaseType.instant.read (.text written) =
          .error (.unreadable .instant written)) := by
  rcases read_instant_eq_ok_iff.mp hRead with ⟨m, hParse, rfl⟩
  refine ⟨m, m.utcText, rfl, rfl, ?_⟩
  by_cases hYear : 0 ≤ m.date.year ∧ m.date.year ≤ 9999
  · have hAgain :
        BaseType.instant.read (.text m.utcText) =
          .ok (.instant m) :=
      read_instant_of_some (Moment.parseUtc?_utcText hYear)
    exact ⟨iff_of_true hAgain hYear, fun hOut => absurd hYear hOut⟩
  · have hRefused :
        BaseType.instant.read (.text m.utcText) =
          .error (.unreadable .instant m.utcText) :=
      read_instant_of_none (Moment.parseUtc?_utcText_eq_none hYear)
    have hBounds := Moment.year_of_parseUtc? hParse
    refine ⟨iff_of_false ?_ hYear, fun _ => ⟨by omega, hRefused⟩⟩
    simp only [hRefused, reduceCtorEq, not_false_eq_true]

/- A leap second that its offset puts into the year before. -/
theorem leap_second_reads_back :
    let s := "2024-01-01t00:00:60.5+05:45"
    let m : Moment :=
      ⟨⟨2023, 12, 31, by decide⟩,
        ⟨18, 15, 60, 500000000, by decide⟩⟩
    BaseType.instant.read (.text s) = .ok (.instant m) ∧
      BaseType.instant.read
          (.text "2023-12-31T18:15:60.500+00:00") =
        .ok (.instant m) := by
  intro s m
  have hParse : Moment.parseUtc? s = some m := by
    decide +kernel
  have hRead :
      BaseType.instant.read (.text s) = .ok (.instant m) :=
    read_instant_of_some hParse
  refine ⟨hRead, ?_⟩
  rcases utc_text_reads_back_iff hRead with
    ⟨m', written, hField, hWritten, hIff, _⟩
  have hMoment : m' = m := (FieldValue.instant.inj hField).symm
  have hText : written = "2023-12-31T18:15:60.500+00:00" := by
    rw [← Value.text.inj hWritten]
    decide +kernel
  rw [hMoment, hText] at hIff
  exact hIff.mpr (by decide)

/-
  At both ends of the years an offset can move an instant out
  of them: what is written then is not read again.
-/
theorem shifted_years_are_refused :
    let early : Moment :=
      ⟨⟨-1, 12, 31, by decide⟩, ⟨23, 59, 0, 0, by decide⟩⟩
    let late : Moment :=
      ⟨⟨10000, 1, 1, by decide⟩, ⟨0, 0, 59, 0, by decide⟩⟩
    (BaseType.instant.read (.text "0000-01-01T00:00:00+00:01") =
        .ok (.instant early) ∧
      (FieldValue.instant early).toValue =
        .text "-0001-12-31T23:59:00+00:00" ∧
      BaseType.instant.read (.text "-0001-12-31T23:59:00+00:00") =
        .error
          (.unreadable .instant "-0001-12-31T23:59:00+00:00")) ∧
    (BaseType.instant.read (.text "9999-12-31T23:59:59-00:01") =
        .ok (.instant late) ∧
      (FieldValue.instant late).toValue =
        .text "+10000-01-01T00:00:59+00:00" ∧
      BaseType.instant.read
          (.text "+10000-01-01T00:00:59+00:00") =
        .error
          (.unreadable .instant "+10000-01-01T00:00:59+00:00")) := by
  intro early late
  have hEarly :
      Moment.parseUtc? "0000-01-01T00:00:00+00:01" = some early := by
    decide +kernel
  have hEarlyText :
      early.utcText = "-0001-12-31T23:59:00+00:00" := by
    decide +kernel
  have hEarlyNone :
      Moment.parseUtc? "-0001-12-31T23:59:00+00:00" = none := by
    decide +kernel
  have hLate :
      Moment.parseUtc? "9999-12-31T23:59:59-00:01" = some late := by
    decide +kernel
  have hLateText :
      late.utcText = "+10000-01-01T00:00:59+00:00" := by
    decide +kernel
  have hLateNone :
      Moment.parseUtc? "+10000-01-01T00:00:59+00:00" = none := by
    decide +kernel
  exact
    ⟨⟨read_instant_of_some hEarly, congrArg Value.text hEarlyText,
        read_instant_of_none hEarlyNone⟩,
      ⟨read_instant_of_some hLate, congrArg Value.text hLateText,
        read_instant_of_none hLateNone⟩⟩

end BaseType

end EntitySql
