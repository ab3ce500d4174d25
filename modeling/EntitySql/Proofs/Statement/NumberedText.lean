import EntitySql.Proofs.Statement.QuotedNames

/-
  What numbering changes in a text: the placeholders of known
  parameters become the positions of their names, and every
  other character stays in its place. If the text had no
  dollar sign, the names can be put back.

  Key definitions include:
    * `Renumbers`
    * `restoredChars`, `Statement.restored`
    * `Text.between?`, `Text.skipWord`
    * `scanOffsets?`, `Statement.scanned?`

  Key theorems include:
    * `renumbers_iff`
    * `Renumbers.restored_eq`
    * `scanOffsets?_eq`
    * `Statement.numbered_changes_only_placeholders`

  The scan is also written with offsets that count bytes, as a
  reader of encoded text has them. Its invariant is that the
  offset in hand is the size of the text already read, so that
  every offset it cuts at lies between two characters.
-/

namespace EntitySql

variable {d : Dialect}
variable {mark : Char}
variable {names : List String}

------------------------------------------------------------
-- Rewriting placeholders
------------------------------------------------------------

/-
  A whole word that is the name of a parameter, before some
  text that does not go on with it.
-/
structure NamesParameter
    (names : List String)
    (word rest : List Char) : Prop where
  wordChars : ∀ c ∈ word, Text.isWordChar c = true
  ends : ∀ c ∈ rest.head?, Text.isWordChar c = false
  nonempty : word ≠ []
  known : String.ofList word ∈ names

/-
  The second text is the first one with every placeholder of a
  parameter replaced by a dollar sign and the position of the
  first parameter of its name. All other characters are copied
  in order.
-/
inductive Renumbers
    (mark : Char)
    (names : List String) : List Char → List Char → Prop where
  | nil : Renumbers mark names [] []
  | placeholder
      {word rest out : List Char}
      (hName : NamesParameter names word rest)
      (hRest : Renumbers mark names rest out) :
      Renumbers mark names (mark :: (word ++ rest))
        ('$' :: (toString (names.idxOf (String.ofList word) + 1)).toList
          ++ out)
  | other
      {c : Char}
      {cs out : List Char}
      (hOther : ∀ word rest,
        c :: cs = mark :: (word ++ rest) →
        ¬ NamesParameter names word rest)
      (hRest : Renumbers mark names cs out) :
      Renumbers mark names (c :: cs) (c :: out)

/- Text without the mark is copied. -/
theorem Renumbers.append_of_notMem
    {cs rest out : List Char}
    (hMark : mark ∉ cs)
    (hRest : Renumbers mark names rest out) :
    Renumbers mark names (cs ++ rest) (cs ++ out) := by
  induction cs with
  | nil => exact hRest
  | cons c cs ih =>
      rw [List.mem_cons, not_or] at hMark
      refine .other ?_ (ih hMark.2)
      intro word rest hText
      exact absurd (List.cons.inj hText).1.symm hMark.1

/- The word after a mark is a known name, or it stays. -/
theorem namesParameter_takeWhile
    {cs : List Char}
    (hNonempty : cs.takeWhile Text.isWordChar ≠ [])
    (hKnown : String.ofList (cs.takeWhile Text.isWordChar) ∈ names) :
    NamesParameter names (cs.takeWhile Text.isWordChar)
      (cs.dropWhile Text.isWordChar) where
  wordChars _ hMem := List.mem_takeWhile_imp hMem
  ends c hHead := by
    have hEnds := List.head?_dropWhile_not Text.isWordChar cs
    rwa [hHead] at hEnds
  nonempty := hNonempty
  known := hKnown

theorem NamesParameter.takeWhile_eq
    {word rest : List Char}
    (hName : NamesParameter names word rest) :
    (word ++ rest).takeWhile Text.isWordChar = word := by
  rw [takeWhile_append_of_head hName.ends]
  exact List.takeWhile_eq_self_iff.mpr hName.wordChars

theorem NamesParameter.numberedChars_eq
    {word rest : List Char}
    (hName : NamesParameter names word rest) :
    numberedChars d.placeholderMark names
        (d.placeholderMark :: (word ++ rest)) =
      '$' :: (toString (names.idxOf (String.ofList word) + 1)).toList ++
        numberedChars d.placeholderMark names rest := by
  have hWritten :=
    @numberedChars_placeholder d.placeholderMark names
      (String.ofList word)
      ⟨by simpa using hName.nonempty, by simpa using hName.wordChars⟩
      hName.known rest hName.ends
  rwa [String.toList_ofList] at hWritten

/- Numbering rewrites placeholders, and nothing else. -/
theorem renumbers_numberedChars
    (cs : List Char) :
    Renumbers d.placeholderMark names cs
      (numberedChars d.placeholderMark names cs) := by
  induction cs using numberedChars.induct d.placeholderMark with
  | case1 =>
      rw [numberedChars]
      exact .nil
  | case2 cs ih =>
      have hSplit :
          cs.takeWhile Text.isWordChar ++ cs.dropWhile Text.isWordChar =
            cs :=
        List.takeWhile_append_dropWhile
      by_cases hName :
          NamesParameter names (cs.takeWhile Text.isWordChar)
            (cs.dropWhile Text.isWordChar)
      · have hReplaced : Renumbers d.placeholderMark names _ _ :=
          .placeholder hName ih
        rwa [← hName.numberedChars_eq, hSplit] at hReplaced
      · -- A word that stays holds no mark, so it is copied whole.
        have hUnknown :
            cs.takeWhile Text.isWordChar = [] ∨
              String.ofList (cs.takeWhile Text.isWordChar) ∉ names := by
          by_contra hKnown
          rw [not_or, not_not] at hKnown
          exact hName (namesParameter_takeWhile hKnown.1 hKnown.2)
        have hMark :
            d.placeholderMark ∉ cs.takeWhile Text.isWordChar :=
          Dialect.mark_notMem_of_word
            fun _ hMem => List.mem_takeWhile_imp hMem
        have hCopied := ih.append_of_notMem hMark
        rw [hSplit] at hCopied
        rw [numberedChars, if_pos rfl,
          numberedPlaceholder_of_notMem hUnknown]
        refine .other ?_ hCopied
        intro word rest hText hFound
        rw [List.cons.injEq] at hText
        rcases hText with ⟨_, rfl⟩
        rw [hFound.takeWhile_eq] at hUnknown
        exact hUnknown.elim hFound.nonempty (· hFound.known)
  | case3 c cs hOther ih =>
      rw [numberedChars, if_neg hOther]
      refine .other ?_ ih
      intro word rest hText
      exact absurd (List.cons.inj hText).1 hOther

/- The relation leaves nothing open. -/
theorem Renumbers.unique
    {cs out other : List Char}
    (hOut : Renumbers mark names cs out)
    (hSame : Renumbers mark names cs other) :
    out = other := by
  induction hOut generalizing other with
  | nil =>
      cases hSame
      rfl
  | @placeholder word rest out hName hRest ih =>
      generalize hText : mark :: (word ++ rest) = text at hSame
      cases hSame with
      | nil => cases hText
      | @placeholder word' rest' out' hName' hRest' =>
          rw [List.cons.injEq] at hText
          have hWord := hName.takeWhile_eq
          rw [hText.2, hName'.takeWhile_eq] at hWord
          subst hWord
          rw [List.append_cancel_left_eq] at hText
          rcases hText with ⟨_, rfl⟩
          rw [ih hRest']
      | other hOther => exact absurd hName (hOther _ _ hText.symm)
  | @other c cs out hOther hRest ih =>
      generalize hText : c :: cs = text at hSame
      cases hSame with
      | nil => cases hText
      | placeholder hName => exact absurd hName (hOther _ _ hText)
      | other hOther' hRest' =>
          rw [List.cons.injEq] at hText
          rcases hText with ⟨rfl, rfl⟩
          rw [ih hRest']

theorem renumbers_iff
    {cs out : List Char} :
    Renumbers d.placeholderMark names cs out ↔
      out = numberedChars d.placeholderMark names cs := by
  constructor
  · exact fun hOut => hOut.unique (renumbers_numberedChars cs)
  · rintro rfl
    exact renumbers_numberedChars cs

------------------------------------------------------------
-- Putting names back
------------------------------------------------------------

/-
  What a dollar sign and some digits stand for: the mark and
  the name of the parameter at this position, counted from one.
-/
def restoredNumber
    (mark : Char)
    (names : List String)
    (digits : List Char) : List Char :=
  match Nat.ofDigitChars 10 digits 0 with
  | 0 => '$' :: digits
  | i + 1 =>
      match names[i]? with
      | some name => mark :: name.toList
      | none => '$' :: digits

/- Put a name in the place of every dollar sign and its digits. -/
def restoredChars
    (mark : Char)
    (names : List String) : List Char → List Char
  | [] => []
  | c :: cs =>
      if c = '$' then
        restoredNumber mark names (cs.takeWhile Char.isDigit) ++
          restoredChars mark names (cs.dropWhile Char.isDigit)
      else c :: restoredChars mark names cs
termination_by cs => cs.length
decreasing_by
  · exact Nat.lt_succ_of_le (length_dropWhile_le _ _)
  · exact Nat.lt_succ_self _

/- A text of the statement with its names put back. -/
def Statement.restored
    (st : Statement)
    (d : Dialect)
    (text : String) : String :=
  String.ofList
    (restoredChars d.placeholderMark (st.params.map Parameter.name)
      text.toList)

theorem restoredNumber_toString
    {name : String}
    (hKnown : name ∈ names) :
    restoredNumber mark names
        (toString (names.idxOf name + 1)).toList =
      mark :: name.toList := by
  have hDigits :
      Nat.ofDigitChars 10 (toString (names.idxOf name + 1)).toList 0 =
        names.idxOf name + 1 := by
    rw [Nat.toString_eq_repr, Nat.toList_repr,
      Nat.ofDigitChars_ten_toDigits]
  rw [restoredNumber, hDigits]
  simp [List.getElem?_idxOf hKnown]

theorem isDigit_of_mem_toString
    (n : Nat) :
    ∀ c ∈ (toString n).toList, c.isDigit = true := by
  intro c hMem
  rw [Nat.toString_eq_repr, Nat.toList_repr] at hMem
  exact Nat.isDigit_of_mem_toDigits (by omega) (by omega) hMem

/- What follows a number does not go on with digits. -/
theorem Renumbers.not_digit_of_head
    {cs out : List Char}
    (hOut : Renumbers mark names cs out)
    (hEnd : ∀ c ∈ cs.head?, Text.isWordChar c = false) :
    ∀ c ∈ out.head?, c.isDigit = false := by
  intro c hHead
  cases hOut with
  | nil => cases hHead
  | placeholder => cases hHead; decide
  | other =>
      cases hHead
      by_contra hDigit
      rw [Bool.not_eq_false] at hDigit
      have hWord := Text.isWordChar_of_isDigit hDigit
      rw [hEnd c rfl] at hWord
      cases hWord

/-
  By induction on the rewriting: a number that it wrote is read
  back whole, since what follows is no digit, and a dollar sign
  that it copied there was none.
-/
theorem Renumbers.restored_eq
    {cs out : List Char}
    (hOut : Renumbers mark names cs out)
    (hDollar : '$' ∉ cs) :
    restoredChars mark names out = cs := by
  induction hOut with
  | nil => rw [restoredChars]
  | @placeholder word rest out hName hRest ih =>
      have hEnd := hRest.not_digit_of_head hName.ends
      have hAfter : '$' ∉ rest := by
        simp only [List.mem_cons, List.mem_append, not_or] at hDollar
        exact hDollar.2.2
      rw [List.cons_append, restoredChars, if_pos rfl,
        takeWhile_append_of_head hEnd, dropWhile_append_of_head hEnd,
        List.takeWhile_eq_self_iff.mpr (isDigit_of_mem_toString _),
        List.dropWhile_eq_nil_iff.mpr (isDigit_of_mem_toString _),
        restoredNumber_toString hName.known, String.toList_ofList,
        List.nil_append, ih hAfter, List.cons_append]
  | @other c cs out hOther hRest ih =>
      rw [List.mem_cons, not_or] at hDollar
      rw [restoredChars, if_neg (Ne.symm hDollar.1), ih hDollar.2]

------------------------------------------------------------
-- Offsets
------------------------------------------------------------

namespace Text

/-
  The text between two offsets that count bytes. There is none
  if an offset lies inside a character or behind the text, or
  if they are the wrong way round.
-/
def between?
    (s : String)
    (start stop : Nat) : Option String :=
  if h : String.Pos.Raw.IsValid s ⟨start⟩ ∧
      String.Pos.Raw.IsValid s ⟨stop⟩ ∧ start ≤ stop then
    some (s.slice (s.pos ⟨start⟩ h.1) (s.pos ⟨stop⟩ h.2.1) h.2.2).copy
  else none

theorem between?_eq_some_iff
    {s t : String}
    {start stop : Nat} :
    between? s start stop = some t ↔
      ∃ before after,
        s = before ++ t ++ after ∧
        start = before.utf8ByteSize ∧
        stop = (before ++ t).utf8ByteSize := by
  constructor
  · intro hSome
    rw [between?, Option.dite_none_right_eq_some] at hSome
    rcases hSome with ⟨hValid, hText⟩
    rcases String.copy_slice_eq_iff_splits.mp
      ⟨hValid.2.2, Option.some.inj hText⟩ with
      ⟨before, after, hStart, hStop⟩
    refine ⟨before, after, hStop.eq_append, ?_, ?_⟩
    · simpa using
        congrArg String.Pos.Raw.byteIdx hStart.offset_eq_rawEndPos
    · simpa using
        congrArg String.Pos.Raw.byteIdx hStop.offset_eq_rawEndPos
  · rintro ⟨before, after, rfl, rfl, rfl⟩
    have hStart :
        String.Pos.Raw.IsValid (before ++ t ++ after)
          ⟨before.utf8ByteSize⟩ :=
      String.Pos.Raw.isValid_iff_exists_append.mpr
        ⟨before, t ++ after, String.append_assoc, rfl⟩
    have hStop :
        String.Pos.Raw.IsValid (before ++ t ++ after)
          ⟨(before ++ t).utf8ByteSize⟩ :=
      String.Pos.Raw.isValid_iff_exists_append.mpr
        ⟨before ++ t, after, rfl, rfl⟩
    have hOrder :
        before.utf8ByteSize ≤ (before ++ t).utf8ByteSize := by
      simp
    rw [between?, dif_pos ⟨hStart, hStop, hOrder⟩]
    congr 1
    exact (String.copy_slice_eq_iff_splits.mpr
      ⟨before, after, ⟨String.append_assoc, rfl⟩, ⟨rfl, rfl⟩⟩).2

/- Characters with the offsets at which they begin. -/
def charOffsets : Nat → List Char → List (Nat × Char)
  | _, [] => []
  | n, c :: cs => (n, c) :: charOffsets (n + c.utf8Size) cs

/-
  Go on over word characters: the offset at which they end, and
  the characters that are left.
-/
def skipWord : Nat → List (Nat × Char) → Nat × List (Nat × Char)
  | stop, [] => (stop, [])
  | stop, (i, c) :: rest =>
      if isWordChar c then skipWord (i + c.utf8Size) rest
      else (stop, (i, c) :: rest)

theorem length_skipWord_le
    (stop : Nat)
    (rest : List (Nat × Char)) :
    (skipWord stop rest).2.length ≤ rest.length := by
  induction rest generalizing stop with
  | nil => exact Nat.le_refl _
  | cons x rest ih =>
      rw [skipWord]
      split
      · exact Nat.le_succ_of_le (ih _)
      · exact Nat.le_refl _

theorem ofList_cons
    (c : Char)
    (cs : List Char) :
    String.ofList (c :: cs) = String.singleton c ++ String.ofList cs := by
  rw [← String.toList_inj]
  simp

/- The word ends behind its bytes. -/
theorem skipWord_charOffsets
    (n : Nat)
    (cs : List Char) :
    skipWord n (charOffsets n cs) =
      (n + (String.ofList (cs.takeWhile isWordChar)).utf8ByteSize,
        charOffsets
          (n + (String.ofList (cs.takeWhile isWordChar)).utf8ByteSize)
          (cs.dropWhile isWordChar)) := by
  induction cs generalizing n with
  | nil => simp [charOffsets, skipWord]
  | cons c cs ih =>
      rw [charOffsets, skipWord, List.takeWhile_cons,
        List.dropWhile_cons]
      cases isWordChar c with
      | true =>
          simp only [if_true, ih, ofList_cons,
            String.utf8ByteSize_append, String.utf8ByteSize_singleton,
            Nat.add_assoc]
      | false => simp [charOffsets]

end Text

/-
  What a placeholder becomes, read by its offsets: that of the
  mark, that of the name, and the one where the name ends.
-/
def slicedPlaceholder?
    (names : List String)
    (s : String)
    (start first stop : Nat) : Option String := do
  let name ← Text.between? s first stop
  match names.idxOf? name with
  | some i =>
      if name.isEmpty then Text.between? s start stop
      else some ("$" ++ toString (i + 1))
  | none => Text.between? s start stop

/-
  Number the placeholders of a text while going over its
  characters with their offsets. The scan fails if it has to
  cut the text inside a character.
-/
def scanOffsets?
    (mark : Char)
    (names : List String)
    (s : String) : List (Nat × Char) → Option String
  | [] => some ""
  | (start, c) :: rest =>
      if c = mark then do
        let first := start + c.utf8Size
        let piece ←
          slicedPlaceholder? names s start first
            (Text.skipWord first rest).1
        let out ←
          scanOffsets? mark names s (Text.skipWord first rest).2
        some (piece ++ out)
      else
        (scanOffsets? mark names s rest).map (String.singleton c ++ ·)
termination_by rest => rest.length
decreasing_by
  · exact Nat.lt_succ_of_le (Text.length_skipWord_le _ _)
  · exact Nat.lt_succ_self _

/- The numbered text of a statement, scanned by offsets. -/
def Statement.scanned?
    (st : Statement)
    (d : Dialect) : Option String :=
  scanOffsets? d.placeholderMark (st.params.map Parameter.name) st.sql
    (Text.charOffsets 0 st.sql.toList)

/- Both cuts of a placeholder are between characters. -/
theorem slicedPlaceholder?_eq
    (before after : String)
    (word : List Char) :
    slicedPlaceholder? names
        (before ++ (String.singleton mark ++ String.ofList word) ++ after)
        before.utf8ByteSize
        (before.utf8ByteSize + mark.utf8Size)
        (before.utf8ByteSize + mark.utf8Size +
          (String.ofList word).utf8ByteSize) =
      some (String.ofList (numberedPlaceholder mark names word)) := by
  have hName :
      Text.between?
          (before ++ (String.singleton mark ++ String.ofList word) ++
            after)
          (before.utf8ByteSize + mark.utf8Size)
          (before.utf8ByteSize + mark.utf8Size +
            (String.ofList word).utf8ByteSize) =
        some (String.ofList word) :=
    Text.between?_eq_some_iff.mpr
      ⟨before ++ String.singleton mark, after,
        by simp only [String.append_assoc], by simp, by simp⟩
  have hWhole :
      Text.between?
          (before ++ (String.singleton mark ++ String.ofList word) ++
            after)
          before.utf8ByteSize
          (before.utf8ByteSize + mark.utf8Size +
            (String.ofList word).utf8ByteSize) =
        some (String.ofList (mark :: word)) :=
    Text.between?_eq_some_iff.mpr
      ⟨before, after, by rw [Text.ofList_cons], rfl,
        by simp [Nat.add_assoc]⟩
  unfold numberedPlaceholder
  simp only [slicedPlaceholder?, hName, hWhole, Option.bind_eq_bind,
    Option.bind_some]
  cases names.idxOf? (String.ofList word) with
  | none => rfl
  | some i =>
      cases word with
      | nil => rfl
      | cons c word =>
          have hFound : (String.ofList (c :: word)).isEmpty = false := by
            simp
          simp only [hFound, List.isEmpty_cons, Bool.false_eq_true,
            if_false]
          rw [Text.ofList_cons '$', String.ofList_toList]
          rfl

/-
  The invariant of the scan: the offset in hand is the size of
  the text that was read.
-/
theorem scanOffsets?_eq
    (before : String)
    (cs : List Char) :
    scanOffsets? mark names (before ++ String.ofList cs)
        (Text.charOffsets before.utf8ByteSize cs) =
      some (String.ofList (numberedChars mark names cs)) := by
  induction cs using numberedChars.induct mark generalizing before with
  | case1 => rw [Text.charOffsets, scanOffsets?, numberedChars]
  | case2 cs ih =>
      have hSplit :
          cs.takeWhile Text.isWordChar ++ cs.dropWhile Text.isWordChar =
            cs :=
        List.takeWhile_append_dropWhile
      rw [Text.charOffsets, scanOffsets?, if_pos rfl, numberedChars,
        if_pos rfl, String.ofList_append]
      simp only [Text.skipWord_charOffsets]
      generalize cs.takeWhile Text.isWordChar = word at hSplit ⊢
      generalize cs.dropWhile Text.isWordChar = rest at hSplit ih ⊢
      have hText :
          before ++ String.ofList (mark :: cs) =
            before ++ (String.singleton mark ++ String.ofList word) ++
              String.ofList rest := by
        rw [Text.ofList_cons, ← hSplit, String.ofList_append]
        simp only [String.append_assoc]
      have hSize :
          (before ++ (String.singleton mark ++
              String.ofList word)).utf8ByteSize =
            before.utf8ByteSize + mark.utf8Size +
              (String.ofList word).utf8ByteSize := by
        simp only [String.utf8ByteSize_append,
          String.utf8ByteSize_singleton, Nat.add_assoc]
      have hRest :=
        ih (before ++ (String.singleton mark ++ String.ofList word))
      rw [hSize] at hRest
      rw [hText, slicedPlaceholder?_eq, hRest]
      rfl
  | case3 c cs hOther ih =>
      have hRest := ih (before ++ String.singleton c)
      rw [String.append_assoc, ← Text.ofList_cons,
        String.utf8ByteSize_append, String.utf8ByteSize_singleton]
        at hRest
      rw [Text.charOffsets, scanOffsets?, if_neg hOther, hRest,
        numberedChars, if_neg hOther, Option.map_some,
        Text.ofList_cons]

------------------------------------------------------------
-- Numbered statements
------------------------------------------------------------

/-
  Without a dollar sign in its text, a statement is numbered
  with no loss: the names can be put back, the text becomes
  what the rewriting of placeholders says and nothing else,
  and the scan by offsets gives this text without a cut inside
  a character.
-/
theorem Statement.numbered_changes_only_placeholders
    {st : Statement}
    (d : Dialect)
    (hDollar : '$' ∉ st.sql.toList) :
    st.restored d (st.numbered d).1 = st.sql ∧
      (∀ out,
        Renumbers d.placeholderMark (st.params.map Parameter.name)
            st.sql.toList out ↔
          out = (st.numbered d).1.toList) ∧
      st.scanned? d = some (st.numbered d).1 := by
  have hText :
      (st.numbered d).1.toList =
        numberedChars d.placeholderMark (st.params.map Parameter.name)
          st.sql.toList :=
    String.toList_ofList
  refine ⟨?_, ?_, ?_⟩
  · have hRenumbers :=
      @renumbers_numberedChars d (st.params.map Parameter.name)
        st.sql.toList
    rw [Statement.restored, hText, hRenumbers.restored_eq hDollar,
      String.ofList_toList]
  · intro out
    rw [hText]
    exact renumbers_iff
  · have hScan :=
      @scanOffsets?_eq d.placeholderMark (st.params.map Parameter.name)
        "" st.sql.toList
    rwa [String.ofList_toList, String.empty_append,
      String.utf8ByteSize_empty] at hScan

/-
  Two parameters of one name, names that go on from each other,
  placeholders with nothing between them, marks that stand
  alone, unknown names, and characters of several bytes.
-/
theorem Statement.numbered_text_gives_names_back :
    let st : Statement :=
      { sql := "x = @ab, @a@é_1 @ @@no '@ab_' → @a + @é_12"
        params :=
          [ ⟨"a", .int 1⟩, ⟨"ab", .int 2⟩, ⟨"a", .int 3⟩,
            ⟨"é_1", .null⟩ ]
        kind := .select }
    let numbered := "x = $2, $1$4 @ @@no '@ab_' → $1 + @é_12"
    '$' ∉ st.sql.toList ∧
      (st.numbered .postgres).1 = numbered ∧
      st.restored .postgres numbered = st.sql ∧
      (∀ out,
        Renumbers Dialect.postgres.placeholderMark
            ["a", "ab", "a", "é_1"] st.sql.toList out ↔
          out = numbered.toList) ∧
      st.scanned? .postgres = some numbered := by
  intro st numbered
  have hDollar : '$' ∉ st.sql.toList := by decide +kernel
  have hNumbered : (st.numbered .postgres).1 = numbered := by
    decide +kernel
  have hOnly :=
    Statement.numbered_changes_only_placeholders .postgres hDollar
  rw [hNumbered] at hOnly
  exact ⟨hDollar, hNumbered, hOnly⟩

end EntitySql
