import EntitySql.Proofs.Dialect.NameReading
import EntitySql.Proofs.Statement.Parameters
import EntitySql.Proofs.Statement.Readable

/-
  What numbering makes of quoted names. Quotes are no word
  characters, so that a name is scanned apart from the text
  around it; what is inside the quotes is scanned as well.

  Key definitions include:
    * `Mentions`
    * `Statement.renumber`

  Key theorems include:
    * `numberedChars_append_of_head`
    * `numberedChars_eq_self_iff`
    * `Quoting.numberedChars_quote`
    * `Request.numbered_keeps_name_iff`

  A scan does not know of quotes. It leaves a name alone if and
  only if nothing in the name reads as a placeholder.
-/

namespace EntitySql

variable {d : Dialect}
variable {names : List String}

------------------------------------------------------------
-- Scans of two texts
------------------------------------------------------------

/- A run of characters ends before one that does not belong. -/
theorem takeWhile_append_of_head
    {p : Char → Bool}
    {rest : List Char}
    (hRest : ∀ c ∈ rest.head?, p c = false)
    (cs : List Char) :
    (cs ++ rest).takeWhile p = cs.takeWhile p := by
  induction cs with
  | nil =>
      cases rest with
      | nil => rfl
      | cons c rest => simp [hRest c rfl]
  | cons c cs ih =>
      rw [List.cons_append, List.takeWhile_cons, List.takeWhile_cons,
        ih]

theorem dropWhile_append_of_head
    {p : Char → Bool}
    {rest : List Char}
    (hRest : ∀ c ∈ rest.head?, p c = false)
    (cs : List Char) :
    (cs ++ rest).dropWhile p = cs.dropWhile p ++ rest := by
  induction cs with
  | nil =>
      cases rest with
      | nil => rfl
      | cons c rest => simp [hRest c rfl]
  | cons c cs ih =>
      rw [List.cons_append, List.dropWhile_cons, List.dropWhile_cons,
        ih]
      split <;> rfl

/-
  Two texts are numbered apart if no word goes on from the
  first into the second.
-/
theorem numberedChars_append_of_head
    {mark : Char}
    {rest : List Char}
    (hRest : ∀ c ∈ rest.head?, Text.isWordChar c = false)
    (cs : List Char) :
    numberedChars mark names (cs ++ rest) =
      numberedChars mark names cs ++
        numberedChars mark names rest := by
  induction cs using numberedChars.induct mark with
  | case1 => simp [numberedChars]
  | case2 cs ih =>
      rw [List.cons_append, numberedChars, if_pos rfl, numberedChars,
        if_pos rfl, takeWhile_append_of_head hRest,
        dropWhile_append_of_head hRest, ih, List.append_assoc]
  | case3 c cs hOther ih =>
      rw [List.cons_append, numberedChars, if_neg hOther,
        numberedChars, if_neg hOther, ih, List.cons_append]

------------------------------------------------------------
-- Text that stays
------------------------------------------------------------

/-
  The text holds the placeholder of a known name: the mark and
  the name, with no word character after it.
-/
def Mentions
    (mark : Char)
    (names : List String)
    (cs : List Char) : Prop :=
  ∃ before word after,
    cs = before ++ mark :: word ++ after ∧
    (∀ c ∈ word, Text.isWordChar c = true) ∧
    (∀ c ∈ after.head?, Text.isWordChar c = false) ∧
    word ≠ [] ∧
    String.ofList word ∈ names

theorem Dialect.mark_notMem_number
    (n : Nat) :
    d.placeholderMark ∉ '$' :: (toString n).toList := by
  rw [List.mem_cons, not_or]
  refine ⟨?_, mark_notMem_of_word (Text.word_toString n)⟩
  unfold placeholderMark
  decide

/- A placeholder that is numbered loses its mark. -/
theorem count_numberedPlaceholder_le
    (word : List Char) :
    (numberedPlaceholder d.placeholderMark names word).count
        d.placeholderMark ≤
      (d.placeholderMark :: word).count d.placeholderMark := by
  unfold numberedPlaceholder
  split
  · split
    · simp
    · rw [List.count_eq_zero_of_not_mem
        (Dialect.mark_notMem_number _)]
      exact Nat.zero_le _
  · exact Nat.le_refl _

/- No mark is written that was not there. -/
theorem count_numberedChars_le
    (cs : List Char) :
    (numberedChars d.placeholderMark names cs).count
        d.placeholderMark ≤
      cs.count d.placeholderMark := by
  induction cs using numberedChars.induct d.placeholderMark with
  | case1 => simp [numberedChars]
  | case2 cs ih =>
      have hWord :=
        @count_numberedPlaceholder_le d names
          (cs.takeWhile Text.isWordChar)
      have hSplit :
          (d.placeholderMark :: cs).count d.placeholderMark =
            (d.placeholderMark :: cs.takeWhile Text.isWordChar).count
                d.placeholderMark +
              (cs.dropWhile Text.isWordChar).count
                d.placeholderMark := by
        rw [← List.count_append, List.cons_append,
          List.takeWhile_append_dropWhile]
      rw [numberedChars, if_pos rfl, List.count_append, hSplit]
      omega
  | case3 c cs hOther ih =>
      rw [numberedChars, if_neg hOther, List.count_cons,
        List.count_cons]
      omega

theorem numberedPlaceholder_of_mem
    {mark : Char}
    {word : List Char}
    (hNonempty : word ≠ [])
    (hKnown : String.ofList word ∈ names) :
    ∃ n,
      numberedPlaceholder mark names word =
        '$' :: (toString (n : Nat)).toList := by
  unfold numberedPlaceholder
  split
  · rename_i i _
    exact ⟨i + 1, by simp [hNonempty]⟩
  · rename_i hNone
    exact absurd hKnown (List.idxOf?_eq_none_iff.mp hNone)

theorem numberedPlaceholder_of_notMem
    {mark : Char}
    {word : List Char}
    (hUnknown : word = [] ∨ String.ofList word ∉ names) :
    numberedPlaceholder mark names word = mark :: word := by
  unfold numberedPlaceholder
  split
  · rename_i i hSome
    have hKnown : String.ofList word ∈ names := by
      by_contra hNot
      rw [List.idxOf?_eq_none_iff.mpr hNot] at hSome
      cases hSome
    rw [hUnknown.resolve_right (not_not_intro hKnown)]
    rfl
  · rfl

/- Text that mentions a name loses the mark of that mention. -/
theorem numberedChars_ne_of_mentions
    {cs : List Char}
    (hMentions : Mentions d.placeholderMark names cs) :
    numberedChars d.placeholderMark names cs ≠ cs := by
  rcases hMentions with
    ⟨before, word, after, rfl, hWord, hAfter, hNonempty, hKnown⟩
  intro hSame
  have hMark : ∀ c ∈ (d.placeholderMark :: (word ++ after)).head?,
      Text.isWordChar c = false := by
    intro c hHead
    cases hHead
    exact Dialect.placeholderMark_not_word
  rcases @numberedPlaceholder_of_mem names d.placeholderMark word
    hNonempty hKnown with ⟨n, hNumber⟩
  have hCount := congrArg (List.count d.placeholderMark) hSame
  rw [List.append_assoc, List.cons_append,
    numberedChars_append_of_head hMark, numberedChars, if_pos rfl,
    takeWhile_append_of_head hAfter, dropWhile_append_of_head hAfter,
    List.takeWhile_eq_self_iff.mpr hWord,
    List.dropWhile_eq_nil_iff.mpr hWord, List.nil_append, hNumber,
    List.count_append, List.count_append, List.count_append,
    List.count_eq_zero_of_not_mem (Dialect.mark_notMem_number n),
    List.count_cons_self, List.count_append] at hCount
  have hBefore := @count_numberedChars_le d names before
  have hRest := @count_numberedChars_le d names after
  omega

theorem numberedChars_of_not_mentions
    {cs : List Char}
    (hMentions : ¬ Mentions d.placeholderMark names cs) :
    numberedChars d.placeholderMark names cs = cs := by
  induction cs using numberedChars.induct d.placeholderMark with
  | case1 => rw [numberedChars]
  | case2 cs ih =>
      have hUnknown :
          cs.takeWhile Text.isWordChar = [] ∨
            String.ofList (cs.takeWhile Text.isWordChar) ∉ names := by
        by_contra hKnown
        rw [not_or, not_not] at hKnown
        refine hMentions
          ⟨[], cs.takeWhile Text.isWordChar,
            cs.dropWhile Text.isWordChar, ?_, ?_, ?_, hKnown⟩
        · simp
        · exact fun c hMem => List.mem_takeWhile_imp hMem
        · intro c hHead
          have hEnds :=
            List.head?_dropWhile_not Text.isWordChar cs
          rwa [hHead] at hEnds
      have hRest :
          ¬ Mentions d.placeholderMark names
            (cs.dropWhile Text.isWordChar) := by
        rintro ⟨before, word, after, hSplit, hWord⟩
        refine hMentions
          ⟨d.placeholderMark ::
              (cs.takeWhile Text.isWordChar ++ before),
            word, after, ?_, hWord⟩
        rw [List.cons_append, List.cons_append, List.append_assoc,
          List.append_assoc, ← List.append_assoc before, ← hSplit,
          List.takeWhile_append_dropWhile]
      rw [numberedChars, if_pos rfl,
        numberedPlaceholder_of_notMem hUnknown, ih hRest,
        List.cons_append, List.takeWhile_append_dropWhile]
  | case3 c cs hOther ih =>
      have hRest : ¬ Mentions d.placeholderMark names cs := by
        rintro ⟨before, word, after, rfl, hWord⟩
        exact hMentions ⟨c :: before, word, after, rfl, hWord⟩
      rw [numberedChars, if_neg hOther, ih hRest]

/- Text stays as it is if and only if it mentions no name. -/
theorem numberedChars_eq_self_iff
    (cs : List Char) :
    numberedChars d.placeholderMark names cs = cs ↔
      ¬ Mentions d.placeholderMark names cs :=
  ⟨fun hSame hMentions => numberedChars_ne_of_mentions hMentions hSame,
    numberedChars_of_not_mentions⟩

------------------------------------------------------------
-- Quoted text
------------------------------------------------------------

namespace Quoting

variable {q : Quoting}

/- The closing quote ends a word, and so do two of them. -/
theorem takeWhile_doubled
    (hClosing : Text.isWordChar q.closing = false)
    (cs : List Char) :
    (q.doubled cs).takeWhile Text.isWordChar =
      cs.takeWhile Text.isWordChar := by
  induction cs with
  | nil => rfl
  | cons c cs ih =>
      by_cases hQuote : c = q.closing
      · rw [hQuote, doubled_closing]
        simp [hClosing]
      · rw [doubled_cons_of_ne hQuote, List.takeWhile_cons,
          List.takeWhile_cons, ih]

theorem dropWhile_doubled
    (hClosing : Text.isWordChar q.closing = false)
    (cs : List Char) :
    (q.doubled cs).dropWhile Text.isWordChar =
      q.doubled (cs.dropWhile Text.isWordChar) := by
  induction cs with
  | nil => rfl
  | cons c cs ih =>
      by_cases hQuote : c = q.closing
      · rw [hQuote, doubled_closing]
        simp [hClosing, doubled_closing]
      · rw [doubled_cons_of_ne hQuote, List.dropWhile_cons,
          List.dropWhile_cons, ih]
        split
        · rfl
        · rw [doubled_cons_of_ne hQuote]

end Quoting

theorem Dialect.closing_not_word
    (d : Dialect) :
    Text.isWordChar d.quoting.closing = false := by
  cases d <;> decide

/- A placeholder holds no quote, whether it is known or not. -/
theorem closing_notMem_numberedPlaceholder
    {word : List Char}
    (hWord : ∀ c ∈ word, Text.isWordChar c = true) :
    d.quoting.closing ∉
      numberedPlaceholder d.placeholderMark names word := by
  have hNotIn {cs : List Char}
      (hWord : ∀ c ∈ cs, Text.isWordChar c = true) :
      d.quoting.closing ∉ cs := by
    intro hMem
    have hClosing := hWord _ hMem
    rw [d.closing_not_word] at hClosing
    cases hClosing
  have hMark : d.quoting.closing ≠ d.placeholderMark := by
    cases d <;> decide
  have hDollar : d.quoting.closing ≠ '$' := by
    cases d <;> decide
  unfold numberedPlaceholder
  split
  · split
    · simpa using hMark
    · rw [List.mem_cons, not_or]
      exact ⟨hDollar, hNotIn (Text.word_toString _)⟩
  · rw [List.mem_cons, not_or]
    exact ⟨hMark, hNotIn hWord⟩

/- Doubling quotes and numbering do not meet. -/
theorem Quoting.numberedChars_doubled
    (cs : List Char) :
    numberedChars d.placeholderMark names (d.quoting.doubled cs) =
      d.quoting.doubled
        (numberedChars d.placeholderMark names cs) := by
  have hMark : d.placeholderMark ≠ d.quoting.closing := by
    cases d <;> decide
  induction cs using numberedChars.induct d.placeholderMark with
  | case1 => simp [doubled, numberedChars]
  | case2 cs ih =>
      have hPlaceholder :=
        @closing_notMem_numberedPlaceholder d names
          (cs.takeWhile Text.isWordChar)
          fun c hMem => List.mem_takeWhile_imp hMem
      rw [doubled_cons_of_ne hMark, numberedChars, if_pos rfl,
        takeWhile_doubled d.closing_not_word,
        dropWhile_doubled d.closing_not_word, ih, numberedChars,
        if_pos rfl, doubled_append, doubled_eq_self hPlaceholder]
  | case3 c cs hOther ih =>
      rw [numberedChars, if_neg hOther]
      by_cases hQuote : c = d.quoting.closing
      · subst hQuote
        rw [doubled_closing, doubled_closing, numberedChars,
          if_neg hOther, numberedChars, if_neg hOther, ih]
      · rw [doubled_cons_of_ne hQuote, doubled_cons_of_ne hQuote,
          numberedChars, if_neg hOther, ih]

/-
  A quoted text is numbered inside its quotes, and what comes
  after it is numbered apart.
-/
theorem Quoting.numberedChars_quote
    (cs rest : List Char) :
    numberedChars d.placeholderMark names
        (d.quoting.quote cs ++ rest) =
      d.quoting.quote (numberedChars d.placeholderMark names cs) ++
        numberedChars d.placeholderMark names rest := by
  have hOpening : d.quoting.opening ≠ d.placeholderMark := by
    cases d <;> decide
  have hClosing : d.quoting.closing ≠ d.placeholderMark := by
    cases d <;> decide
  have hEnd : ∀ c ∈ (d.quoting.closing :: rest).head?,
      Text.isWordChar c = false := by
    intro c hHead
    cases hHead
    exact d.closing_not_word
  have hLast :
      numberedChars d.placeholderMark names
          (d.quoting.closing :: rest) =
        d.quoting.closing ::
          numberedChars d.placeholderMark names rest := by
    rw [numberedChars, if_neg hClosing]
  rw [quote_eq, List.cons_append, List.append_assoc,
    List.singleton_append, numberedChars, if_neg hOpening,
    numberedChars_append_of_head hEnd, hLast, numberedChars_doubled,
    quote_eq, List.cons_append, List.append_assoc,
    List.singleton_append]

/- A quote ends the word before it. -/
theorem Quoting.quote_head_not_word
    (cs rest : List Char) :
    ∀ c ∈ (d.quoting.quote cs ++ rest).head?,
      Text.isWordChar c = false := by
  intro c hHead
  cases hHead
  cases d <;> decide

------------------------------------------------------------
-- Names of statements
------------------------------------------------------------

/- A part of the text of a statement, numbered as the whole is. -/
def Statement.renumber
    (st : Statement)
    (d : Dialect)
    (part : String) : String :=
  ({ st with sql := part }.numbered d).1

/- The text around a quoted name is numbered apart from it. -/
theorem Statement.renumber_around_quoteName
    (st : Statement)
    (d : Dialect)
    (left name right : String) :
    st.renumber d (left ++ d.quoteName name ++ right) =
      st.renumber d left ++ d.quoteName (st.renumber d name) ++
        st.renumber d right := by
  simp only [renumber, numbered, Dialect.quoteName,
    String.toList_append, String.toList_ofList,
    numberedChars_append_of_head
      (Quoting.quote_head_not_word name.toList right.toList),
    Quoting.numberedChars_quote, String.ofList_append,
    String.append_assoc]

theorem Statement.renumber_eq_self_iff
    (st : Statement)
    (d : Dialect)
    (part : String) :
    st.renumber d part = part ↔
      ¬ Mentions d.placeholderMark (st.params.map Parameter.name)
        part.toList := by
  rw [← numberedChars_eq_self_iff, ← String.toList_inj, renumber,
    numbered, String.toList_ofList]

/-
  For any names of tables, schemas and columns: around every
  quoted name of a statement the text is numbered apart, and
  the name is numbered inside its quotes. It stays as it is if
  and only if it mentions no parameter of the statement.
-/
theorem Request.numbered_keeps_name_iff
    {request : Request}
    {naming : TableNaming}
    {st : Statement}
    (hStatement : request.statement naming d = .ok st) :
    ∃ command,
      request.draft naming = .ok ⟨command, st.params⟩ ∧
      ∀ left name right,
        command.sql d = left ++ Sql.name name ++ right →
        st.sql = left.text d ++ d.quoteName name ++ right.text d ∧
        (st.numbered d).1 =
          st.renumber d (left.text d) ++
            d.quoteName (st.renumber d name) ++
            st.renumber d (right.text d) ∧
        (d.quoteName (st.renumber d name) = d.quoteName name ↔
          ¬ Mentions d.placeholderMark
            (st.params.map Parameter.name) name.toList) := by
  rcases Request.exists_yields_of_statement hStatement with
    ⟨command, params, hYields, rfl⟩
  refine ⟨command, Request.draft_eq_ok_iff.mpr hYields, ?_⟩
  intro left name right hSql
  have hText :
      (command.sql d).text d =
        left.text d ++ d.quoteName name ++ right.text d := by
    rw [hSql, Sql.text_append, Sql.text_append, Sql.text_name]
  refine ⟨hText, ?_, ?_⟩
  · rw [← Statement.renumber_around_quoteName, ← hText]
    rfl
  · rw [← Statement.renumber_eq_self_iff]
    exact ⟨Dialect.quoteName_injective, congrArg d.quoteName⟩

/- Names with brackets and with a mark in them, in SQL Server. -/
theorem Request.bracketed_names_stay :
    let doc : EntityType :=
      { key := ⟨0, "Doc"⟩, table := "do[c]s"
        properties :=
          [ { column := "rating", declaredType := "i64",
              type := ⟨.integer .int64, false⟩ } ] }
    let naming : TableNaming := { defaultSchema := some "crm@eu" }
    let request : Request :=
      .updateWhere doc ⟨[("rating", .int 5)]⟩ (.literal true)
    let st : Statement :=
      { sql :=
          "UPDATE [crm@eu].[do[c]]s] SET [rating] = @rating " ++
          "WHERE (1 = 1)"
        params := [⟨"rating", .int 5⟩]
        kind := .update }
    request.statement naming .sqlServer = .ok st ∧
      ∃ command,
        request.draft naming = .ok ⟨command, st.params⟩ ∧
        ∀ left name right,
          command.sql .sqlServer = left ++ Sql.name name ++ right →
          st.sql =
            left.text .sqlServer ++ Dialect.sqlServer.quoteName name ++
              right.text .sqlServer ∧
          (st.numbered .sqlServer).1 =
            st.renumber .sqlServer (left.text .sqlServer) ++
              Dialect.sqlServer.quoteName
                (st.renumber .sqlServer name) ++
              st.renumber .sqlServer (right.text .sqlServer) ∧
          (Dialect.sqlServer.quoteName (st.renumber .sqlServer name) =
              Dialect.sqlServer.quoteName name ↔
            ¬ Mentions Dialect.sqlServer.placeholderMark
              (st.params.map Parameter.name) name.toList) := by
  refine ⟨?_, Request.numbered_keeps_name_iff ?_⟩
  · decide +kernel
  · decide +kernel

/-
  A schema whose name holds the placeholder of a parameter is
  numbered like one: the table is then in another schema.
-/
theorem Request.schema_reads_as_placeholder :
    let blog : EntityType :=
      { key := ⟨0, "Blog"⟩, table := "blogs"
        properties :=
          [ { column := "id", declaredType := "i64",
              type := ⟨.integer .int64, false⟩, identity := true },
            { column := "rating", declaredType := "i64",
              type := ⟨.integer .int64, false⟩ } ] }
    let naming : TableNaming := { defaultSchema := some "crm@rating" }
    let request : Request :=
      .updateWhere blog ⟨[("rating", .int 5)]⟩
        ((ColumnRef.of blog "id").compareValue .eq (.int 1))
    let st : Statement :=
      { sql :=
          "UPDATE \"crm@rating\".\"blogs\" SET \"rating\" = " ++
          "@rating WHERE (\"id\" = @id)"
        params := [⟨"rating", .int 5⟩, ⟨"id", .int 1⟩]
        kind := .update }
    request.statement naming .sqlite = .ok st ∧
      st.sql =
        "UPDATE " ++ Dialect.sqlite.quoteName "crm@rating" ++
          ".\"blogs\" SET \"rating\" = @rating WHERE (\"id\" = @id)" ∧
      (st.numbered .sqlite).1 =
        "UPDATE " ++ Dialect.sqlite.quoteName "crm$1" ++
          ".\"blogs\" SET \"rating\" = $1 WHERE (\"id\" = $2)" ∧
      ¬ (Dialect.sqlite.quoteName "crm@rating").toList <:+:
        (st.numbered .sqlite).1.toList := by
  refine ⟨?_, ?_, ?_, ?_⟩
  · decide +kernel
  · decide +kernel
  · decide +kernel
  · decide +kernel

end EntitySql
