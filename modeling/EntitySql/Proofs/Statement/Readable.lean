import EntitySql.Proofs.Predicate.Identifiers
import EntitySql.Proofs.Statement.Places

/-
  This file says when the placeholders of SQL can be told from
  the text around them.

  Key definitions include:
    * `Sql.Readable`, `Sql.Sealed`
    * `Sql.numberedText`

  Key theorems include:
    * `Sql.Sealed.append`, `Sql.Readable.append_words`
    * `Sql.readable_commaList`
    * `Sql.numberedChars_text`

  A placeholder runs to the last word character after its
  mark. So the mark must not occur elsewhere, and no word
  character may follow a placeholder.
-/

namespace EntitySql

variable {d : Dialect}

------------------------------------------------------------
-- Marks
------------------------------------------------------------

theorem Dialect.placeholderMark_not_word :
    Text.isWordChar d.placeholderMark = false := by
  unfold Dialect.placeholderMark
  decide

/- The mark is the same in every dialect. -/
theorem Dialect.mark_notMem
    {cs : List Char}
    (hMark : '@' ∉ cs) :
    d.placeholderMark ∉ cs :=
  hMark

/- Word characters do not hold the mark. -/
theorem Dialect.mark_notMem_of_word
    {cs : List Char}
    (hWord : ∀ c ∈ cs, Text.isWordChar c = true) :
    d.placeholderMark ∉ cs := by
  intro hMem
  have hMark := hWord d.placeholderMark hMem
  rw [placeholderMark_not_word] at hMark
  cases hMark

namespace Sql

------------------------------------------------------------
-- Readable SQL
------------------------------------------------------------

/- The mark stands in front of placeholders only. -/
def Piece.IsClean
    (d : Dialect) : Piece → Prop
  | .words text => d.placeholderMark ∉ text.toList
  | .name identifier => d.placeholderMark ∉ identifier.toList
  | .tableAlias _ => True
  | .placeholder parameter => Text.IsIdentifier parameter

def Piece.isPlaceholder : Piece → Bool
  | .placeholder _ => true
  | _ => false

/- Words that do not continue a name before them. -/
def Piece.breaks : Piece → Bool
  | .words text =>
      text.toList.head?.any fun c => !Text.isWordChar c
  | _ => false

/- If the first piece is a placeholder, the second ends it. -/
def Piece.Parts
    (p q : Piece) : Prop :=
  p.isPlaceholder = true → q.breaks = true

/- SQL whose placeholders can be found in its text. -/
structure Readable
    (d : Dialect)
    (sql : Sql) : Prop where
  clean : ∀ p ∈ sql, p.IsClean d
  parted : sql.IsChain Piece.Parts

/- Readable SQL that does not end with a placeholder. -/
structure Sealed
    (d : Dialect)
    (sql : Sql) : Prop extends Readable d sql where
  closed : ∀ p ∈ sql.getLast?, p.isPlaceholder = false

variable {sql left right : Sql}

theorem Readable.append
    (hLeft : left.Readable d)
    (hRight : right.Readable d)
    (hParts :
      ∀ p ∈ left.getLast?, ∀ q ∈ right.head?, p.Parts q) :
    (left ++ right).Readable d := by
  constructor
  case clean =>
    intro p hMem
    rcases List.mem_append.mp hMem with hIn | hIn
    · exact hLeft.clean p hIn
    · exact hRight.clean p hIn
  case parted =>
    exact List.isChain_append.mpr
      ⟨hLeft.parted, hRight.parted, hParts⟩

/- Anything may follow what is sealed. -/
theorem Sealed.append_readable
    (hLeft : left.Sealed d)
    (hRight : right.Readable d) :
    (left ++ right).Readable d := by
  apply hLeft.toReadable.append hRight
  intro p hLast q _ hPlaceholder
  rw [hLeft.closed p hLast] at hPlaceholder
  cases hPlaceholder

theorem Sealed.append
    (hLeft : left.Sealed d)
    (hRight : right.Sealed d) :
    (left ++ right).Sealed d := by
  refine ⟨hLeft.append_readable hRight.toReadable, ?_⟩
  intro p hLast
  rw [List.getLast?_append] at hLast
  cases hRightLast : right.getLast? with
  | none =>
      rw [hRightLast, Option.none_or] at hLast
      exact hLeft.closed p hLast
  | some q =>
      rw [hRightLast, Option.some_or] at hLast
      exact hRight.closed p (hRightLast ▸ hLast)

/- Pieces other than placeholders part nothing. -/
theorem sealed_of_forall
    (hClean : ∀ p ∈ sql, p.IsClean d ∧ p.isPlaceholder = false) :
    sql.Sealed d := by
  have hParted : sql.IsChain Piece.Parts := by
    induction sql with
    | nil => exact .nil
    | cons p sql ih =>
        rw [List.forall_mem_cons] at hClean
        refine List.isChain_cons.mpr ⟨?_, ih hClean.2⟩
        intro q _ hPlaceholder
        rw [hClean.1.2] at hPlaceholder
        cases hPlaceholder
  refine ⟨⟨fun p hMem => (hClean p hMem).1, hParted⟩, ?_⟩
  intro p hLast
  exact (hClean p (List.mem_of_getLast? hLast)).2

theorem sealed_nil :
    Sealed d [] :=
  sealed_of_forall nofun

theorem sealed_words
    {text : String}
    (hMark : d.placeholderMark ∉ text.toList) :
    (words text).Sealed d := by
  apply sealed_of_forall
  intro p hMem
  rw [List.mem_singleton.mp hMem]
  exact ⟨hMark, rfl⟩

/- The words of the language hold no mark. -/
theorem sealed_literal
    {text : String}
    (hMark : '@' ∉ text.toList) :
    (words text).Sealed d :=
  sealed_words (Dialect.mark_notMem hMark)

theorem sealed_name
    {identifier : String}
    (hMark : d.placeholderMark ∉ identifier.toList) :
    (name identifier).Sealed d := by
  apply sealed_of_forall
  intro p hMem
  rw [List.mem_singleton.mp hMem]
  exact ⟨hMark, rfl⟩

theorem sealed_alias
    (a : TableAlias) :
    Sealed d [.tableAlias a] := by
  apply sealed_of_forall
  intro p hMem
  rw [List.mem_singleton.mp hMem]
  exact ⟨trivial, rfl⟩

theorem readable_placeholder
    {parameter : String}
    (hName : Text.IsIdentifier parameter) :
    (placeholder parameter).Readable d := by
  constructor
  case clean =>
    intro p hMem
    rw [List.mem_singleton.mp hMem]
    exact hName
  case parted => exact .singleton _

/- Words that break a name seal what is before them. -/
theorem Readable.append_words
    {text : String}
    (hSql : sql.Readable d)
    (hMark : d.placeholderMark ∉ text.toList)
    (hBreaks : (Piece.words text).breaks = true) :
    (sql ++ words text).Sealed d := by
  have hWords : (words text).Sealed d := sealed_words hMark
  constructor
  case toReadable =>
    apply hSql.append hWords.toReadable
    intro p _ q hHead _
    cases hHead
    exact hBreaks
  case closed =>
    intro p hLast
    rw [words, List.getLast?_concat] at hLast
    cases hLast
    rfl

theorem Readable.parenthesized
    (hSql : sql.Readable d) :
    sql.parenthesized.Sealed d := by
  have hOpen : (words "(").Sealed d :=
    sealed_words (by unfold Dialect.placeholderMark; decide)
  apply (hOpen.append_readable hSql).append_words
  · unfold Dialect.placeholderMark
    decide
  · decide

------------------------------------------------------------
-- Lists
------------------------------------------------------------

theorem sealed_flatMap
    {α : Type}
    {f : α → Sql}
    {items : List α}
    (hItems : ∀ item ∈ items, (f item).Sealed d) :
    Sealed d (items.flatMap f) := by
  induction items with
  | nil => exact sealed_nil
  | cons item items ih =>
      rw [List.forall_mem_cons] at hItems
      rw [List.flatMap_cons]
      exact hItems.1.append (ih hItems.2)

variable {separator : String}
variable {items : List Sql}

theorem sealed_joinWith
    (hMark : d.placeholderMark ∉ separator.toList)
    (hItems : ∀ item ∈ items, item.Sealed d) :
    (joinWith separator items).Sealed d := by
  cases items with
  | nil => exact sealed_nil
  | cons first rest =>
      rw [List.forall_mem_cons] at hItems
      apply hItems.1.append
      apply sealed_flatMap
      intro item hMem
      exact (sealed_words hMark).append (hItems.2 item hMem)

/- A separator that breaks names parts the items. -/
theorem readable_joinWith
    (hMark : d.placeholderMark ∉ separator.toList)
    (hBreaks : (Piece.words separator).breaks = true)
    (hItems : ∀ item ∈ items, item.Readable d) :
    (joinWith separator items).Readable d := by
  cases items with
  | nil => exact sealed_nil.toReadable
  | cons first rest =>
      simp only [joinWith]
      induction rest generalizing first with
      | nil => simpa using hItems
      | cons item rest ih =>
          simp only [List.forall_mem_cons] at hItems
          have hFirst :
              (first ++ (words separator ++ item)).Readable d := by
            rw [← List.append_assoc]
            apply Sealed.append_readable _ hItems.2.1
            exact hItems.1.append_words hMark hBreaks
          have hRest :=
            ih _ (List.forall_mem_cons.mpr ⟨hFirst, hItems.2.2⟩)
          rwa [List.append_assoc] at hRest

theorem sealed_commaList
    (hItems : ∀ item ∈ items, item.Sealed d) :
    (commaList items).Sealed d := by
  apply sealed_joinWith _ hItems
  unfold Dialect.placeholderMark
  decide

theorem readable_commaList
    (hItems : ∀ item ∈ items, item.Readable d) :
    (commaList items).Readable d := by
  apply readable_joinWith _ _ hItems
  · unfold Dialect.placeholderMark
    decide
  · decide

end Sql

------------------------------------------------------------
-- Scanning
------------------------------------------------------------

variable {mark : Char}
variable {names : List String}

/- Text without the mark is copied. -/
theorem numberedChars_append_of_notMem
    {cs : List Char}
    (hMark : mark ∉ cs)
    (rest : List Char) :
    numberedChars mark names (cs ++ rest) =
      cs ++ numberedChars mark names rest := by
  induction cs with
  | nil => rfl
  | cons c cs ih =>
      rw [List.mem_cons, not_or] at hMark
      rw [List.cons_append, numberedChars, if_neg (Ne.symm hMark.1),
        ih hMark.2, List.cons_append]

/-
  A known name after the mark becomes its number, if what
  follows does not continue it.
-/
theorem numberedChars_placeholder
    {parameter : String}
    (hName : Text.IsIdentifier parameter)
    (hKnown : parameter ∈ names)
    (rest : List Char)
    (hRest : ∀ c ∈ rest.head?, Text.isWordChar c = false) :
    numberedChars mark names
        (mark :: (parameter.toList ++ rest)) =
      '$' :: (toString (names.idxOf parameter + 1)).toList ++
        numberedChars mark names rest := by
  have hTake : rest.takeWhile Text.isWordChar = [] := by
    cases rest with
    | nil => rfl
    | cons c rest =>
        rw [List.takeWhile_cons, hRest c rfl]
        rfl
  have hDrop : rest.dropWhile Text.isWordChar = rest := by
    cases rest with
    | nil => rfl
    | cons c rest =>
        rw [List.dropWhile_cons, hRest c rfl]
        rfl
  have hNonempty : parameter.toList.isEmpty = false := by
    rw [List.isEmpty_eq_false_iff]
    intro hNil
    exact hName.ne_empty (String.toList_eq_nil_iff.mp hNil)
  have hFound :
      names.idxOf? parameter = some (names.idxOf parameter) := by
    cases hIndex : names.idxOf? parameter with
    | none => exact absurd hKnown (List.idxOf?_eq_none_iff.mp hIndex)
    | some i => rw [List.idxOf_eq_getD_idxOf?, hIndex, Option.getD_some]
  rw [numberedChars, if_pos rfl,
    List.takeWhile_append_of_pos hName.word,
    List.dropWhile_append_of_pos hName.word,
    hTake, hDrop, List.append_nil, numberedPlaceholder,
    String.ofList_toList, hFound]
  simp only [hNonempty, Bool.false_eq_true, if_false]

namespace Sql

/- The text with the number of every parameter in its place. -/
def Piece.numberedText
    (d : Dialect)
    (names : List String) : Piece → String
  | .placeholder parameter =>
      "$" ++ toString (names.idxOf parameter + 1)
  | p => p.text d

def numberedText
    (d : Dialect)
    (names : List String)
    (sql : Sql) : String :=
  String.join (sql.map (Piece.numberedText d names))

@[simp] theorem text_cons
    (p : Piece)
    (sql : Sql) :
    text d (p :: sql) = p.text d ++ text d sql := by
  simp [text]

theorem text_append
    (left right : Sql) :
    (left ++ right).text d = left.text d ++ right.text d := by
  simp [text]

theorem text_words
    (s : String) :
    (words s).text d = s := by
  simp [text, words, Piece.text]

theorem text_name
    (identifier : String) :
    (name identifier).text d = d.quoteName identifier := by
  simp [text, name, Piece.text]

@[simp] theorem numberedText_cons
    (p : Piece)
    (sql : Sql) :
    numberedText d names (p :: sql) =
      p.numberedText d names ++ numberedText d names sql := by
  simp [numberedText]

theorem Piece.numberedText_eq_text
    {p : Piece}
    (hPiece : p.isPlaceholder = false) :
    p.numberedText d names = p.text d := by
  cases p with
  | placeholder parameter => cases hPiece
  | words text => rfl
  | name identifier => rfl
  | tableAlias a => rfl

theorem Piece.eq_placeholder
    {p : Piece}
    (hPiece : p.isPlaceholder = true) :
    ∃ parameter, p = .placeholder parameter := by
  cases p with
  | placeholder parameter => exact ⟨parameter, rfl⟩
  | words text => cases hPiece
  | name identifier => cases hPiece
  | tableAlias a => cases hPiece

theorem Piece.not_placeholder_of_breaks
    {p : Piece}
    (hBreaks : p.breaks = true) :
    p.isPlaceholder = false := by
  cases p with
  | words text => rfl
  | name identifier => rfl
  | tableAlias a => rfl
  | placeholder parameter => cases hBreaks

/- Quotes and aliases hold no mark either. -/
theorem Piece.mark_notMem_text
    {p : Piece}
    (hClean : p.IsClean d)
    (hPiece : p.isPlaceholder = false) :
    d.placeholderMark ∉ (p.text d).toList := by
  cases p with
  | placeholder parameter => cases hPiece
  | words text => exact hClean
  | name identifier =>
      have hName : d.placeholderMark ∉ identifier.toList := hClean
      have hOpening : d.placeholderMark ≠ d.quoting.opening := by
        cases d <;> decide
      have hClosing : d.placeholderMark ≠ d.quoting.closing := by
        cases d <;> decide
      simp only [text, Dialect.quoteName, String.toList_ofList,
        Quoting.quote, List.cons_append, List.mem_cons,
        List.mem_append, List.mem_flatMap, List.not_mem_nil,
        or_false, not_or, not_exists, not_and]
      refine ⟨hOpening, ?_, hClosing⟩
      intro c hMem hMark
      split at hMark
      · rename_i hQuote
        simp only [hQuote, List.mem_cons, List.not_mem_nil,
          or_false, or_self] at hMark
        exact hClosing hMark
      · rw [List.mem_singleton.mp hMark] at hName
        exact hName hMem
  | tableAlias a =>
      apply Dialect.mark_notMem_of_word
      intro c hMem
      simp only [text, TableAlias.text, String.toList_append,
        List.mem_append] at hMem
      rcases hMem with hLetter | hDigits
      · have hT : c = 't' := by simpa using hLetter
        rw [hT]
        decide
      · exact Text.word_toString a.number c hDigits

/- Text that begins with a break begins with no word. -/
theorem Piece.not_word_of_breaks
    {p : Piece}
    (hBreaks : p.breaks = true)
    (rest : String) :
    ∀ c ∈ (p.text d ++ rest).toList.head?,
      Text.isWordChar c = false := by
  cases p with
  | words s =>
      intro c hHead
      rw [String.toList_append, List.head?_append] at hHead
      cases hFirst : s.toList.head? with
      | none => simp [breaks, hFirst] at hBreaks
      | some first =>
          simp only [breaks, hFirst, Option.any_some,
            Bool.not_eq_true'] at hBreaks
          simp only [text, hFirst, Option.some_or,
            Option.mem_some_iff] at hHead
          rw [← hHead]
          exact hBreaks
  | name identifier => cases hBreaks
  | tableAlias a => cases hBreaks
  | placeholder parameter => cases hBreaks

/-
  Numbering the finished text gives what writing the numbers
  in the first place would have given. The induction is on the
  pieces, so that a scan never starts within one.
-/
theorem numberedChars_text
    {sql : Sql}
    (hReadable : sql.Readable d)
    (hKnown : ∀ name ∈ sql.placeholders, name ∈ names) :
    numberedChars d.placeholderMark names (sql.text d).toList =
      (sql.numberedText d names).toList := by
  rcases hReadable with ⟨hClean, hParted⟩
  induction sql with
  | nil => simp [text, numberedText, numberedChars]
  | cons p sql ih =>
      rw [List.forall_mem_cons] at hClean
      rcases List.isChain_cons.mp hParted with ⟨hParts, hParted⟩
      rw [← List.singleton_append, placeholders_append,
        List.forall_mem_append] at hKnown
      have hRest := ih hKnown.2 hClean.2 hParted
      rw [text_cons, numberedText_cons, String.toList_append,
        String.toList_append]
      cases hPiece : p.isPlaceholder with
      | false =>
          have hMark := Piece.mark_notMem_text hClean.1 hPiece
          rw [numberedChars_append_of_notMem hMark,
            Piece.numberedText_eq_text hPiece, hRest]
      | true =>
          rcases Piece.eq_placeholder hPiece with ⟨parameter, rfl⟩
          have hEnds : ∀ c ∈ (text d sql).toList.head?,
              Text.isWordChar c = false := by
            cases sql with
            | nil => simp [text]
            | cons q sql =>
                rw [text_cons]
                exact Piece.not_word_of_breaks
                  (hParts q rfl hPiece) (text d sql)
          have hHere : parameter ∈ names :=
            hKnown.1 parameter (List.mem_singleton_self _)
          simp only [Piece.text, Dialect.placeholder,
            String.toList_ofList, List.cons_append]
          rw [numberedChars_placeholder hClean.1 hHere _ hEnds, hRest]
          simp [Piece.numberedText]

/- No mark is left where every placeholder has its number. -/
theorem mark_notMem_numberedText
    {sql : Sql}
    (hClean : ∀ p ∈ sql, p.IsClean d) :
    d.placeholderMark ∉ (sql.numberedText d names).toList := by
  induction sql with
  | nil => simp [numberedText]
  | cons p sql ih =>
      rw [List.forall_mem_cons] at hClean
      rw [numberedText_cons, String.toList_append, List.mem_append,
        not_or]
      refine ⟨?_, ih hClean.2⟩
      cases hPiece : p.isPlaceholder with
      | false =>
          rw [Piece.numberedText_eq_text hPiece]
          exact Piece.mark_notMem_text hClean.1 hPiece
      | true =>
          rcases Piece.eq_placeholder hPiece with ⟨parameter, rfl⟩
          have hDollar : d.placeholderMark ≠ '$' := by
            unfold Dialect.placeholderMark
            decide
          have hDigits : d.placeholderMark ∉
              (toString (names.idxOf parameter + 1)).toList :=
            Dialect.mark_notMem_of_word (Text.word_toString _)
          rw [Piece.numberedText, String.toList_append,
            List.mem_append, not_or]
          refine ⟨?_, hDigits⟩
          simpa using hDollar

/- The number stands in the text, and no word continues it. -/
theorem exists_numberedText_eq
    {sql : Sql}
    (hParted : sql.IsChain Piece.Parts)
    {parameter : String}
    (hPlaced : parameter ∈ sql.placeholders) :
    ∃ before after,
      sql.numberedText d names =
        before ++ "$" ++ toString (names.idxOf parameter + 1) ++
          after ∧
      ∀ c ∈ after.toList.head?, Text.isWordChar c = false := by
  induction sql with
  | nil => cases hPlaced
  | cons p sql ih =>
      rcases List.isChain_cons.mp hParted with ⟨hParts, hParted⟩
      rw [← List.singleton_append, placeholders_append,
        List.mem_append] at hPlaced
      rw [numberedText_cons]
      rcases hPlaced with hHere | hLater
      · cases p with
        | placeholder name =>
            rw [List.mem_singleton.mp hHere]
            refine ⟨"", numberedText d names sql, ?_, ?_⟩
            · rw [String.empty_append]
              rfl
            · cases sql with
              | nil => simp [numberedText]
              | cons q sql =>
                  have hBreaks := hParts q rfl rfl
                  rw [numberedText_cons, Piece.numberedText_eq_text
                    (Piece.not_placeholder_of_breaks hBreaks)]
                  exact Piece.not_word_of_breaks hBreaks _
        | words text => cases hHere
        | name identifier => cases hHere
        | tableAlias a => cases hHere
      · rcases ih hParted hLater with ⟨before, after, hText, hAfter⟩
        refine ⟨p.numberedText d names ++ before, after, ?_, hAfter⟩
        simp only [hText, String.append_assoc]

end Sql

end EntitySql
