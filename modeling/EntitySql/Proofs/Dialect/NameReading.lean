import EntitySql.Sql
import Mathlib.Logic.Function.Defs

/-
  Quoted names read back. A reader takes the characters up to
  the first closing quote that is not doubled, and it finds
  the name that was quoted and the text behind it.

  Key definitions include:
    * `Quoting.doubled`
    * `Quoting.read?`, `Dialect.readName?`

  Key theorems include:
    * `Quoting.read?_eq_some_iff`
    * `Dialect.quoteName_append_inj`
    * `Dialect.intercalate_quoteName_inj`
    * `TableAlias.text_append_inj`
    * `Dialect.quoted_names_read_back`

  The reader accepts what quoting writes and nothing else, as
  long as the text behind the name does not begin with another
  closing quote. Names that are quoted one after the other can
  therefore be told apart.
-/

namespace EntitySql

------------------------------------------------------------
-- Doubled quotes
------------------------------------------------------------

namespace Quoting

/- The text between the quotes: closing quotes are doubled. -/
def doubled
    (q : Quoting)
    (cs : List Char) : List Char :=
  cs.flatMap fun c => if c = q.closing then [c, c] else [c]

variable {q : Quoting}

theorem doubled_cons_of_ne
    {c : Char}
    (hOther : c ≠ q.closing)
    (cs : List Char) :
    q.doubled (c :: cs) = c :: q.doubled cs := by
  simp [doubled, hOther]

theorem doubled_closing
    (cs : List Char) :
    q.doubled (q.closing :: cs) =
      q.closing :: q.closing :: q.doubled cs := by
  simp [doubled]

theorem doubled_append
    (left right : List Char) :
    q.doubled (left ++ right) = q.doubled left ++ q.doubled right := by
  simp [doubled]

/- Text without the closing quote stays as it is. -/
theorem doubled_eq_self
    {cs : List Char}
    (hNone : q.closing ∉ cs) :
    q.doubled cs = cs := by
  induction cs with
  | nil => rfl
  | cons c cs ih =>
      rw [List.mem_cons, not_or] at hNone
      rw [doubled_cons_of_ne (Ne.symm hNone.1), ih hNone.2]

theorem quote_eq
    (cs : List Char) :
    q.quote cs = q.opening :: (q.doubled cs ++ [q.closing]) :=
  rfl

theorem quote_append
    (cs rest : List Char) :
    q.quote cs ++ rest =
      q.opening :: (q.doubled cs ++ q.closing :: rest) := by
  simp [quote_eq]

------------------------------------------------------------
-- Readers of quoted names
------------------------------------------------------------

/-
  Read what stands behind an opening quote: two closing quotes
  stand for one, and the first that is not doubled ends the
  name. The second part is the text behind the name.
-/
def readInner?
    (q : Quoting) : List Char → Option (List Char × List Char)
  | [] => none
  | c :: cs =>
      if c = q.closing then
        match cs with
        | [] => some ([], [])
        | e :: rest =>
            if e = q.closing then
              (q.readInner? rest).map fun x => (c :: x.1, x.2)
            else some ([], e :: rest)
      else (q.readInner? cs).map fun x => (c :: x.1, x.2)

/- Read a quoted name and give the text behind it. -/
def read?
    (q : Quoting) : List Char → Option (List Char × List Char)
  | [] => none
  | c :: cs => if c = q.opening then q.readInner? cs else none

theorem readInner?_cons_of_ne
    {c : Char}
    (hOther : c ≠ q.closing)
    (cs : List Char) :
    q.readInner? (c :: cs) =
      (q.readInner? cs).map fun x => (c :: x.1, x.2) := by
  cases cs <;> simp [readInner?, hOther]

theorem readInner?_doubled
    (cs : List Char) :
    q.readInner? (q.closing :: q.closing :: cs) =
      (q.readInner? cs).map fun x => (q.closing :: x.1, x.2) := by
  simp [readInner?]

theorem readInner?_closing
    {rest : List Char}
    (hRest : rest.head? ≠ some q.closing) :
    q.readInner? (q.closing :: rest) = some ([], rest) := by
  cases rest with
  | nil => simp [readInner?]
  | cons e rest =>
      have hOther : e ≠ q.closing := by simpa using hRest
      simp [readInner?, hOther]

theorem readInner?_of_doubled
    {rest : List Char}
    (hRest : rest.head? ≠ some q.closing)
    (name : List Char) :
    q.readInner? (q.doubled name ++ q.closing :: rest) =
      some (name, rest) := by
  induction name with
  | nil => exact readInner?_closing hRest
  | cons c name ih =>
      by_cases hQuote : c = q.closing
      · rw [hQuote, doubled_closing, List.cons_append,
          List.cons_append, readInner?_doubled, ih, Option.map_some]
      · rw [doubled_cons_of_ne hQuote, List.cons_append,
          readInner?_cons_of_ne hQuote, ih, Option.map_some]

/- Nothing else is read: the text is a name and what follows. -/
theorem doubled_of_readInner?
    {text name rest : List Char}
    (hRead : q.readInner? text = some (name, rest)) :
    text = q.doubled name ++ q.closing :: rest ∧
      rest.head? ≠ some q.closing := by
  induction text using readInner?.induct q generalizing name with
  | case1 => simp [readInner?] at hRead
  | case2 =>
      simp only [readInner?, if_true, Option.some.injEq,
        Prod.mk.injEq] at hRead
      rcases hRead with ⟨rfl, rfl⟩
      exact ⟨rfl, nofun⟩
  | case3 text ih =>
      rw [readInner?_doubled] at hRead
      rcases Option.map_eq_some_iff.mp hRead with ⟨x, hInner, hName⟩
      rw [Prod.mk.injEq] at hName
      rcases hName with ⟨rfl, rfl⟩
      rcases ih hInner with ⟨rfl, hRest⟩
      exact ⟨by rw [doubled_closing]; rfl, hRest⟩
  | case4 e text hOther =>
      have hHead : (e :: text).head? ≠ some q.closing := by
        simpa using hOther
      rw [readInner?_closing hHead, Option.some.injEq,
        Prod.mk.injEq] at hRead
      rcases hRead with ⟨rfl, rfl⟩
      exact ⟨rfl, hHead⟩
  | case5 c text hOther ih =>
      rw [readInner?_cons_of_ne hOther] at hRead
      rcases Option.map_eq_some_iff.mp hRead with ⟨x, hInner, hName⟩
      rw [Prod.mk.injEq] at hName
      rcases hName with ⟨rfl, rfl⟩
      rcases ih hInner with ⟨rfl, hRest⟩
      exact ⟨by rw [doubled_cons_of_ne hOther]; rfl, hRest⟩

/- A reader finds a name if and only if it was quoted. -/
theorem read?_eq_some_iff
    {text name rest : List Char} :
    q.read? text = some (name, rest) ↔
      text = q.quote name ++ rest ∧
        rest.head? ≠ some q.closing := by
  constructor
  · intro hRead
    cases text with
    | nil => cases hRead
    | cons c text =>
        rw [read?, Option.ite_none_right_eq_some] at hRead
        rcases doubled_of_readInner? hRead.2 with ⟨rfl, hRest⟩
        rw [hRead.1, quote_append]
        exact ⟨rfl, hRest⟩
  · rintro ⟨rfl, hRest⟩
    rw [quote_append, read?, if_pos rfl, readInner?_of_doubled hRest]

end Quoting

------------------------------------------------------------
-- Names in a dialect
------------------------------------------------------------

namespace Dialect

variable {d : Dialect}

/- Read the quoted name that a text begins with. -/
def readName?
    (d : Dialect)
    (text : String) : Option (String × String) :=
  (d.quoting.read? text.toList).map fun x =>
    (String.ofList x.1, String.ofList x.2)

theorem readName?_eq_some_iff
    {text name rest : String} :
    d.readName? text = some (name, rest) ↔
      text = d.quoteName name ++ rest ∧
        rest.toList.head? ≠ some d.quoting.closing := by
  have hText :
      text = d.quoteName name ++ rest ↔
        text.toList = d.quoting.quote name.toList ++ rest.toList := by
    rw [← String.toList_inj, String.toList_append, quoteName,
      String.toList_ofList]
  rw [hText, ← Quoting.read?_eq_some_iff, readName?,
    Option.map_eq_some_iff]
  constructor
  · rintro ⟨x, hRead, hParts⟩
    rw [Prod.mk.injEq] at hParts
    rw [hRead, ← hParts.1, ← hParts.2, String.toList_ofList,
      String.toList_ofList]
  · intro hRead
    exact ⟨_, hRead, by rw [String.ofList_toList, String.ofList_toList]⟩

/-
  Two quoted names with some text behind them are the same text
  only if both agree.
-/
theorem quoteName_append_inj
    {name other rest left : String}
    (hRest : rest.toList.head? ≠ some d.quoting.closing)
    (hLeft : left.toList.head? ≠ some d.quoting.closing)
    (hSame : d.quoteName name ++ rest = d.quoteName other ++ left) :
    name = other ∧ rest = left := by
  have hName :
      d.readName? (d.quoteName name ++ rest) = some (name, rest) :=
    readName?_eq_some_iff.mpr ⟨rfl, hRest⟩
  have hOther :
      d.readName? (d.quoteName name ++ rest) = some (other, left) :=
    readName?_eq_some_iff.mpr ⟨hSame, hLeft⟩
  rw [hName, Option.some.injEq, Prod.mk.injEq] at hOther
  exact hOther

/- The end of a text is no quote. -/
theorem empty_head_ne_closing
    (d : Dialect) :
    ("" : String).toList.head? ≠ some d.quoting.closing :=
  nofun

/- Neither is the dot behind a schema. -/
theorem dot_head_ne_closing
    (d : Dialect)
    (rest : String) :
    ("." ++ rest).toList.head? ≠ some d.quoting.closing := by
  rw [String.toList_append]
  cases d <;> simp [quoting]

theorem quoteName_injective
    {left right : String}
    (hSame : d.quoteName left = d.quoteName right) :
    left = right :=
  (quoteName_append_inj d.empty_head_ne_closing
    d.empty_head_ne_closing (congrArg (· ++ "") hSame)).1

theorem quoteTable_none
    (d : Dialect)
    (name : String) :
    d.quoteTable ⟨none, name⟩ = d.quoteName name ++ "" :=
  String.append_empty.symm

theorem quoteTable_some
    (d : Dialect)
    (schema name : String) :
    d.quoteTable ⟨some schema, name⟩ =
      d.quoteName schema ++ ("." ++ d.quoteName name) :=
  String.append_assoc

/-
  What stands behind the first name tells whether it is the
  name of a schema.
-/
theorem quoteTable_injective
    {t u : TableName}
    (hSame : d.quoteTable t = d.quoteTable u) :
    t = u := by
  rcases t with ⟨schema, name⟩
  rcases u with ⟨schema', name'⟩
  cases schema with
  | none =>
      cases schema' with
      | none =>
          rw [quoteTable_none, quoteTable_none] at hSame
          rw [(quoteName_append_inj d.empty_head_ne_closing
            d.empty_head_ne_closing hSame).1]
      | some schema' =>
          rw [quoteTable_none, quoteTable_some] at hSame
          have hRest :=
            (quoteName_append_inj d.empty_head_ne_closing
              (d.dot_head_ne_closing _) hSame).2
          simp at hRest
  | some schema =>
      cases schema' with
      | none =>
          rw [quoteTable_some, quoteTable_none] at hSame
          have hRest :=
            (quoteName_append_inj (d.dot_head_ne_closing _)
              d.empty_head_ne_closing hSame).2
          simp at hRest
      | some schema' =>
          rw [quoteTable_some, quoteTable_some] at hSame
          rcases quoteName_append_inj (d.dot_head_ne_closing _)
            (d.dot_head_ne_closing _) hSame with ⟨rfl, hRest⟩
          rw [String.append_right_inj] at hRest
          rw [quoteName_injective hRest]

end Dialect

------------------------------------------------------------
-- Lists of names
------------------------------------------------------------

/- Behind the first item every item follows a separator. -/
theorem intercalate_cons
    (separator first : String)
    (rest : List String) :
    separator.intercalate (first :: rest) =
      first ++ String.join (rest.map (separator ++ ·)) := by
  induction rest generalizing first with
  | nil =>
      rw [String.intercalate_singleton, List.map_nil,
        String.join_nil, String.append_empty]
  | cons second rest ih =>
      rw [String.intercalate_cons_cons, ih, List.map_cons,
        String.join_cons, String.append_assoc, String.append_assoc]

namespace Dialect

/- Behind a list of names this character does not continue it. -/
structure EndsNames
    (d : Dialect)
    (c : Char) : Prop where
  ne_comma : c ≠ ','
  ne_opening : c ≠ d.quoting.opening
  ne_closing : c ≠ d.quoting.closing

/- More names of a list, each behind a comma. -/
def moreNames
    (d : Dialect)
    (names : List String) : String :=
  String.join ((names.map d.quoteName).map (", " ++ ·))

variable {d : Dialect}
variable {c : Char}
variable {names others : List String}
variable {rest left : String}

theorem moreNames_cons_append
    (name : String)
    (names : List String)
    (rest : String) :
    d.moreNames (name :: names) ++ rest =
      ", " ++ (d.quoteName name ++ (d.moreNames names ++ rest)) := by
  unfold moreNames
  rw [List.map_cons, List.map_cons, String.join_cons,
    String.append_assoc, String.append_assoc]

theorem head_ne_closing
    (hEnds : d.EndsNames c)
    (hRest : rest.toList.head? = some c) :
    (d.moreNames names ++ rest).toList.head? ≠
      some d.quoting.closing := by
  cases names with
  | nil =>
      have hNone : d.moreNames [] = "" := rfl
      rw [hNone, String.empty_append, hRest, ne_eq, Option.some.injEq]
      exact hEnds.ne_closing
  | cons name names =>
      rw [moreNames_cons_append, String.toList_append]
      cases d <;> simp [quoting]

theorem comma_ne_of_head
    (hEnds : d.EndsNames c)
    (hRest : rest.toList.head? = some c)
    (text : String) :
    rest ≠ ", " ++ text := by
  rintro rfl
  rw [String.toList_append] at hRest
  exact hEnds.ne_comma (by simpa using hRest.symm)

/- More names can be told from what stands behind them. -/
theorem moreNames_append_inj
    (hEnds : d.EndsNames c)
    (hRest : rest.toList.head? = some c)
    (hLeft : left.toList.head? = some c)
    (hSame : d.moreNames names ++ rest = d.moreNames others ++ left) :
    names = others ∧ rest = left := by
  have hNone : d.moreNames [] = "" := rfl
  induction names generalizing others with
  | nil =>
      cases others with
      | nil => exact ⟨rfl, by simpa [hNone] using hSame⟩
      | cons other others =>
          rw [hNone, String.empty_append, moreNames_cons_append]
            at hSame
          exact absurd hSame (comma_ne_of_head hEnds hRest _)
  | cons name names ih =>
      cases others with
      | nil =>
          rw [hNone, String.empty_append, moreNames_cons_append]
            at hSame
          exact absurd hSame.symm (comma_ne_of_head hEnds hLeft _)
      | cons other others =>
          rw [moreNames_cons_append, moreNames_cons_append,
            String.append_right_inj] at hSame
          rcases quoteName_append_inj (head_ne_closing hEnds hRest)
            (head_ne_closing hEnds hLeft) hSame with ⟨rfl, hMore⟩
          rcases ih hMore with ⟨rfl, hBehind⟩
          exact ⟨rfl, hBehind⟩

theorem quoteName_ne_of_head
    (hEnds : d.EndsNames c)
    (hRest : rest.toList.head? = some c)
    (name text : String) :
    rest ≠ d.quoteName name ++ text := by
  rintro rfl
  rw [String.toList_append, quoteName, String.toList_ofList,
    Quoting.quote_eq] at hRest
  exact hEnds.ne_opening (by simpa using hRest.symm)

/- A list of names can be told from what stands behind it. -/
theorem intercalate_quoteName_inj
    (hEnds : d.EndsNames c)
    (hRest : rest.toList.head? = some c)
    (hLeft : left.toList.head? = some c)
    (hSame :
      ", ".intercalate (names.map d.quoteName) ++ rest =
        ", ".intercalate (others.map d.quoteName) ++ left) :
    names = others ∧ rest = left := by
  have hNone : ", ".intercalate [] ++ rest = rest := by
    rw [String.intercalate_nil, String.empty_append]
  have hNone' : ", ".intercalate [] ++ left = left := by
    rw [String.intercalate_nil, String.empty_append]
  have hSome (name : String) (names : List String) (text : String) :
      ", ".intercalate ((name :: names).map d.quoteName) ++ text =
        d.quoteName name ++ (d.moreNames names ++ text) := by
    rw [List.map_cons, intercalate_cons, String.append_assoc]
    rfl
  cases names with
  | nil =>
      cases others with
      | nil =>
          rw [List.map_nil, hNone, hNone'] at hSame
          exact ⟨rfl, hSame⟩
      | cons other others =>
          rw [List.map_nil, hNone, hSome] at hSame
          exact absurd hSame (quoteName_ne_of_head hEnds hRest _ _)
  | cons name names =>
      cases others with
      | nil =>
          rw [List.map_nil, hNone', hSome] at hSame
          exact absurd hSame.symm (quoteName_ne_of_head hEnds hLeft _ _)
      | cons other others =>
          rw [hSome, hSome] at hSame
          rcases quoteName_append_inj (head_ne_closing hEnds hRest)
            (head_ne_closing hEnds hLeft) hSame with ⟨rfl, hMore⟩
          rcases moreNames_append_inj hEnds hRest hLeft hMore with
            ⟨rfl, hBehind⟩
          exact ⟨rfl, hBehind⟩

/- A blank or a closing parenthesis ends a list of names. -/
theorem endsNames_blank
    (d : Dialect) :
    d.EndsNames ' ' := by
  cases d <;> constructor <;> decide

theorem endsNames_parenthesis
    (d : Dialect) :
    d.EndsNames ')' := by
  cases d <;> constructor <;> decide

end Dialect

------------------------------------------------------------
-- Columns under an alias
------------------------------------------------------------

/-
  The number of an alias ends at the first character that is
  no digit.
-/
theorem TableAlias.text_append_inj
    {a b : TableAlias}
    {c : Char}
    {left right : List Char}
    (hBreak : c.isDigit = false)
    (hSame : a.text.toList ++ c :: left = b.text.toList ++ c :: right) :
    a = b ∧ left = right := by
  have hDigits (n : Nat) (rest : List Char) :
      (Nat.toDigits 10 n ++ c :: rest).takeWhile Char.isDigit =
        Nat.toDigits 10 n := by
    rw [List.takeWhile_append_of_pos]
    · simp [hBreak]
    · intro c hMem
      exact Nat.isDigit_of_mem_toDigits (by omega) (by omega) hMem
  have hText :
      Nat.toDigits 10 a.number ++ c :: left =
        Nat.toDigits 10 b.number ++ c :: right := by
    simpa [text] using hSame
  have hNumbers := congrArg (List.takeWhile Char.isDigit) hText
  rw [hDigits, hDigits] at hNumbers
  rw [hNumbers, List.append_cancel_left_eq, List.cons.injEq] at hText
  have hNumber : a.number = b.number := by
    simpa using congrArg (Nat.ofDigitChars 10 · 0) hNumbers
  rcases a with ⟨n⟩
  rcases b with ⟨m⟩
  exact ⟨congrArg TableAlias.mk hNumber, hText.2⟩

theorem ColumnExpr.text_qualified
    (d : Dialect)
    (a : TableAlias)
    (column : String) :
    (qualified a column).text d = a.text ++ "." ++ d.quoteName column := by
  simp only [ColumnExpr.text, sql, Sql.text, Sql.Piece.text,
    List.map_cons, List.map_nil, String.join_cons, String.join_nil,
    String.append_empty, String.append_assoc]

theorem ColumnExpr.text_qualified_inj
    {d : Dialect}
    {a b : TableAlias}
    {column other : String}
    (hSame : (qualified a column).text d = (qualified b other).text d) :
    a = b ∧ column = other := by
  rw [text_qualified, text_qualified] at hSame
  have hText := congrArg String.toList hSame
  simp only [String.toList_append, List.append_assoc] at hText
  rcases TableAlias.text_append_inj (by decide) hText with ⟨hAlias, hName⟩
  exact ⟨hAlias, Dialect.quoteName_injective (String.toList_injective hName)⟩

------------------------------------------------------------
-- Reading back
------------------------------------------------------------

/-
  In every dialect, for any names: a quoted name reads back with
  the text behind it, if that does not begin with the closing
  quote, and nothing else reads as a name. Quoted names, quoted
  tables, and columns under an alias are the same text only if
  they are the same.
-/
theorem Dialect.quoted_names_read_back
    (d : Dialect) :
    (∀ text name rest : String,
      d.readName? text = some (name, rest) ↔
        text = d.quoteName name ++ rest ∧
          rest.toList.head? ≠ some d.quoting.closing) ∧
    Function.Injective d.quoteName ∧
    Function.Injective d.quoteTable ∧
    ∀ (a b : TableAlias) (column other : String),
      (ColumnExpr.qualified a column).text d =
          (ColumnExpr.qualified b other).text d ↔
        a = b ∧ column = other := by
  refine ⟨fun _ _ _ => readName?_eq_some_iff,
    fun _ _ => quoteName_injective, fun _ _ => quoteTable_injective, ?_⟩
  intro a b column other
  constructor
  · exact ColumnExpr.text_qualified_inj
  · rintro ⟨rfl, rfl⟩
    rfl

/- Quotes at the end of a name, before the closing one. -/
example :
    Dialect.sqlServer.readName? "[a]]b]]].[c]" =
      some ("a]b]", ".[c]") := by
  decide +kernel

end EntitySql
