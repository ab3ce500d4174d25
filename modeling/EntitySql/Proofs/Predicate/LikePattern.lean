import Mathlib.Data.List.Infix
import EntitySql.Proofs.Predicate.Tests
import EntitySql.Proofs.Predicate.Truth

/-
  A pattern test of a column is a LIKE in the database, and a
  pattern test of a constant is decided on compilation. The
  two agree on every text iff the text that is looked for
  holds no character that LIKE reads as a wildcard.

  Key definitions include:
    * `likes`
    * `PatternKind.Finds`
    * `isPlain`, `written`
    * `Valuation.LikesText`

  Key theorems include:
    * `likes_append_iff`
    * `PatternKind.likes_likePattern_iff`
    * `PatternKind.holds_iff`
    * `PatternKind.likes_eq_holds_iff`
    * `Scope.like_agrees_with_fold_iff`
-/

namespace EntitySql

------------------------------------------------------------
-- LIKE
------------------------------------------------------------

/-
  A text is like a pattern: `%` stands for any characters, `_`
  for any one, and every other character for itself.
-/
def likes : List Char → List Char → Bool
  | [], cs => cs.isEmpty
  | p :: ps, cs =>
      if p = '%' then cs.tails.any (likes ps)
      else
        match cs with
        | [] => false
        | c :: cs => (p == '_' || p == c) && likes ps cs

theorem likes_nil_iff
    {cs : List Char} :
    likes [] cs = true ↔ cs = [] :=
  List.isEmpty_iff

/- Behind the characters of a `%` the rest is like the rest. -/
theorem likes_percent_iff
    {ps cs : List Char} :
    likes ('%' :: ps) cs = true ↔
      ∃ rest, rest <:+ cs ∧ likes ps rest = true := by
  have hStep : likes ('%' :: ps) cs = cs.tails.any (likes ps) := by
    cases cs <;> rfl
  rw [hStep, List.any_eq_true]
  simp only [List.mem_tails]

theorem likes_cons_iff
    {p : Char}
    {ps cs : List Char}
    (hOther : p ≠ '%') :
    likes (p :: ps) cs = true ↔
      ∃ c rest, cs = c :: rest ∧ (p = '_' ∨ p = c) ∧
        likes ps rest = true := by
  cases cs with
  | nil => simp [likes, hOther]
  | cons c cs => simp [likes, hOther]

/-
  A text is like two patterns in a row iff it can be cut into
  texts that are like them. The induction is on the first one.
-/
theorem likes_append_iff
    {ps qs cs : List Char} :
    likes (ps ++ qs) cs = true ↔
      ∃ left right, cs = left ++ right ∧ likes ps left = true ∧
        likes qs right = true := by
  induction ps generalizing cs with
  | nil =>
      constructor
      · intro hLikes
        exact ⟨[], cs, rfl, rfl, hLikes⟩
      · rintro ⟨left, right, rfl, hEmpty, hLikes⟩
        rw [likes_nil_iff] at hEmpty
        rwa [hEmpty]
  | cons p ps ih =>
      rw [List.cons_append]
      by_cases hPercent : p = '%'
      · subst hPercent
        simp only [likes_percent_iff]
        constructor
        · rintro ⟨rest, ⟨before, rfl⟩, hLikes⟩
          rcases ih.mp hLikes with ⟨left, right, rfl, hLeft, hRight⟩
          exact ⟨before ++ left, right, (List.append_assoc ..).symm,
            ⟨left, List.suffix_append _ _, hLeft⟩, hRight⟩
        · rintro ⟨left, right, rfl, ⟨rest, ⟨before, rfl⟩, hLeft⟩,
            hRight⟩
          exact ⟨rest ++ right, ⟨before, (List.append_assoc ..).symm⟩,
            ih.mpr ⟨rest, right, rfl, hLeft, hRight⟩⟩
      · simp only [likes_cons_iff hPercent]
        constructor
        · rintro ⟨c, rest, rfl, hFirst, hLikes⟩
          rcases ih.mp hLikes with ⟨left, right, rfl, hLeft, hRight⟩
          exact ⟨c :: left, right, rfl, ⟨c, left, rfl, hFirst, hLeft⟩,
            hRight⟩
        · rintro ⟨_, right, rfl, ⟨c, rest, rfl, hFirst, hLeft⟩, hRight⟩
          exact ⟨c, rest ++ right, rfl, hFirst,
            ih.mpr ⟨rest, right, rfl, hLeft, hRight⟩⟩

/- Every text is like `%`. -/
theorem likes_percent
    (cs : List Char) :
    likes ['%'] cs = true :=
  likes_percent_iff.mpr ⟨[], List.nil_suffix, rfl⟩

/- A text is like a text before any characters. -/
theorem likes_append_percent_iff
    {ps cs : List Char} :
    likes (ps ++ ['%']) cs = true ↔
      ∃ part, part <+: cs ∧ likes ps part = true := by
  rw [likes_append_iff]
  constructor
  · rintro ⟨left, right, rfl, hLeft, _⟩
    exact ⟨left, List.prefix_append _ _, hLeft⟩
  · rintro ⟨part, ⟨after, rfl⟩, hPart⟩
    exact ⟨part, after, rfl, hPart, likes_percent after⟩

------------------------------------------------------------
-- Patterns as texts
------------------------------------------------------------

/- Every text is like itself. -/
theorem likes_self
    (cs : List Char) :
    likes cs cs = true := by
  induction cs with
  | nil => rfl
  | cons c cs ih =>
      by_cases hPercent : c = '%'
      · subst hPercent
        exact likes_percent_iff.mpr ⟨cs, List.suffix_cons _ _, ih⟩
      · exact (likes_cons_iff hPercent).mpr
          ⟨c, cs, rfl, .inr rfl, ih⟩

/- The character stands for itself in a pattern. -/
def isPlainChar
    (c : Char) : Bool :=
  c != '%' && c != '_'

/- A text without wildcards. -/
def isPlain
    (text : List Char) : Bool :=
  text.all isPlainChar

theorem isPlainChar_iff
    {c : Char} :
    isPlainChar c = true ↔ c ≠ '%' ∧ c ≠ '_' := by
  simp [isPlainChar]

/- Only a plain text itself is like it. -/
theorem likes_plain_iff
    {text cs : List Char}
    (hPlain : isPlain text = true) :
    likes text cs = true ↔ cs = text := by
  constructor
  · intro hLikes
    induction text generalizing cs with
    | nil => exact likes_nil_iff.mp hLikes
    | cons p ps ih =>
        rw [isPlain, List.all_cons, Bool.and_eq_true,
          isPlainChar_iff] at hPlain
        rcases hPlain with ⟨⟨hPercent, hUnderscore⟩, hPlain⟩
        rcases (likes_cons_iff hPercent).mp hLikes with
          ⟨c, rest, rfl, hFirst, hLikes⟩
        rw [hFirst.resolve_left hUnderscore, ih hPlain hLikes]
  · rintro rfl
    exact likes_self _

/- A text that is like a pattern and has no wildcards. -/
def written
    (text : List Char) : List Char :=
  text.map fun c => if isPlainChar c then c else 'x'

theorem likes_written
    (text : List Char) :
    likes text (written text) = true := by
  induction text with
  | nil => rfl
  | cons p ps ih =>
      rw [written, List.map_cons]
      by_cases hPercent : p = '%'
      · subst hPercent
        exact likes_percent_iff.mpr ⟨_, List.suffix_cons _ _, ih⟩
      · refine (likes_cons_iff hPercent).mpr ⟨_, _, rfl, ?_, ih⟩
        by_cases hUnderscore : p = '_'
        · exact .inl hUnderscore
        · have hPlain := isPlainChar_iff.mpr ⟨hPercent, hUnderscore⟩
          rw [if_pos hPlain]
          exact .inr rfl

/- Writing a text out changes it unless it is plain. -/
theorem isPlain_of_written
    {text : List Char}
    (hSame : text = written text) :
    isPlain text = true := by
  have hPlain : isPlain (written text) = true := by
    rw [isPlain, List.all_eq_true]
    intro c hMem
    rcases List.mem_map.mp hMem with ⟨p, _, rfl⟩
    split
    · assumption
    · rfl
  rwa [← hSame] at hPlain

------------------------------------------------------------
-- Kinds of tests
------------------------------------------------------------

/- The second text occurs in the first one, wherever. -/
theorem occursIn_iff
    {text cs : List Char} :
    occursIn text cs = true ↔ text <:+: cs := by
  induction cs with
  | nil => simp [occursIn]
  | cons c cs ih =>
      rw [occursIn, Bool.or_eq_true, List.isPrefixOf_iff_prefix, ih,
        List.infix_cons_iff]

namespace PatternKind

/- A part of a text, at the place that the test looks at. -/
def Finds
    (kind : PatternKind)
    (part cs : List Char) : Prop :=
  match kind with
  | .contains => part <:+: cs
  | .startsWith => part <+: cs
  | .endsWith => part <:+ cs

/- A part of the same length is the whole text. -/
theorem Finds.eq_of_length
    {kind : PatternKind}
    {part cs : List Char}
    (hFinds : kind.Finds part cs)
    (hLength : part.length = cs.length) :
    part = cs := by
  cases kind with
  | contains => exact List.IsInfix.eq_of_length hFinds hLength
  | startsWith => exact List.IsPrefix.eq_of_length hFinds hLength
  | endsWith => exact List.IsSuffix.eq_of_length hFinds hLength

theorem finds_self
    (kind : PatternKind)
    (cs : List Char) :
    kind.Finds cs cs := by
  cases kind with
  | contains => exact List.infix_rfl
  | startsWith => exact List.prefix_rfl
  | endsWith => exact List.suffix_rfl

/- The test on constants finds the text itself. -/
theorem holds_iff
    {kind : PatternKind}
    {subject text : String} :
    kind.holds subject text = true ↔
      kind.Finds text.toList subject.toList := by
  cases kind with
  | contains => exact occursIn_iff
  | startsWith => exact List.isPrefixOf_iff_prefix
  | endsWith => exact List.isSuffixOf_iff_suffix

/- The pattern finds every part that is like the text. -/
theorem likes_likePattern_iff
    {kind : PatternKind}
    {subject text : String} :
    likes (kind.likePattern text).toList subject.toList = true ↔
      ∃ part, kind.Finds part subject.toList ∧
        likes text.toList part = true := by
  cases kind with
  | contains =>
      have hPattern :
          (likePattern .contains text).toList =
            '%' :: (text.toList ++ ['%']) := by
        simp [likePattern]
      simp only [hPattern, likes_percent_iff,
        likes_append_percent_iff, Finds]
      constructor
      · rintro ⟨rest, hRest, part, hPart, hLikes⟩
        exact ⟨part, hPart.isInfix.trans hRest.isInfix, hLikes⟩
      · rintro ⟨part, ⟨before, after, hSubject⟩, hLikes⟩
        rw [List.append_assoc] at hSubject
        exact ⟨part ++ after, ⟨before, hSubject⟩, part,
          List.prefix_append _ _, hLikes⟩
  | startsWith =>
      have hPattern :
          (likePattern .startsWith text).toList =
            text.toList ++ ['%'] := by
        simp [likePattern]
      simp only [hPattern, likes_append_percent_iff, Finds]
  | endsWith =>
      have hPattern :
          (likePattern .endsWith text).toList =
            '%' :: text.toList := by
        simp [likePattern]
      simp only [hPattern, likes_percent_iff, Finds]

/- What the test on constants finds, the pattern finds. -/
theorem likes_of_holds
    {kind : PatternKind}
    {subject text : String}
    (hHolds : kind.holds subject text = true) :
    likes (kind.likePattern text).toList subject.toList = true :=
  likes_likePattern_iff.mpr
    ⟨text.toList, holds_iff.mp hHolds, likes_self _⟩

/-
  The pattern and the test on constants agree on all texts iff
  the text that is looked for is plain. If it is not, they
  differ on the text with its wildcards written out.
-/
theorem likes_eq_holds_iff
    (kind : PatternKind)
    (text : String) :
    (∀ subject : String,
        likes (kind.likePattern text).toList subject.toList =
          kind.holds subject text) ↔
      isPlain text.toList = true := by
  constructor
  · intro hAgree
    let subject := String.ofList (written text.toList)
    have hSubject : subject.toList = written text.toList :=
      String.toList_ofList
    have hLikes :
        likes (kind.likePattern text).toList subject.toList = true :=
      likes_likePattern_iff.mpr
        ⟨subject.toList, kind.finds_self _,
          hSubject ▸ likes_written text.toList⟩
    rw [hAgree, holds_iff, hSubject] at hLikes
    exact isPlain_of_written
      (hLikes.eq_of_length (List.length_map _).symm)
  · intro hPlain subject
    rw [Bool.eq_iff_iff, likes_likePattern_iff, holds_iff]
    simp only [likes_plain_iff hPlain, exists_eq_right]

end PatternKind

------------------------------------------------------------
-- Compiled tests
------------------------------------------------------------

/- The column holds a text, and LIKE tests it by its patterns. -/
def Valuation.LikesText
    (ν : Valuation)
    (e : ColumnExpr)
    (subject : String) : Prop :=
  ∀ pattern : String,
    ν ⟨e, .like, .value (.text pattern)⟩ =
      .ofBool (likes pattern.toList subject.toList)

namespace Scope

variable {scope : Scope}
variable {c : ColumnRef}
variable {e : ColumnExpr}

/- A pattern test of a column compiles to a LIKE. -/
theorem compile_matchText
    (hColumn : scope.column c = .ok e)
    (kind : PatternKind)
    (text : String)
    (s : ParameterSet) :
    (scope.compile (c.matchText kind text)).Yields s
      ⟨[.condition
        ⟨c.column, e, .like,
          .parameter
            ⟨(s.bind c.column (.text (kind.likePattern text))).1,
              .text (kind.likePattern text)⟩⟩]⟩
      (s.bind c.column (.text (kind.likePattern text))).2 := by
  simp only [compile, ColumnRef.matchText, fragments, Operand.settled,
    pattern, Binding.yields_bind_iff, Binding.yields_liftM_iff,
    Binding.yields_bindValue_iff, Binding.yields_pure_iff]
  exact ⟨_, _, ⟨_, _, ⟨_, _, ⟨hColumn, rfl⟩, _, _, ⟨rfl, rfl⟩, rfl,
    rfl⟩, rfl, rfl⟩, rfl, rfl⟩

/-
  A pattern test finds a text at its place. On a column, LIKE
  takes any text there that is like the given one; between
  constants it is the given one itself. What the second finds,
  the first finds, and they agree on every text iff the given
  one has no wildcards. The compiled LIKE and the constant that
  the test is folded to are true by the one and by the other.
-/
theorem like_agrees_with_fold_iff
    (scope : Scope)
    (kind : PatternKind)
    (text : String) :
    (∀ subject : String,
      (likes (kind.likePattern text).toList subject.toList = true ↔
        ∃ part, kind.Finds part subject.toList ∧
          likes text.toList part = true) ∧
      (kind.holds subject text = true ↔
        kind.Finds text.toList subject.toList) ∧
      (kind.holds subject text = true →
        likes (kind.likePattern text).toList subject.toList =
          true)) ∧
    ((∀ subject : String,
      likes (kind.likePattern text).toList subject.toList =
        kind.holds subject text) ↔ isPlain text.toList = true) ∧
    ∀ c e, scope.column c = .ok e →
      ∀ s ν subject, Valuation.LikesText ν e subject →
        ∃ condition s',
          (scope.compile (c.matchText kind text)).Yields s
            ⟨[.condition condition]⟩ s' ∧
          condition.truth ν =
            .ofBool
              (likes (kind.likePattern text).toList
                subject.toList) ∧
          (scope.compile
            (.pattern (.literal (.text subject)) kind
              (.literal (.text text)))).Yields s
            ⟨[.constant (kind.holds subject text)]⟩ s := by
  refine ⟨fun subject => ⟨PatternKind.likes_likePattern_iff,
    PatternKind.holds_iff, PatternKind.likes_of_holds⟩,
    kind.likes_eq_holds_iff text, ?_⟩
  intro c e hColumn s ν subject hLikes
  refine ⟨_, _, compile_matchText hColumn kind text s,
    hLikes (kind.likePattern text), ?_⟩
  have hParity :
      (kind.holds subject text != false) = kind.holds subject text :=
    Bool.bne_false _
  simp only [compile, fragments, Operand.settled, pattern,
    Binding.yields_bind_iff, Binding.yields_pure_iff, hParity]
  exact ⟨_, _, ⟨_, _, ⟨rfl, rfl⟩, rfl, rfl⟩, rfl, rfl⟩

end Scope

namespace Discounts

def blog : EntityKey :=
  ⟨0, "Blog"⟩

def title : ColumnRef :=
  { entity := blog, column := "title" }

/- LIKE on a row whose title is the given one. -/
def titled
    (subject : String) : Valuation :=
  fun test =>
    match test.operand with
    | .value (.text pattern) =>
        .ofBool (likes pattern.toList subject.toList)
    | _ => .unknown

/-
  The sign in 100% takes any characters in the database. No
  text without it is found on compilation.
-/
theorem compiled_test_takes_wildcard :
    (Scope.table blog).column title = .ok (.bare "title") ∧
      (titled "1000 items").LikesText (.bare "title") "1000 items" ∧
      ∃ condition s',
        ((Scope.table blog).compile (title.contains "100%")).Yields
          .empty ⟨[.condition condition]⟩ s' ∧
        condition.truth (titled "1000 items") = .holds ∧
        ((Scope.table blog).compile
          (.pattern (.literal (.text "1000 items")) .contains
            (.literal (.text "100%")))).Yields
          .empty ⟨[.constant false]⟩ .empty := by
  have hColumn :
      (Scope.table blog).column title = .ok (.bare "title") :=
    rfl
  have hLikes :
      (titled "1000 items").LikesText (.bare "title")
        "1000 items" :=
    fun _ => rfl
  refine ⟨hColumn, hLikes, ?_⟩
  rcases Scope.like_agrees_with_fold_iff (.table blog) .contains "100%"
    with ⟨_, _, hCompiled⟩
  exact hCompiled title (.bare "title") hColumn .empty _ _ hLikes

/-
  The pattern %100%% matches a text in which 100% does not
  occur.
-/
theorem like_finds_other_text :
    likes (PatternKind.likePattern .contains "100%").toList
        "1000 items".toList = true ∧
      PatternKind.holds .contains "1000 items" "100%" = false := by
  decide +kernel

end Discounts

end EntitySql
