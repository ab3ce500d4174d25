import EntitySql.Error
import EntitySql.Proofs.Dialect.TypeSyntax
import Mathlib.Data.List.Basic
import Mathlib.Data.List.Chain

/-
  The normal form of a spelled type: its text without blanks,
  module paths and outer wrappers. It is reached if and only
  if no reference has a path behind a lifetime or `mut`, since
  the scan takes such a word for a part of the path.

  Key definitions include:
    * `TypeExpr.QualifiersKept`
    * `Apart`

  Key theorems include:
    * `dropOptions_wrapped`
    * `normalize_normalize`
    * `readTokens_eq_text_iff`
    * `TypeExpr.normalize_eq_core_text_iff`
-/

namespace EntitySql

namespace TypeSpelling

------------------------------------------------------------
-- Wrappers
------------------------------------------------------------

theorem insideOption?_eq_some_iff
    {cs inner : List Char} :
    insideOption? cs = some inner ↔
      cs = optionOpening ++ (inner ++ ['>']) := by
  constructor
  · intro hInside
    rw [insideOption?, Option.ite_none_right_eq_some] at hInside
    rcases hInside with ⟨hOpening, hInner⟩
    rw [Option.ite_none_right_eq_some] at hInner
    rcases hInner with ⟨hLast, hInner⟩
    rw [List.isPrefixOf_iff_prefix] at hOpening
    rcases hOpening with ⟨rest, rfl⟩
    rw [List.drop_left] at hLast hInner
    rw [← Option.some.inj hInner, List.dropLast_append_getLast? _ hLast]
  · rintro rfl
    simp [insideOption?]

/- More fuel than characters changes nothing. -/
theorem dropOptionsUpTo_eq
    {n m : Nat}
    {cs : List Char}
    (hLe : cs.length ≤ n)
    (hLe' : cs.length ≤ m) :
    dropOptionsUpTo n cs = dropOptionsUpTo m cs := by
  induction n generalizing m cs with
  | zero =>
      rw [List.length_eq_zero_iff.mp (Nat.le_zero.mp hLe)]
      cases m <;> rfl
  | succ n ih =>
      cases m with
      | zero =>
          rw [List.length_eq_zero_iff.mp (Nat.le_zero.mp hLe')]
          rfl
      | succ m =>
          rw [dropOptionsUpTo, dropOptionsUpTo]
          cases hInside : insideOption? cs with
          | none => rfl
          | some inner =>
              rw [insideOption?_eq_some_iff] at hInside
              subst hInside
              simp only [List.length_append, List.length_singleton]
                at hLe hLe'
              exact ih (by omega) (by omega)

theorem dropOptions_of_none
    {cs : List Char}
    (hNone : insideOption? cs = none) :
    dropOptions cs = cs := by
  rw [dropOptions]
  cases cs with
  | nil => rfl
  | cons c cs => rw [List.length_cons, dropOptionsUpTo, hNone]

theorem dropOptions_wrapped
    (inner : List Char) :
    dropOptions (optionOpening ++ (inner ++ ['>'])) =
      dropOptions inner := by
  have hInside := insideOption?_eq_some_iff.mpr
    (Eq.refl (optionOpening ++ (inner ++ ['>'])))
  have hFuel :
      dropOptionsUpTo (optionOpening ++ (inner ++ ['>'])).length
          (optionOpening ++ (inner ++ ['>'])) =
        dropOptionsUpTo (inner.length + 7 + 1)
          (optionOpening ++ (inner ++ ['>'])) :=
    dropOptionsUpTo_eq (Nat.le_refl _) (by simp [optionOpening])
  rw [dropOptions, hFuel, dropOptionsUpTo, hInside]
  exact dropOptionsUpTo_eq (by omega) (Nat.le_refl _)

/- A text loses its wrappers, or it has none. -/
theorem dropOptions_induction
    {motive : List Char → Prop}
    (wrapped : ∀ inner,
      motive inner → motive (optionOpening ++ (inner ++ ['>'])))
    (bare : ∀ cs, insideOption? cs = none → motive cs)
    (cs : List Char) :
    motive cs := by
  induction hLength : cs.length using Nat.strong_induction_on
    generalizing cs with
  | _ n ih =>
      cases hInside : insideOption? cs with
      | none => exact bare cs hInside
      | some inner =>
          rw [insideOption?_eq_some_iff] at hInside
          subst hInside
          refine wrapped inner (ih inner.length ?_ inner rfl)
          simp only [List.length_append, List.length_singleton]
            at hLength
          omega

theorem dropOptions_isInfix
    (cs : List Char) :
    dropOptions cs <:+: cs := by
  induction cs using dropOptions_induction with
  | bare cs hNone =>
      exact (dropOptions_of_none hNone).symm ▸ List.infix_rfl
  | wrapped inner ih =>
      rw [dropOptions_wrapped, ← List.append_assoc]
      exact ih.trans (List.infix_append _ _ _)

theorem dropOptions_dropOptions
    (cs : List Char) :
    dropOptions (dropOptions cs) = dropOptions cs := by
  induction cs using dropOptions_induction with
  | bare cs hNone => rw [dropOptions_of_none hNone, dropOptions_of_none hNone]
  | wrapped inner ih => rw [dropOptions_wrapped, ih]

------------------------------------------------------------
-- Texts without paths
------------------------------------------------------------

/- No two colons stand side by side. -/
def NoPaths
    (cs : List Char) : Prop :=
  cs.IsChain fun a b => ¬ (a = ':' ∧ b = ':')

/- A text without a double colon is kept by the scan. -/
theorem dropPaths_of_noPaths
    {cs : List Char}
    (hNoPaths : NoPaths cs)
    (name : List Char) :
    dropPaths name cs = name ++ cs := by
  induction name, cs using dropPaths.induct with
  | case1 name => rw [dropPaths, List.append_nil]
  | case2 name rest ih =>
      exact absurd ⟨rfl, rfl⟩ (List.isChain_cons_cons.mp hNoPaths).1
  | case3 name c rest hOther hDelimiter ih =>
      rw [dropPaths_delimiter hDelimiter, ih hNoPaths.tail,
        List.nil_append]
  | case4 name c rest hOther hDelimiter ih =>
      rw [dropPaths, if_neg hDelimiter, ih hNoPaths.tail,
        List.append_assoc, List.singleton_append]
      exact hOther

/-
  The name in hand never ends in a colon that the rest of the
  text goes on with, so that no double colon is written.
-/
theorem noPaths_dropPaths
    {name cs : List Char}
    (hName : NoPaths name)
    (hEnd : ∀ a ∈ name.getLast?, ∀ b ∈ cs.head?,
      ¬ (a = ':' ∧ b = ':')) :
    NoPaths (dropPaths name cs) := by
  induction name, cs using dropPaths.induct with
  | case1 name =>
      rw [dropPaths]
      exact hName
  | case2 name rest ih =>
      rw [dropPaths]
      exact ih List.isChain_nil (by simp)
  | case3 name c rest hOther hDelimiter ih =>
      rw [dropPaths_delimiter hDelimiter]
      have hColon : c ≠ ':' := by
        rintro rfl
        cases hDelimiter
      refine hName.append ?_ ?_
      · exact (ih List.isChain_nil (by simp)).cons
          fun _ _ hPair => hColon hPair.1
      · rintro a _ b hHead ⟨_, hPair⟩
        rw [List.head?_cons, Option.mem_some_iff] at hHead
        exact hColon (hHead.trans hPair)
  | case4 name c rest hOther hDelimiter ih =>
      rw [dropPaths, if_neg hDelimiter]
      · refine ih (hName.append (List.isChain_singleton c) hEnd) ?_
        rintro a hLast b hHead ⟨rfl, rfl⟩
        rw [List.getLast?_concat, Option.mem_some_iff] at hLast
        rcases rest with _ | ⟨b, rest⟩
        · cases hHead
        · cases hHead
          -- Two colons in a row would have been read as a path.
          exact hOther rest hLast rfl
      · exact hOther

theorem noPaths_normalForm
    (cs : List Char) :
    NoPaths (dropOptions (dropPaths [] cs)) :=
  List.IsChain.infix (noPaths_dropPaths List.isChain_nil (by simp))
    (dropOptions_isInfix _)

theorem mem_of_mem_dropPaths
    {c : Char}
    {name cs : List Char}
    (hMem : c ∈ dropPaths name cs) :
    c ∈ name ∨ c ∈ cs := by
  induction name, cs using dropPaths.induct with
  | case1 name =>
      rw [dropPaths] at hMem
      exact .inl hMem
  | case2 name rest ih =>
      rw [dropPaths] at hMem
      exact .inr (by simp [(ih hMem).resolve_left List.not_mem_nil])
  | case3 name d rest hOther hDelimiter ih =>
      rw [dropPaths_delimiter hDelimiter, List.mem_append,
        List.mem_cons] at hMem
      rcases hMem with hName | rfl | hRest
      · exact .inl hName
      · exact .inr List.mem_cons_self
      · exact .inr (List.mem_cons_of_mem _
          ((ih hRest).resolve_left List.not_mem_nil))
  | case4 name d rest hOther hDelimiter ih =>
      rw [dropPaths, if_neg hDelimiter] at hMem
      · rcases ih hMem with hName | hRest
        · rw [List.mem_append, List.mem_singleton] at hName
          rcases hName with hName | rfl
          · exact .inl hName
          · exact .inr List.mem_cons_self
        · exact .inr (List.mem_cons_of_mem _ hRest)
      · exact hOther

/- A text without blanks and paths only loses its wrappers. -/
theorem normalize_of_noPaths
    {s : String}
    (hVisible : visible s.toList = s.toList)
    (hNoPaths : NoPaths s.toList) :
    normalize s = String.ofList (dropOptions s.toList) := by
  have hScan := dropPaths_of_noPaths hNoPaths []
  rw [List.nil_append, ← hVisible] at hScan
  rw [normalize]
  exact congrArg (fun cs => String.ofList (dropOptions cs))
    (hScan.trans hVisible)

/- Normal forms are normal. -/
theorem normalize_normalize
    (s : String) :
    normalize (normalize s) = normalize s := by
  have hForm :
      (normalize s).toList =
        dropOptions (dropPaths [] (visible s.toList)) :=
    String.toList_ofList
  have hVisible : visible (normalize s).toList = (normalize s).toList := by
    rw [visible_eq_self_iff, hForm]
    intro c hMem
    have hScan := (dropOptions_isInfix _).mem hMem
    have hSource :=
      (mem_of_mem_dropPaths hScan).resolve_left List.not_mem_nil
    simpa using List.of_mem_filter hSource
  have hNoPaths : NoPaths (normalize s).toList := by
    rw [hForm]
    exact noPaths_normalForm _
  rw [normalize_of_noPaths hVisible hNoPaths, hForm,
    dropOptions_dropOptions]
  rfl

------------------------------------------------------------
-- Wrappers of a type
------------------------------------------------------------

/- A delimiter ends a name, whatever tokens are before it. -/
theorem readTokens_append_delimiter
    {c : Char}
    (hDelimiter : isDelimiter c = true)
    (name : List Char)
    (tokens rest : List Token) :
    readTokens name (tokens ++ .delimiter c hDelimiter :: rest) =
      readTokens name tokens ++ c :: readTokens [] rest := by
  induction tokens generalizing name with
  | nil => rw [List.nil_append, readTokens, readTokens]
  | cons token tokens ih =>
      cases token with
      | word w => rw [List.cons_append, readTokens, readTokens, ih]
      | path p => rw [List.cons_append, readTokens, readTokens, ih]
      | delimiter d hOther =>
          rw [List.cons_append, readTokens, readTokens, ih,
            List.append_assoc, List.cons_append]

theorem insideOption?_of_head
    {c : Char}
    (hHead : c ≠ 'O')
    (cs : List Char) :
    insideOption? (c :: cs) = none := by
  rw [insideOption?, if_neg]
  intro hOpening
  rw [List.isPrefixOf_iff_prefix] at hOpening
  exact hHead (List.cons_prefix_cons.mp hOpening).1.symm

/- The first word of a text is what stands before a bracket. -/
theorem Word.takeWhile_chars_append
    (w : Word)
    (rest : List Char) :
    (w.chars ++ '<' :: rest).takeWhile (· != '<') = w.chars := by
  have hPlain : ∀ c ∈ w.chars, (c != '<') = true := by
    intro c hMem
    rw [bne_iff_ne]
    rintro rfl
    exact absurd (isPlain_of_mem hMem) (by decide)
  rw [List.takeWhile_append_of_pos hPlain, List.takeWhile_cons,
    if_neg (by decide), List.append_nil]

/- Only the name of the wrapper opens one. -/
theorem insideOption?_of_name
    {name : Word}
    (hName : name.text ≠ optionName.text)
    {rest : List Char}
    (hRest : ∀ c ∈ rest.head?, c = '<') :
    insideOption? (name.chars ++ rest) = none := by
  rw [insideOption?, if_neg]
  intro hOpening
  rw [List.isPrefixOf_iff_prefix] at hOpening
  rcases hOpening with ⟨tail, hText⟩
  have hFirst :
      (name.chars ++ rest).takeWhile (· != '<') = optionName.chars := by
    rw [← hText]
    exact optionName.takeWhile_chars_append tail
  cases rest with
  | nil =>
      have hBracket : '<' ∈ name.chars := by
        rw [← List.append_nil name.chars, ← hText]
        simp [optionOpening]
      exact absurd (Word.isPlain_of_mem hBracket) (by decide)
  | cons c rest =>
      rw [hRest c rfl, name.takeWhile_chars_append] at hFirst
      exact hName (String.toList_inj.mp hFirst)

/- The scanned text of a type loses the outer wrappers. -/
theorem TypeExpr.dropOptions_readTokens
    (t : TypeExpr) :
    dropOptions (readTokens [] t.tokens) =
      readTokens [] t.core.tokens := by
  induction t using TypeExpr.induction with
  | option path item ih =>
      have hText :
          readTokens [] (TypeExpr.option path item).tokens =
            optionOpening ++ (readTokens [] item.tokens ++ ['>']) := by
        rw [tokens, readTokens, readTokens, readTokens, ite_self,
          readTokens_append_delimiter]
        rfl
      rw [hText, dropOptions_wrapped, ih]
      rfl
  | apply path name hName args _ =>
      refine dropOptions_of_none ?_
      rw [tokens, readTokens, readTokens, ite_self,
        List.nil_append]
      split
      · rw [readTokens]
        simpa using @insideOption?_of_name name hName [] (by simp)
      · rw [readTokens]
        exact insideOption?_of_name hName (by simp)
  | reference qualifiers target _ =>
      exact dropOptions_of_none (insideOption?_of_head (by decide) _)
  | tuple items comma _ =>
      exact dropOptions_of_none (insideOption?_of_head (by decide) _)
  | array item path length _ =>
      exact dropOptions_of_none (insideOption?_of_head (by decide) _)
  | slice item _ =>
      exact dropOptions_of_none (insideOption?_of_head (by decide) _)

------------------------------------------------------------
-- Paths behind words
------------------------------------------------------------

/-
  No path that is not empty stands right behind a word. The
  flag says if the token before is a word.
-/
def Apart : Bool → List Token → Prop
  | _, [] => True
  | _, .word _ :: tokens => Apart true tokens
  | afterWord, .path p :: tokens =>
      (p = {} ∨ afterWord = false) ∧ Apart afterWord tokens
  | _, .delimiter _ _ :: tokens => Apart false tokens

theorem length_readTokens_le
    (name : List Char)
    (tokens : List Token) :
    (readTokens name tokens).length ≤
      name.length + (tokens.flatMap Token.text).length := by
  induction tokens generalizing name with
  | nil => exact Nat.le_refl _
  | cons token tokens ih =>
      rw [List.flatMap_cons, List.length_append]
      cases token with
      | word w =>
          have hRest := ih (name ++ w.chars)
          rw [List.length_append] at hRest
          rw [readTokens, Token.text]
          omega
      | path p =>
          have hRest := ih (if p = {} then name else [])
          have hName :
              (if p = {} then name else []).length ≤ name.length := by
            split
            · exact Nat.le_refl _
            · exact Nat.zero_le _
          rw [readTokens, Token.text, List.length_nil]
          omega
      | delimiter c hDelimiter =>
          have hRest := ih []
          rw [readTokens, Token.text, List.length_append,
            List.length_cons, List.length_singleton]
          rw [List.length_nil] at hRest
          omega

/-
  The scan keeps the whole text if and only if paths stand
  apart from words: a path behind a word cancels it, and no
  later token makes up for the characters.
-/
theorem readTokens_eq_text_iff
    (name : List Char)
    (tokens : List Token) :
    readTokens name tokens = name ++ tokens.flatMap Token.text ↔
      Apart (!name.isEmpty) tokens := by
  induction tokens generalizing name with
  | nil => simp [readTokens, Apart]
  | cons token tokens ih =>
      rw [List.flatMap_cons]
      cases token with
      | word w =>
          have hWord : (name ++ w.chars).isEmpty = false := by
            simp [w.chars_ne_nil]
          rw [readTokens, Token.text, Apart, ← List.append_assoc, ih,
            hWord, Bool.not_false]
      | path p =>
          rw [readTokens, Token.text, Apart, List.nil_append]
          by_cases hEmpty : p = {}
          · rw [if_pos hEmpty, ih]
            simp [hEmpty]
          · rw [if_neg hEmpty]
            cases name with
            | nil =>
                rw [ih]
                simp
            | cons c name =>
                -- The scan has dropped the name, so its text is too short.
                have hLength := length_readTokens_le [] tokens
                constructor
                · intro hText
                  rw [hText, List.length_append, List.length_cons,
                    List.length_nil] at hLength
                  omega
                · rintro ⟨hNot, _⟩
                  simp [hEmpty] at hNot
      | delimiter c hDelimiter =>
          rw [readTokens, Token.text, Apart, List.append_cancel_left_eq,
            List.cons_append, List.cons.injEq, List.nil_append]
          have hRest := ih []
          rw [List.nil_append, List.isEmpty_nil] at hRest
          simp [hRest]

namespace TypeExpr

mutual

/-
  No reference inside the type has words after its ampersand
  and a path behind them.
-/
def QualifiersKept : TypeExpr → Prop
  | .apply _ _ _ args => EachQualifiersKept args
  | .option _ item => item.QualifiersKept
  | .reference qualifiers target =>
      (qualifiers = [] ∨ target.path = {}) ∧ target.QualifiersKept
  | .tuple items _ => EachQualifiersKept items
  | .array item _ _ => item.QualifiersKept
  | .slice item => item.QualifiersKept

def EachQualifiersKept : List TypeExpr → Prop
  | [] => True
  | t :: ts => t.QualifiersKept ∧ EachQualifiersKept ts

end

theorem eachQualifiersKept_iff
    {ts : List TypeExpr} :
    EachQualifiersKept ts ↔ ∀ t ∈ ts, t.QualifiersKept := by
  induction ts with
  | nil => simp [EachQualifiersKept]
  | cons t ts ih => rw [EachQualifiersKept, ih, List.forall_mem_cons]

theorem tokensOfEach_eq_map
    (ts : List TypeExpr) :
    tokensOfEach ts = ts.map tokens := by
  induction ts with
  | nil => rfl
  | cons t ts ih => rw [tokensOfEach, ih, List.map_cons]

end TypeExpr

/- What stands behind these tokens is apart from them. -/
def Closes
    (tokens : List Token) : Prop :=
  ∀ afterWord, Apart afterWord tokens ↔ Apart false tokens

theorem closes_nil :
    Closes [] :=
  fun _ => Iff.rfl

theorem closes_delimiter
    {c : Char}
    (hDelimiter : isDelimiter c = true)
    (tokens : List Token) :
    Closes (.delimiter c hDelimiter :: tokens) :=
  fun _ => Iff.rfl

theorem apart_qualifiers
    (qualifiers : List Word)
    (afterWord : Bool)
    (tokens : List Token) :
    Apart afterWord (qualifiers.map .word ++ tokens) ↔
      Apart (afterWord || !qualifiers.isEmpty) tokens := by
  induction qualifiers generalizing afterWord with
  | nil => simp
  | cons w qualifiers ih =>
      rw [List.map_cons, List.cons_append, Apart, ih]
      simp

/-
  The tokens of a type stand apart just if those of its parts
  do and a path in front is apart from the token before it.
-/
def TypeExpr.ApartLike
    (t : TypeExpr) : Prop :=
  ∀ afterWord rest, Closes rest →
    (Apart afterWord (t.tokens ++ rest) ↔
      (t.path = {} ∨ afterWord = false) ∧
        t.QualifiersKept ∧ Apart false rest)

theorem apart_separated
    {ts : List TypeExpr}
    (hEach : ∀ t ∈ ts, t.ApartLike)
    {rest : List Token}
    (hRest : Closes rest) :
    Apart false (TypeExpr.separated (ts.map TypeExpr.tokens) ++ rest) ↔
      (∀ t ∈ ts, t.QualifiersKept) ∧ Apart false rest := by
  induction ts with
  | nil => simp [TypeExpr.separated]
  | cons t ts ih =>
      rw [List.forall_mem_cons] at hEach
      rw [List.forall_mem_cons]
      cases ts with
      | nil =>
          rw [List.map_cons, List.map_nil, TypeExpr.separated,
            List.intercalate_singleton, hEach.1 _ _ hRest]
          simp
      | cons u us =>
          have hTail := ih hEach.2
          rw [List.map_cons, List.map_cons, TypeExpr.separated,
            List.intercalate_cons_cons, ← List.map_cons,
            List.append_assoc, List.append_assoc, List.singleton_append,
            hEach.1 _ _ (closes_delimiter _ _), Apart]
          rw [TypeExpr.separated] at hTail
          rw [hTail]
          simp [and_assoc]

theorem TypeExpr.apartLike
    (t : TypeExpr) :
    t.ApartLike := by
  induction t using TypeExpr.induction with
  | apply path name hName args ih =>
      intro afterWord rest hRest
      rw [tokens, QualifiersKept, eachQualifiersKept_iff,
        tokensOfEach_eq_map, List.cons_append, List.cons_append, Apart,
        Apart]
      split
      · next hEmpty =>
          rw [List.isEmpty_iff.mp hEmpty, List.nil_append, hRest true]
          simp [TypeExpr.path]
      · rw [List.cons_append, List.append_assoc, List.singleton_append,
          Apart, apart_separated ih (closes_delimiter _ _), Apart,
          TypeExpr.path]
  | option path item ih =>
      intro afterWord rest hRest
      rw [tokens, List.cons_append, List.cons_append, List.cons_append,
        List.append_assoc, Apart, Apart, Apart, List.singleton_append,
        ih _ _ (closes_delimiter _ _)]
      simp [TypeExpr.path, QualifiersKept, Apart]
  | reference qualifiers target ih =>
      intro afterWord rest hRest
      rw [tokens, List.cons_append, List.append_assoc, Apart,
        apart_qualifiers, ih _ _ hRest]
      simp [TypeExpr.path, QualifiersKept, or_comm, and_assoc]
  | tuple items comma ih =>
      intro afterWord rest hRest
      rw [tokens, QualifiersKept, eachQualifiersKept_iff,
        tokensOfEach_eq_map, List.cons_append, List.append_assoc, Apart]
      cases comma with
      | true =>
          rw [if_pos rfl, List.append_assoc, List.singleton_append,
            List.singleton_append,
            apart_separated ih (closes_delimiter _ _)]
          simp [TypeExpr.path, Apart]
      | false =>
          rw [if_neg (by simp), List.nil_append, List.singleton_append,
            apart_separated ih (closes_delimiter _ _)]
          simp [TypeExpr.path, Apart]
  | array item path length ih =>
      intro afterWord rest hRest
      rw [tokens, List.cons_append, List.append_assoc, Apart,
        List.cons_append, ih _ _ (closes_delimiter _ _)]
      simp [TypeExpr.path, QualifiersKept, Apart]
  | slice item ih =>
      intro afterWord rest hRest
      rw [tokens, List.cons_append, List.append_assoc, Apart,
        List.cons_append, ih _ _ (closes_delimiter _ _)]
      simp [TypeExpr.path, QualifiersKept, Apart]

namespace TypeExpr

theorem apart_tokens_iff
    {t : TypeExpr} :
    Apart false t.tokens ↔ t.QualifiersKept := by
  have hApart := t.apartLike false [] closes_nil
  rw [List.append_nil] at hApart
  simpa [Apart] using hApart

/- The scan gives the text just if every qualifier is kept. -/
theorem readTokens_tokens_eq_iff
    {t : TypeExpr} :
    readTokens [] t.tokens = t.text.toList ↔ t.QualifiersKept := by
  rw [text, String.toList_ofList, ← List.nil_append (t.tokens.flatMap _),
    readTokens_eq_text_iff, ← apart_tokens_iff]
  rfl

/- Wrappers have no qualifiers. -/
theorem qualifiersKept_core
    (t : TypeExpr) :
    t.core.QualifiersKept ↔ t.QualifiersKept := by
  induction t using TypeExpr.induction with
  | option path item ih => exact ih
  | _ => exact Iff.rfl

/- A spelled type is normalized to what the scan makes of its core. -/
theorem normalize_of_spelled
    {t : TypeExpr}
    {declared : String}
    (hSpelled : t.Spelled declared) :
    normalize declared = String.ofList (readTokens [] t.core.tokens) := by
  rw [← t.dropOptions_readTokens, ← dropPaths_of_spelled hSpelled]
  rfl

theorem core_text_of_qualifiersKept
    {t : TypeExpr}
    (hKept : t.QualifiersKept) :
    t.core.text = String.ofList (dropOptions t.text.toList) := by
  rw [← readTokens_tokens_eq_iff.mpr hKept, t.dropOptions_readTokens,
    readTokens_tokens_eq_iff.mpr (t.qualifiersKept_core.mpr hKept),
    String.ofList_toList]

theorem normalize_eq_core_text_iff
    {t : TypeExpr}
    {declared : String}
    (hSpelled : t.Spelled declared) :
    normalize declared = t.core.text ↔ t.QualifiersKept := by
  rw [normalize_of_spelled hSpelled, ← t.qualifiersKept_core,
    ← readTokens_tokens_eq_iff, ← String.toList_inj,
    String.toList_ofList]

end TypeExpr

end TypeSpelling

------------------------------------------------------------
-- Column types
------------------------------------------------------------

namespace Dialect

/- Both types have the same column type, or both have none. -/
def SameColumnType
    (d : Dialect)
    (declared other : String) : Prop :=
  (∀ column,
    d.columnType declared = .ok column ↔
      d.columnType other = .ok column) ∧
    (d.columnType declared = .error (.noColumnType d declared) ↔
      d.columnType other = .error (.noColumnType d other))

theorem sameColumnType_of_normalize_eq
    {declared other : String}
    (hNormal :
      TypeSpelling.normalize declared = TypeSpelling.normalize other)
    (d : Dialect) :
    d.SameColumnType declared other := by
  have hType : d.columnType? declared = d.columnType? other := by
    rw [columnType?, columnType?, hNormal]
  unfold SameColumnType columnType
  rw [hType]
  cases d.columnType? other <;> simp

end Dialect

namespace TypeSpelling

namespace TypeExpr

/-
  Blanks and outer wrappers never matter. Module paths do not
  matter if and only if no path stands behind the words of a
  reference: then the normal form is the text of the type, and
  in every dialect the type has the column type of all types
  with that text, or none of them has one. What is normal
  stays as it is.
-/
theorem spelling_is_ignored_iff
    {t : TypeExpr}
    {wrappers : List Path}
    {declared : String}
    (hSpelled : (t.inOptions wrappers).Spelled declared) :
    (∀ bare, t.Spelled bare → normalize declared = normalize bare) ∧
      (normalize declared = t.core.text ↔ t.QualifiersKept) ∧
      (t.QualifiersKept →
        ∀ (other : TypeExpr) (bare : String),
          other.text = t.text → other.QualifiersKept →
          other.Spelled bare →
          ∀ d : Dialect, d.SameColumnType declared bare) ∧
      ∀ s, normalize (normalize s) = normalize s := by
  have hCore := t.core_inOptions wrappers
  have hWrapped :
      normalize declared = t.core.text ↔ t.QualifiersKept := by
    rw [← hCore, normalize_eq_core_text_iff hSpelled,
      ← qualifiersKept_core, hCore, qualifiersKept_core]
  refine ⟨?_, hWrapped, ?_, normalize_normalize⟩
  · intro bare hBare
    rw [normalize_of_spelled hSpelled, normalize_of_spelled hBare, hCore]
  · intro hKept other bare hText hKeptToo hBare d
    refine Dialect.sameColumnType_of_normalize_eq ?_ d
    rw [hWrapped.mpr hKept,
      (normalize_eq_core_text_iff hBare).mpr hKeptToo,
      core_text_of_qualifiersKept hKept,
      core_text_of_qualifiersKept hKeptToo, hText]

/- The time `DateTime<Utc>`, with a path in front of each name. -/
def utcTime
    (front : Path) : TypeExpr :=
  .apply front { text := "DateTime" } (by decide)
    [.apply front { text := "Utc" } (by decide) []]

/-
  Two wrappers around a type that ends in a bracket itself,
  with blanks and with paths on either level.
-/
theorem wrapped_time_is_ignored_spelling :
    let chrono : Path := { modules := [{ text := "chrono" }] }
    let wrappers : List Path :=
      [{}, { modules := [{ text := "std" }, { text := "option" }] }]
    let declared :=
      "Option< std::option::Option <chrono ::DateTime<chrono::Utc> > >"
    ((utcTime chrono).inOptions wrappers).Spelled declared ∧
      (utcTime {}).Spelled "DateTime<Utc>" ∧
      (utcTime {}).text = (utcTime chrono).text ∧
      normalize declared = "DateTime<Utc>" ∧
      (∀ d : Dialect, d.SameColumnType declared "DateTime<Utc>") ∧
      Dialect.postgres.columnType declared = .ok "TIMESTAMPTZ" := by
  intro chrono wrappers declared
  have hSpelled : ((utcTime chrono).inOptions wrappers).Spelled declared := by
    decide +kernel
  have hBare : (utcTime {}).Spelled "DateTime<Utc>" := by
    decide +kernel
  have hText : (utcTime {}).text = (utcTime chrono).text := by
    decide +kernel
  have hKept : ∀ front, (utcTime front).QualifiersKept :=
    fun _ => ⟨trivial, trivial⟩
  have hIgnored := spelling_is_ignored_iff hSpelled
  have hNormal := hIgnored.2.1.mpr (hKept chrono)
  have hSame :=
    hIgnored.2.2.1 (hKept chrono) _ _ hText (hKept {}) hBare
  refine ⟨hSpelled, hBare, hText, ?_, hSame, ?_⟩
  · rw [hNormal]
    decide +kernel
  · decide +kernel

/-
  The path of the target takes the lifetime with it, so that a
  text behind a lifetime has a column type just if its type is
  written with a path.
-/
theorem path_behind_lifetime_cancels_it :
    let lifetime : Word := { text := "'static" }
    let text (front : Path) : TypeExpr :=
      .reference [lifetime] (.apply front { text := "str" } (by decide) [])
    let primitive : Path :=
      { modules := [{ text := "std" }, { text := "primitive" }] }
    (text primitive).Spelled "&'static std::primitive::str" ∧
      (text {}).Spelled "&'static str" ∧
      (text primitive).core.text = "&'staticstr" ∧
      normalize "&'static std::primitive::str" = "&str" ∧
      normalize "&'static str" = "&'staticstr" ∧
      Dialect.sqlite.columnType "&'static std::primitive::str" =
        .ok "TEXT" ∧
      Dialect.sqlite.columnType "&'static str" =
        .error (.noColumnType .sqlite "&'static str") := by
  refine ⟨?_, ?_, ?_, ?_, ?_, ?_, ?_⟩ <;> decide +kernel

end TypeExpr

end TypeSpelling

end EntitySql
