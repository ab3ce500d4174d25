import EntitySql.Dialect.TypeSpelling

/-
  Types as expressions, and the texts that spell them: words,
  module paths and delimiters with any blanks between them.
  The scan for module paths is read token by token.

  Key definitions include:
    * `Word`, `Path`
    * `TypeExpr`
    * `TypeExpr.tokens`, `TypeExpr.text`
    * `TypeExpr.Spelled`
    * `readTokens`

  Key theorems include:
    * `TypeExpr.induction`
    * `visible_of_spells`
    * `dropPaths_flatten_lexemes`
    * `TypeExpr.dropPaths_of_spelled`
-/

namespace EntitySql

namespace TypeSpelling

------------------------------------------------------------
-- Words and paths
------------------------------------------------------------

/- A character of a word: no blank, no delimiter, no colon. -/
def isPlain
    (c : Char) : Bool :=
  !Text.isBlank c && !isDelimiter c && c != ':'

/- An identifier, a number, or a lifetime with its quote. -/
structure Word where
  text : String
  nonempty : text ≠ "" := by decide
  plain : text.toList.all isPlain = true := by decide +kernel
  deriving DecidableEq

namespace Word

def chars
    (w : Word) : List Char :=
  w.text.toList

theorem chars_ne_nil
    (w : Word) :
    w.chars ≠ [] := by
  simpa [chars] using w.nonempty

theorem isPlain_of_mem
    {w : Word}
    {c : Char}
    (hMem : c ∈ w.chars) :
    isPlain c = true :=
  List.all_eq_true.mp w.plain c hMem

end Word

/-
  What may stand in front of a name: the modules, each with a
  double colon behind it, and one in front of them all if the
  path is absolute.
-/
structure Path where
  absolute : Bool := false
  modules : List Word := []
  deriving DecidableEq

------------------------------------------------------------
-- Expressions
------------------------------------------------------------

/- The name of the wrapper. -/
def optionName : Word where
  text := "Option"

/-
  A type: a name with the types it is applied to, the wrapper
  `Option` of one type, a reference with the words after its
  ampersand (a lifetime, `mut`), a tuple that may end in a
  comma, an array or a slice.
-/
inductive TypeExpr where
  | apply
      (path : Path)
      (name : Word)
      (hName : name.text ≠ optionName.text)
      (args : List TypeExpr)
  | option (path : Path) (item : TypeExpr)
  | reference (qualifiers : List Word) (target : TypeExpr)
  | tuple (items : List TypeExpr) (comma : Bool)
  | array (item : TypeExpr) (path : Path) (length : Word)
  | slice (item : TypeExpr)

namespace TypeExpr

/- Induction with a hypothesis for every type of a list. -/
@[elab_as_elim]
theorem induction
    {motive : TypeExpr → Prop}
    (apply : ∀ path name hName args,
      (∀ arg ∈ args, motive arg) →
      motive (.apply path name hName args))
    (option : ∀ path item, motive item → motive (.option path item))
    (reference : ∀ qualifiers target,
      motive target → motive (.reference qualifiers target))
    (tuple : ∀ items comma,
      (∀ item ∈ items, motive item) → motive (.tuple items comma))
    (array : ∀ item path length,
      motive item → motive (.array item path length))
    (slice : ∀ item, motive item → motive (.slice item))
    (t : TypeExpr) :
    motive t :=
  t.rec apply option reference tuple array slice
    (fun _ hMem => nomatch hMem)
    (fun _ _ hHead hTail =>
      List.forall_mem_cons.mpr ⟨hHead, hTail⟩)

/- The path of the name that a type begins with. -/
def path : TypeExpr → Path
  | .apply path _ _ _ => path
  | .option path _ => path
  | _ => {}

/- The type inside its outer wrappers. -/
def core : TypeExpr → TypeExpr
  | .option _ item => item.core
  | t => t

/- The type with wrappers around it, the outermost first. -/
def inOptions
    (t : TypeExpr)
    (wrappers : List Path) : TypeExpr :=
  wrappers.foldr .option t

theorem core_inOptions
    (t : TypeExpr)
    (wrappers : List Path) :
    (t.inOptions wrappers).core = t.core := by
  induction wrappers with
  | nil => rfl
  | cons path wrappers ih => exact ih

end TypeExpr

------------------------------------------------------------
-- Tokens
------------------------------------------------------------

/- A path is one token, which may be empty. -/
inductive Token where
  | word (w : Word)
  | path (p : Path)
  | delimiter
      (c : Char)
      (hDelimiter : isDelimiter c = true := by decide)

namespace Token

/- What a token adds to the text of a type; paths add nothing. -/
def text : Token → List Char
  | .word w => w.chars
  | .path _ => []
  | .delimiter c _ => [c]

/- The pieces of a token between which blanks may stand. -/
def lexemes : Token → List (List Char)
  | .word w => [w.chars]
  | .path p =>
      (if p.absolute then [[':', ':']] else []) ++
        p.modules.flatMap fun w => [w.chars, [':', ':']]
  | .delimiter c _ => [[c]]

end Token

namespace TypeExpr

/- Lists of types have a comma between two of them. -/
def separated
    (parts : List (List Token)) : List Token :=
  List.intercalate [.delimiter ','] parts

mutual

/- The tokens of a type, from left to right. -/
def tokens : TypeExpr → List Token
  | .apply path name _ args =>
      .path path :: .word name ::
        (if args.isEmpty then []
          else .delimiter '<' ::
            (separated (tokensOfEach args) ++ [.delimiter '>']))
  | .option path item =>
      .path path :: .word optionName :: .delimiter '<' ::
        (item.tokens ++ [.delimiter '>'])
  | .reference qualifiers target =>
      .delimiter '&' :: (qualifiers.map .word ++ target.tokens)
  | .tuple items comma =>
      .delimiter '(' ::
        (separated (tokensOfEach items) ++
          ((if comma then [.delimiter ','] else []) ++
            [.delimiter ')']))
  | .array item path length =>
      .delimiter '[' ::
        (item.tokens ++
          [.delimiter ';', .path path, .word length, .delimiter ']'])
  | .slice item =>
      .delimiter '[' :: (item.tokens ++ [.delimiter ']'])

def tokensOfEach : List TypeExpr → List (List Token)
  | [] => []
  | t :: ts => t.tokens :: tokensOfEach ts

end

/- The text of a type, with no blanks and no module paths. -/
def text
    (t : TypeExpr) : String :=
  String.ofList (t.tokens.flatMap Token.text)

end TypeExpr

------------------------------------------------------------
-- Spellings
------------------------------------------------------------

/-
  The text holds the pieces in order, with or without blanks
  in front of a piece and at the end.
-/
def Spells : List (List Char) → List Char → Prop
  | [], cs => cs.all Text.isBlank = true
  | piece :: pieces, cs =>
      piece <+: Text.trimStart cs ∧
        Spells pieces ((Text.trimStart cs).drop piece.length)

instance decidableSpells : ∀ pieces cs, Decidable (Spells pieces cs)
  | [], cs =>
      inferInstanceAs (Decidable (cs.all Text.isBlank = true))
  | piece :: pieces, cs =>
      have := decidableSpells pieces
      inferInstanceAs
        (Decidable (piece <+: Text.trimStart cs ∧ Spells pieces _))

/- The declared text is a spelling of the type. -/
def TypeExpr.Spelled
    (t : TypeExpr)
    (declared : String) : Prop :=
  Spells (t.tokens.flatMap Token.lexemes) declared.toList

instance (t : TypeExpr) (declared : String) :
    Decidable (t.Spelled declared) :=
  decidableSpells _ _

/- The characters of a text that are no blanks. -/
def visible
    (cs : List Char) : List Char :=
  cs.filter fun c => !Text.isBlank c

theorem visible_append
    (cs ds : List Char) :
    visible (cs ++ ds) = visible cs ++ visible ds :=
  List.filter_append _ _

theorem visible_trimStart
    (cs : List Char) :
    visible (Text.trimStart cs) = visible cs := by
  induction cs with
  | nil => rfl
  | cons c cs ih =>
      rw [Text.trimStart] at ih ⊢
      rw [List.dropWhile_cons]
      split
      · next hBlank => rw [ih, visible, visible, List.filter_cons_of_neg
          (by simp [hBlank])]
      · rfl

theorem visible_eq_self_iff
    {cs : List Char} :
    visible cs = cs ↔ ∀ c ∈ cs, Text.isBlank c = false := by
  rw [visible, List.filter_eq_self]
  simp

theorem Word.visible_chars
    (w : Word) :
    visible w.chars = w.chars := by
  rw [visible_eq_self_iff]
  intro c hMem
  have hPlain := isPlain_of_mem hMem
  simp only [isPlain, Bool.and_eq_true, Bool.not_eq_true'] at hPlain
  exact hPlain.1.1

theorem not_blank_of_isDelimiter
    {c : Char}
    (hDelimiter : isDelimiter c = true) :
    Text.isBlank c = false := by
  simp only [isDelimiter, List.contains_eq_mem, decide_eq_true_eq,
    List.mem_cons, List.not_mem_nil, or_false] at hDelimiter
  rcases hDelimiter with rfl | rfl | rfl | rfl | rfl | rfl | rfl |
    rfl | rfl <;> decide +kernel

/- No blank is part of a lexeme. -/
theorem Token.visible_of_mem_lexemes
    {token : Token}
    {piece : List Char}
    (hMem : piece ∈ token.lexemes) :
    visible piece = piece := by
  have hColons : visible [':', ':'] = [':', ':'] := by decide +kernel
  cases token with
  | word w =>
      rw [lexemes, List.mem_singleton] at hMem
      rw [hMem, Word.visible_chars]
  | delimiter c hDelimiter =>
      rw [lexemes, List.mem_singleton] at hMem
      rw [hMem, visible_eq_self_iff]
      intro c' hSame
      rw [List.mem_singleton.mp hSame]
      exact not_blank_of_isDelimiter hDelimiter
  | path p =>
      rw [lexemes, List.mem_append, List.mem_flatMap] at hMem
      rcases hMem with hFront | ⟨w, _, hModule⟩
      · split at hFront
        · rw [List.mem_singleton.mp hFront, hColons]
        · cases hFront
      · simp only [List.mem_cons, List.not_mem_nil, or_false] at hModule
        rcases hModule with rfl | rfl
        · exact w.visible_chars
        · exact hColons

theorem visible_of_spells
    {pieces : List (List Char)}
    {cs : List Char}
    (hSpells : Spells pieces cs)
    (hVisible : ∀ piece ∈ pieces, visible piece = piece) :
    visible cs = pieces.flatten := by
  induction pieces generalizing cs with
  | nil =>
      rw [visible, List.flatten_nil, List.filter_eq_nil_iff]
      intro c hMem
      simp [List.all_eq_true.mp hSpells c hMem]
  | cons piece pieces ih =>
      rw [List.forall_mem_cons] at hVisible
      rcases hSpells with ⟨⟨rest, hText⟩, hRest⟩
      rw [← hText, List.drop_left] at hRest
      rw [← visible_trimStart, ← hText, visible_append, hVisible.1,
        ih hRest hVisible.2, List.flatten_cons]

------------------------------------------------------------
-- The scan for paths
------------------------------------------------------------

theorem dropPaths_plain
    {c : Char}
    (hPlain : isPlain c = true)
    (name rest : List Char) :
    dropPaths name (c :: rest) = dropPaths (name ++ [c]) rest := by
  simp only [isPlain, Bool.and_eq_true, Bool.not_eq_true',
    bne_iff_ne] at hPlain
  rw [dropPaths, if_neg]
  · simp [hPlain.1.2]
  · exact fun _ hColon _ => hPlain.2 hColon

theorem dropPaths_delimiter
    {c : Char}
    (hDelimiter : isDelimiter c = true)
    (name rest : List Char) :
    dropPaths name (c :: rest) = name ++ c :: dropPaths [] rest := by
  rw [dropPaths, if_pos hDelimiter]
  rintro _ rfl
  cases hDelimiter

theorem dropPaths_append_of_plain
    {cs : List Char}
    (hPlain : ∀ c ∈ cs, isPlain c = true)
    (name rest : List Char) :
    dropPaths name (cs ++ rest) = dropPaths (name ++ cs) rest := by
  induction cs generalizing name with
  | nil => rw [List.nil_append, List.append_nil]
  | cons c cs ih =>
      rw [List.forall_mem_cons] at hPlain
      rw [List.cons_append, dropPaths_plain hPlain.1, ih hPlain.2,
        List.append_assoc, List.singleton_append]

theorem dropPaths_chars
    (name : List Char)
    (w : Word)
    (rest : List Char) :
    dropPaths name (w.chars ++ rest) = dropPaths (name ++ w.chars) rest :=
  dropPaths_append_of_plain (fun _ => Word.isPlain_of_mem) name rest

/- Only the double colons of a path matter to the scan. -/
theorem dropPaths_modules
    (name : List Char)
    (modules : List Word)
    (rest : List Char) :
    dropPaths name
        ((modules.flatMap fun w => [w.chars, [':', ':']]).flatten ++
          rest) =
      dropPaths (if modules.isEmpty then name else []) rest := by
  induction modules generalizing name with
  | nil => rfl
  | cons w modules ih =>
      simp only [List.flatMap_cons, List.flatten_cons,
        List.append_assoc, List.cons_append, List.nil_append]
      rw [dropPaths_chars, dropPaths, ih]
      simp

theorem dropPaths_path
    (name : List Char)
    (p : Path)
    (rest : List Char) :
    dropPaths name ((Token.path p).lexemes.flatten ++ rest) =
      dropPaths (if p = {} then name else []) rest := by
  rcases p with ⟨absolute, modules⟩
  rw [Token.lexemes, List.flatten_append, List.append_assoc]
  cases absolute with
  | true =>
      rw [if_pos rfl, if_neg (by simp)]
      simp only [List.flatten_cons, List.flatten_nil, List.append_nil,
        List.cons_append, List.nil_append]
      rw [dropPaths, dropPaths_modules]
      simp
  | false =>
      rw [if_neg (by simp), List.flatten_nil, List.nil_append,
        dropPaths_modules]
      cases modules with
      | nil => rfl
      | cons w modules => simp

/-
  The scan over tokens: a word goes on with the name, a path
  that is not empty cancels it, a delimiter ends it.
-/
def readTokens : List Char → List Token → List Char
  | name, [] => name
  | name, .word w :: tokens => readTokens (name ++ w.chars) tokens
  | name, .path p :: tokens =>
      readTokens (if p = {} then name else []) tokens
  | name, .delimiter c _ :: tokens =>
      name ++ c :: readTokens [] tokens

theorem dropPaths_flatten_lexemes
    (name : List Char)
    (tokens : List Token) :
    dropPaths name (tokens.flatMap Token.lexemes).flatten =
      readTokens name tokens := by
  induction tokens generalizing name with
  | nil => rw [List.flatMap_nil, List.flatten_nil, dropPaths, readTokens]
  | cons token tokens ih =>
      rw [List.flatMap_cons, List.flatten_append]
      cases token with
      | word w =>
          rw [Token.lexemes, List.flatten_singleton, dropPaths_chars, ih,
            readTokens]
      | path p => rw [dropPaths_path, ih, readTokens]
      | delimiter c hDelimiter =>
          rw [Token.lexemes, List.flatten_singleton, List.cons_append,
            List.nil_append, dropPaths_delimiter hDelimiter, ih,
            readTokens]

/- No spelling of a type matters but its tokens. -/
theorem TypeExpr.dropPaths_of_spelled
    {t : TypeExpr}
    {declared : String}
    (hSpelled : t.Spelled declared) :
    dropPaths [] (visible declared.toList) =
      readTokens [] t.tokens := by
  have hVisible :
      ∀ piece ∈ t.tokens.flatMap Token.lexemes,
        visible piece = piece := by
    intro piece hMem
    rcases List.mem_flatMap.mp hMem with ⟨token, _, hPiece⟩
    exact Token.visible_of_mem_lexemes hPiece
  rw [visible_of_spells hSpelled hVisible, dropPaths_flatten_lexemes]

end TypeSpelling

end EntitySql
