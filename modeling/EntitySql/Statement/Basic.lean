import EntitySql.Dialect.Basic
import EntitySql.Predicate.Parameters
import EntitySql.Text.Word

/-
  This file defines statements as they are sent to a database,
  and the numbering of their named placeholders.

  Key definitions include:
    * `Convention`, `StatementKind`
    * `Statement`
    * `numberedChars`
    * `Statement.numbered`
-/

namespace EntitySql

------------------------------------------------------------
-- Kinds of statements
------------------------------------------------------------

/- The ways to call a statement, by what it answers. -/
inductive Convention where
  | scalar
  | nonQuery
  | reader
  deriving DecidableEq, Repr

def Convention.name : Convention → String
  | .scalar => "scalar"
  | .nonQuery => "non-query"
  | .reader => "reader"

inductive StatementKind where
  | insert
  | scalar
  | update
  | delete
  | select
  | procedure
  | multiResult
  deriving DecidableEq, Repr

namespace StatementKind

def name : StatementKind → String
  | .insert => "insert"
  | .scalar => "scalar"
  | .update => "update"
  | .delete => "delete"
  | .select => "select"
  | .procedure => "procedure"
  | .multiResult => "multi-result"

def all : List StatementKind :=
  [ .insert, .scalar, .update, .delete, .select, .procedure,
    .multiResult ]

def ofName?
    (s : String) : Option StatementKind :=
  all.find? fun k => k.name == s

/- Every kind of statement is called in one way. -/
def convention : StatementKind → Convention
  | .insert | .scalar => .scalar
  | .update | .delete => .nonQuery
  | .select | .procedure | .multiResult => .reader

end StatementKind

------------------------------------------------------------
-- Statements
------------------------------------------------------------

/- A statement: its text, its parameters and its kind. -/
structure Statement where
  sql : String
  params : List Parameter
  kind : StatementKind
  deriving DecidableEq, Repr

/- The value bound under a name. -/
def Statement.param?
    (s : Statement)
    (name : String) : Option Value :=
  (s.params.find? fun p => p.name == name).map Parameter.value

------------------------------------------------------------
-- Numbered placeholders
------------------------------------------------------------

/- Dropping characters never lengthens a text. -/
theorem length_dropWhile_le
    (p : Char → Bool)
    (cs : List Char) :
    (cs.dropWhile p).length ≤ cs.length := by
  induction cs with
  | nil => simp
  | cons c cs ih =>
      simp only [List.dropWhile]
      split
      · exact Nat.le_succ_of_le ih
      · exact Nat.le_refl _

/-
  What a placeholder becomes: a dollar sign and the position
  of its name, or itself if it names nothing.
-/
def numberedPlaceholder
    (mark : Char)
    (names : List String)
    (word : List Char) : List Char :=
  match names.idxOf? (String.ofList word) with
  | some i =>
      if word.isEmpty then [mark]
      else '$' :: (toString (i + 1)).toList
  | none => mark :: word

/-
  Number every placeholder: the mark and the word characters
  after it. All other characters stay.
-/
def numberedChars
    (mark : Char)
    (names : List String) : List Char → List Char
  | [] => []
  | c :: cs =>
      if c = mark then
        numberedPlaceholder mark names (cs.takeWhile Text.isWordChar) ++
          numberedChars mark names (cs.dropWhile Text.isWordChar)
      else c :: numberedChars mark names cs
termination_by cs => cs.length
decreasing_by
  · exact Nat.lt_succ_of_le (length_dropWhile_le _ _)
  · exact Nat.lt_succ_self _

/-
  The statement for drivers that bind by position: its text
  with numbered placeholders, and the values in that order.
-/
def Statement.numbered
    (s : Statement)
    (d : Dialect) : String × List Value :=
  (String.ofList
      (numberedChars d.placeholderMark (s.params.map Parameter.name)
        s.sql.toList),
    s.params.map Parameter.value)

end EntitySql
