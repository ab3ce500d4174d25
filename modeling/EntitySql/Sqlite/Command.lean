import EntitySql.Text.Word

/-
  This file defines the commands that need no tables: selects
  of parameters, and the control of a transaction.

  Key definitions include:
    * `Sqlite.Token`, `Sqlite.token?`, `Sqlite.dropBlanks`
    * `Sqlite.isReserved`
    * `Sqlite.SelectArm`, `Sqlite.TableFree`
    * `Sqlite.Step`, `Sqlite.nextStep`

  A command is read statement by statement, so a statement
  that cannot be read does not keep the earlier ones from
  running.
-/

namespace EntitySql

namespace Sqlite

------------------------------------------------------------
-- Tokens
------------------------------------------------------------

/-
  A word stands in capitals, as keywords are compared, beside
  its text. Comments are blanks. A variable has the blanks that
  follow it at its side.
-/
inductive Token where
  | blank (text : List Char)
  | word (capitals text : String)
  | number (digits : String)
  | variable (name : String) (after : List Char)
  | quoted (name : String)
  | comma
  | semicolon
  deriving DecidableEq, Repr

/- The characters that a run of blanks can start with. -/
def isSpace
    (c : Char) : Bool :=
  c == ' ' || c == '\t' || c == '\n' || c == '\r' || c.toNat == 0x0c

/- A vertical tab is a blank only behind another blank. -/
def isLaterSpace
    (c : Char) : Bool :=
  isSpace c || c.toNat == 0x0b

/- A mark of the encoding, which is a blank of its own. -/
def byteOrderMark : Char := '\ufeff'

/- The characters of words and of variable names. -/
def isNameChar
    (c : Char) : Bool :=
  c.isAlphanum || c == '_' || c == '$' || decide (0x80 ≤ c.toNat)

/- The characters that a word can start with. -/
def isNameStart
    (c : Char) : Bool :=
  c.isAlpha || c == '_' || decide (0x80 ≤ c.toNat)

/- A run of name characters is a word or a number, or nothing. -/
def nameToken? : List Char → Option Token
  | [] => none
  | c :: cs =>
      if isNameStart c then
        let word := String.ofList (c :: cs)
        some (.word (word.map Char.toUpper) word)
      else if (c :: cs).all Char.isDigit then
        some (.number (String.ofList (c :: cs)))
      else none

/- A quoted name, its quotes doubled inside, and what follows. -/
def readQuoted? : List Char → Option (List Char × List Char)
  | [] => none
  | '"' :: '"' :: rest => do
      let (name, rest) ← readQuoted? rest
      some ('"' :: name, rest)
  | '"' :: rest => some ([], rest)
  | c :: rest => do
      let (name, rest) ← readQuoted? rest
      some (c :: name, rest)

/-
  A comment up to its end, and what follows it. One without an
  end takes all.
-/
def spanComment : List Char → List Char × List Char
  | [] => ([], [])
  | '*' :: '/' :: rest => (['*', '/'], rest)
  | c :: rest =>
      let (text, rest) := spanComment rest
      (c :: text, rest)

/-
  The name of a variable, and what follows it. Its parts may be
  joined by double colons, and a last part may stand in
  parentheses that hold no blank. The flag says whether a name
  character came before.
-/
def readVariable?
    (named : Bool) : List Char → Option (List Char × List Char)
  | ':' :: ':' :: rest => do
      let (name, rest) ← readVariable? named rest
      some (':' :: ':' :: name, rest)
  | [] => if named then some ([], []) else none
  | c :: rest =>
      if isNameChar c then do
        let (name, rest) ← readVariable? true rest
        some (c :: name, rest)
      else if !named then none
      else if c == '(' then
        let inside (c : Char) : Bool := !isLaterSpace c && c != ')'
        match rest.dropWhile inside with
        | ')' :: after =>
            some (c :: rest.takeWhile inside ++ [')'], after)
        | _ => none
      else some ([], c :: rest)

/- The first token of a text, and what follows it. -/
def token?
    (cs : List Char) : Option (Token × List Char) :=
  match cs with
  | [] => none
  | ',' :: rest => some (.comma, rest)
  | ';' :: rest => some (.semicolon, rest)
  | '-' :: '-' :: rest =>
      let inside (c : Char) : Bool := c != '\n'
      some (.blank ('-' :: '-' :: rest.takeWhile inside),
        rest.dropWhile inside)
  | '/' :: '*' :: c :: rest =>
      let (text, rest) := spanComment (c :: rest)
      some (.blank ('/' :: '*' :: text), rest)
  | '"' :: rest => do
      let (name, rest) ← readQuoted? rest
      some (.quoted (String.ofList name), rest)
  | '@' :: rest => do
      let (name, rest) ← readVariable? false rest
      some (.variable (String.ofList name) [], rest)
  | c :: rest =>
      if isSpace c then
        some (.blank (c :: rest.takeWhile isLaterSpace),
          rest.dropWhile isLaterSpace)
      else if c == byteOrderMark then some (.blank [c], rest)
      else do
        let t ← nameToken? (cs.takeWhile isNameChar)
        some (t, cs.dropWhile isNameChar)

/-
  The tokens of one statement, and what follows its semicolon.
  Every token takes a character, so the length of the text
  bounds their number.
-/
def tokens? :
    Nat → List Char → Option (List Token × List Char)
  | _, [] => some ([], [])
  | 0, _ => none
  | n + 1, cs => do
      let (t, rest) ← token? cs
      if t = .semicolon then some ([], rest)
      else
        let (ts, rest) ← tokens? n rest
        some (t :: ts, rest)

/- The blanks that tokens begin with. -/
def leadingBlanks : List Token → List Char
  | .blank text :: ts => text ++ leadingBlanks ts
  | _ => []

/- Tokens without their blanks, except those at variables. -/
def dropBlanks : List Token → List Token
  | [] => []
  | .blank _ :: ts => dropBlanks ts
  | .variable name _ :: ts =>
      .variable name (leadingBlanks ts) :: dropBlanks ts
  | t :: ts => t :: dropBlanks ts

------------------------------------------------------------
-- Statements
------------------------------------------------------------

/- A selected parameter and the column that it fills. -/
structure SelectItem where
  parameter : String
  column : String
  deriving DecidableEq, Repr

/- One SELECT of a union; `WHERE 0` leaves it without a row. -/
structure SelectArm where
  items : List SelectItem
  hasRow : Bool
  deriving DecidableEq, Repr

/- A statement that needs no tables. -/
inductive TableFree where
  | begin
  | commit
  | rollback
  | select (arms : List SelectArm)
  deriving DecidableEq, Repr

/- The words that name a column only inside quotes. -/
def reservedWords : List String :=
  [ "ADD", "ALL", "ALTER", "AND", "AS", "AUTOINCREMENT",
    "BETWEEN", "CASE", "CHECK", "COLLATE", "COMMIT",
    "CONSTRAINT", "CREATE", "DEFAULT", "DEFERRABLE", "DELETE",
    "DISTINCT", "DROP", "ELSE", "ESCAPE", "EXCEPT", "EXISTS",
    "FOREIGN", "FROM", "GROUP", "HAVING", "IN", "INDEX",
    "INSERT", "INTERSECT", "INTO", "IS", "ISNULL", "JOIN",
    "LIMIT", "NOT", "NOTHING", "NOTNULL", "NULL", "ON", "OR",
    "ORDER", "PRIMARY", "REFERENCES", "RETURNING", "SELECT",
    "SET", "TABLE", "THEN", "TO", "TRANSACTION", "UNION",
    "UNIQUE", "UPDATE", "USING", "VALUES", "WHEN", "WHERE" ]

/- A word is reserved in capitals as in small letters. -/
def isReserved
    (capitals : String) : Bool :=
  reservedWords.contains capitals

/- The words that name a column only after AS. -/
def operatorWords : List String :=
  [ "CROSS", "FULL", "GLOB", "INDEXED", "INNER", "LEFT", "LIKE",
    "MATCH", "NATURAL", "OUTER", "REGEXP", "RIGHT" ]

/- The name of a column, with or without AS in front. -/
def readName? : List Token → Option (String × List Token)
  | .word "AS" _ :: .word capitals name :: rest =>
      if isReserved capitals then none else some (name, rest)
  | .word "AS" _ :: .quoted name :: rest => some (name, rest)
  | .quoted name :: rest => some (name, rest)
  | .word capitals name :: rest =>
      if isReserved capitals || operatorWords.contains capitals then
        none
      else some (name, rest)
  | _ => none

/-
  A parameter with its column. Without a name the column is the
  text of the parameter up to the next token, less the spaces
  at its end.
-/
def readItem? : List Token → Option (SelectItem × List Token)
  | .variable p after :: rest =>
      match readName? rest with
      | some (name, rest) => some (⟨p, name⟩, rest)
      | none =>
          let after := (after.reverse.dropWhile isLaterSpace).reverse
          some (⟨p, "@" ++ p ++ String.ofList after⟩, rest)
  | _ => none

/- Parameters between commas. -/
def readItems? :
    Nat → List Token → Option (List SelectItem × List Token)
  | 0, _ => none
  | n + 1, ts => do
      let (item, rest) ← readItem? ts
      match rest with
      | .comma :: rest => do
          let (items, rest) ← readItems? n rest
          some (item :: items, rest)
      | rest => some ([item], rest)

/- The SELECTs of a union, to the end of the statement. -/
def readArms? :
    Nat → List Token → Option (List SelectArm)
  | n + 1, .word "SELECT" _ :: ts => do
      let (items, rest) ← readItems? (n + 1) ts
      let (hasRow, rest) :=
        match rest with
        | .word "WHERE" _ :: .number "0" :: rest => (false, rest)
        | rest => (true, rest)
      match rest with
      | [] => some [⟨items, hasRow⟩]
      | .word "UNION" _ :: .word "ALL" _ :: rest => do
          let arms ← readArms? n rest
          some (⟨items, hasRow⟩ :: arms)
      | _ => none
  | _, _ => none

/- A union has at most so many SELECTs. -/
def maxArms : Nat := 500

/- A result has at most so many columns. -/
def maxColumns : Nat := 2000

/- All SELECTs of a union have one number of columns. -/
def isUnion
    (arms : List SelectArm) : Bool :=
  match arms with
  | [] => true
  | first :: rest =>
      let width := first.items.length
      decide (arms.length ≤ maxArms) &&
        decide (width ≤ maxColumns) &&
        rest.all fun arm => arm.items.length == width

/- The modes of locking that a transaction may begin with. -/
def lockingModes : List String :=
  ["DEFERRED", "IMMEDIATE", "EXCLUSIVE"]

/- The statement that tokens form. -/
def readStatement?
    (ts : List Token) : Option TableFree :=
  match ts with
  | [.word "BEGIN" _] => some .begin
  | [.word "BEGIN" _, .word mode _] =>
      if lockingModes.contains mode then some .begin else none
  | [.word "COMMIT" _] => some .commit
  | [.word "ROLLBACK" _] => some .rollback
  | ts => do
      let arms ← readArms? ts.length ts
      if isUnion arms then some (.select arms) else none

------------------------------------------------------------
-- Commands
------------------------------------------------------------

/- What a command goes on with. -/
inductive Step where
  | finished
  | blank (rest : List Char)
  | statement (s : TableFree) (rest : List Char)
  | unreadable
  deriving DecidableEq, Repr

/- Read the next statement of a command. -/
def nextStep
    (cs : List Char) : Step :=
  match tokens? cs.length cs with
  | none => .unreadable
  | some (ts, rest) =>
      match dropBlanks ts, rest with
      | [], [] => .finished
      | [], rest => .blank rest
      | ts, rest =>
          match readStatement? ts with
          | some s => .statement s rest
          | none => .unreadable

end Sqlite

end EntitySql
