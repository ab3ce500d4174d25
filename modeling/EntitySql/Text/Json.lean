import EntitySql.Text.Escaped

/-
  This file defines strings as JSON writes them.

  Key definitions include:
    * `Json.writeString`
    * `Json.readString?`
    * `Json.skipBlanks`
-/

namespace EntitySql

namespace Json

------------------------------------------------------------
-- Writing
------------------------------------------------------------

/- A character inside quotes; only control characters and two
   more are escaped. -/
def escapeChar
    (c : Char) : List Char :=
  if c = '"' then ['\\', '"']
  else if c = '\\' then ['\\', '\\']
  else if c = '\n' then ['\\', 'n']
  else if c = '\r' then ['\\', 'r']
  else if c = '\t' then ['\\', 't']
  else if c.toNat = 0x08 then ['\\', 'b']
  else if c.toNat = 0x0c then ['\\', 'f']
  else if c.toNat < 0x10 then
    ['\\', 'u', '0', '0', '0'] ++ Text.hexDigits c.toNat
  else if c.toNat < 0x20 then
    ['\\', 'u', '0', '0'] ++ Text.hexDigits c.toNat
  else [c]

def writeString
    (s : String) : List Char :=
  ['"'] ++ s.toList.flatMap escapeChar ++ ['"']

------------------------------------------------------------
-- Reading
------------------------------------------------------------

/- The blanks between the tokens of a document. -/
def isBlank
    (c : Char) : Bool :=
  c == ' ' || c == '\t' || c == '\n' || c == '\r'

def skipBlanks
    (cs : List Char) : List Char :=
  cs.dropWhile isBlank

/- The value of a hexadecimal digit. -/
def hexValue?
    (c : Char) : Option Nat :=
  if '0' ≤ c ∧ c ≤ '9' then some (c.toNat - 48)
  else if 'a' ≤ c ∧ c ≤ 'f' then some (c.toNat - 87)
  else if 'A' ≤ c ∧ c ≤ 'F' then some (c.toNat - 55)
  else none

/- The value of four hexadecimal digits. -/
def hexUnit?
    (a b c d : Char) : Option Nat := do
  let a ← hexValue? a
  let b ← hexValue? b
  let c ← hexValue? c
  let d ← hexValue? d
  some (((a * 16 + b) * 16 + c) * 16 + d)

/- The character behind an escape of one letter. -/
def simpleEscape?
    (c : Char) : Option Char :=
  if c = '"' ∨ c = '\\' ∨ c = '/' then some c
  else if c = 'b' then some (Char.ofNat 0x08)
  else if c = 'f' then some (Char.ofNat 0x0c)
  else if c = 'n' then some '\n'
  else if c = 'r' then some '\r'
  else if c = 't' then some '\t'
  else none

/- The character of a surrogate pair. -/
def pairChar?
    (high low : Nat) : Option Char :=
  if 0xd800 ≤ high ∧ high < 0xdc00 ∧ 0xdc00 ≤ low ∧ low < 0xe000 then
    some (Char.ofNat
      (0x10000 + (high - 0xd800) * 0x400 + (low - 0xdc00)))
  else none

/- A code unit that is no half of a surrogate pair. -/
def isSurrogate
    (unit : Nat) : Bool :=
  decide (0xd800 ≤ unit) && decide (unit < 0xe000)

/-
  The characters up to the closing quote, and the text after
  it. Control characters have to be escaped, and a surrogate
  counts only as half of a pair.
-/
def readChars? : List Char → Option (List Char × List Char)
  | [] => none
  | '"' :: rest => some ([], rest)
  | '\\' :: 'u' :: a :: b :: c :: d ::
      '\\' :: 'u' :: e :: f :: g :: h :: rest => do
      let unit ← hexUnit? a b c d
      if isSurrogate unit then
        let low ← hexUnit? e f g h
        let char ← pairChar? unit low
        let (cs, rest) ← readChars? rest
        some (char :: cs, rest)
      else
        let (cs, rest) ←
          readChars? ('\\' :: 'u' :: e :: f :: g :: h :: rest)
        some (Char.ofNat unit :: cs, rest)
  | '\\' :: 'u' :: a :: b :: c :: d :: rest => do
      let unit ← hexUnit? a b c d
      if isSurrogate unit then none
      else
        let (cs, rest) ← readChars? rest
        some (Char.ofNat unit :: cs, rest)
  | '\\' :: c :: rest => do
      let char ← simpleEscape? c
      let (cs, rest) ← readChars? rest
      some (char :: cs, rest)
  | c :: rest => do
      if c.toNat < 0x20 ∨ c = '\\' then none
      else
        let (cs, rest) ← readChars? rest
        some (c :: cs, rest)
termination_by cs => cs.length

/- A string and the text after it. -/
def readString? : List Char → Option (String × List Char)
  | '"' :: rest => do
      let (cs, rest) ← readChars? rest
      some (String.ofList cs, rest)
  | _ => none

/- One fixed character after any blanks. -/
def readMark?
    (mark : Char)
    (cs : List Char) : Option (List Char) :=
  match skipBlanks cs with
  | c :: rest => if c = mark then some rest else none
  | [] => none

/- The word `null` after any blanks. -/
def readNull?
    (cs : List Char) : Option (List Char) :=
  match skipBlanks cs with
  | 'n' :: 'u' :: 'l' :: 'l' :: rest => some rest
  | _ => none

end Json

end EntitySql
