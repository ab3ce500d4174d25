import EntitySql.Text.Blank

/-
  This file defines the normal form of a declared field type.

  Key definitions include:
    * `TypeSpelling.dropPaths`
    * `TypeSpelling.dropOptions`
    * `TypeSpelling.normalize`

  A declared type is a text such as
  `Option<time::DateTime<time::Utc>>`. Blanks, module
  paths and outer `Option` wrappers do not matter, so its
  normal form is `DateTime<Utc>`.
-/

namespace EntitySql

namespace TypeSpelling

/- The characters that end a name inside a type. -/
def isDelimiter
    (c : Char) : Bool :=
  ['<', '>', ',', '(', ')', '[', ']', ';', '&'].contains c

/-
  Drop the module paths: a double colon cancels the name in
  front of it. The first argument is the name read so far.
-/
def dropPaths
    (name : List Char) : List Char → List Char
  | [] => name
  | ':' :: ':' :: rest => dropPaths [] rest
  | c :: rest =>
      if isDelimiter c then name ++ c :: dropPaths [] rest
      else dropPaths (name ++ [c]) rest

/- The opening of the wrapper. -/
def optionOpening : List Char :=
  ['O', 'p', 't', 'i', 'o', 'n', '<']

/- What stands inside an outer `Option` wrapper. -/
def insideOption?
    (cs : List Char) : Option (List Char) :=
  if optionOpening.isPrefixOf cs then
    let inner := cs.drop optionOpening.length
    if inner.getLast? = some '>' then some inner.dropLast else none
  else none

/- Drop outer wrappers, at most as many as the bound says. -/
def dropOptionsUpTo : Nat → List Char → List Char
  | 0, cs => cs
  | n + 1, cs =>
      match insideOption? cs with
      | some inner => dropOptionsUpTo n inner
      | none => cs

/- Drop all outer wrappers; each one shortens the text. -/
def dropOptions
    (cs : List Char) : List Char :=
  dropOptionsUpTo cs.length cs

/- The normal form of a declared type. -/
def normalize
    (declared : String) : String :=
  let visible := declared.toList.filter fun c => !Text.isBlank c
  String.ofList (dropOptions (dropPaths [] visible))

end TypeSpelling

end EntitySql
