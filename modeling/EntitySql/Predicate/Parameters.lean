import EntitySql.Value.Basic

/-
  This file defines the named parameters of a statement and
  how names are given to values.

  Key definitions include:
    * `Parameter`, `ParameterSet`
    * `ParameterSet.extends`
    * `ParameterSet.bind`
    * `ParameterSet.bindList`

  A set is carried from one clause of a statement to the next,
  so that no clause takes a name that stands for another value.
-/

namespace EntitySql

/- A named value of a statement. -/
structure Parameter where
  name : String
  value : Value
  deriving DecidableEq, Repr

/- Parameters in the order in which they were bound. -/
structure ParameterSet where
  params : List Parameter := []
  deriving DecidableEq, Repr

namespace ParameterSet

def empty : ParameterSet :=
  {}

def contains
    (s : ParameterSet)
    (name : String) : Bool :=
  s.params.any fun p => p.name == name

/- The value bound under a name. -/
def get?
    (s : ParameterSet)
    (name : String) : Option Value :=
  (s.params.find? fun p => p.name == name).map Parameter.value

def size
    (s : ParameterSet) : Nat :=
  s.params.length

def isEmpty
    (s : ParameterSet) : Bool :=
  s.params.isEmpty

/- Add a parameter at the end. -/
def push
    (s : ParameterSet)
    (p : Parameter) : ParameterSet :=
  ⟨s.params ++ [p]⟩

------------------------------------------------------------
-- Free names
------------------------------------------------------------

/-
  The first free name among `candidate n`, `candidate (n + 1)`
  and so on, as its number. Among one more candidate than
  there are parameters some candidate is free, so the bound of
  the search is the size of the set.
-/
def firstFree
    (s : ParameterSet)
    (candidate : Nat → String)
    (n : Nat) : Nat :=
  search s.size n
where
  search : Nat → Nat → Nat
    | 0, n => n
    | fuel + 1, n =>
        if s.contains (candidate n) then search fuel (n + 1) else n

------------------------------------------------------------
-- Binding one value
------------------------------------------------------------

/- A name is a base followed by decimal digits, maybe none. -/
def extendsName
    (name base : String) : Bool :=
  base.toList.isPrefixOf name.toList &&
    (name.toList.drop base.toList.length).all Char.isDigit

/- The names that a base offers: itself, then numbered from 2. -/
def numbered
    (base : String)
    (n : Nat) : String :=
  if n ≤ 1 then base else base ++ toString n

/-
  Bind a value under a base name, and give the name it has. An
  equal value that was bound under this base keeps its name;
  any other value takes the first free one.
-/
def bind
    (s : ParameterSet)
    (base : String)
    (v : Value) : String × ParameterSet :=
  match s.params.find? fun p =>
      p.value.equal v && extendsName p.name base with
  | some p => (p.name, s)
  | none =>
      let name := numbered base (s.firstFree (numbered base) 1)
      (name, s.push ⟨name, v⟩)

------------------------------------------------------------
-- Binding a list
------------------------------------------------------------

/- The name of an element of a membership list. -/
def memberName
    (base : String)
    (n : Nat) : String :=
  base ++ "_InParam_" ++ toString n

/-
  Bind every value of a list, numbered from `n` on and past
  the names that are taken.
-/
def bindFrom
    (s : ParameterSet)
    (base : String) : Nat → List Value → List Parameter × ParameterSet
  | _, [] => ([], s)
  | n, v :: vs =>
      let free := s.firstFree (memberName base) n
      let p : Parameter := ⟨memberName base free, v⟩
      let (bound, s) := bindFrom (s.push p) base (free + 1) vs
      (p :: bound, s)

/- Bind every value of a list under names of its own. -/
def bindList
    (s : ParameterSet)
    (base : String)
    (vs : List Value) : List Parameter × ParameterSet :=
  s.bindFrom base 1 vs

end ParameterSet

end EntitySql
