import EntitySql.Dialect.Basic
import EntitySql.Session.Error
import EntitySql.Text.Json

/-
  This file defines the settings of a session and their JSON
  form.

  Key definitions include:
    * `Isolation`
    * `Config`, `Config.validate`, `Config.naming`
    * `Config.json`
    * `Setting`, `Config.read?`
    * `Config.ofJson`

  A document is an object with some of the settings, or an
  array of the first few in their fixed order. A setting that
  is missing has its default.
-/

namespace EntitySql

------------------------------------------------------------
-- Isolation
------------------------------------------------------------

/- How far a transaction is kept apart from others. -/
inductive Isolation where
  | readUncommitted
  | readCommitted
  | repeatableRead
  | serializable
  | snapshot
  deriving DecidableEq, Repr

namespace Isolation

def text : Isolation → String
  | .readUncommitted => "read uncommitted"
  | .readCommitted => "read committed"
  | .repeatableRead => "repeatable read"
  | .serializable => "serializable"
  | .snapshot => "snapshot"

/- The name of a level in documents. -/
def settingName : Isolation → String
  | .readUncommitted => "read_uncommitted"
  | .readCommitted => "read_committed"
  | .repeatableRead => "repeatable_read"
  | .serializable => "serializable"
  | .snapshot => "snapshot"

def all : List Isolation :=
  [ .readUncommitted, .readCommitted, .repeatableRead,
    .serializable, .snapshot ]

def ofSettingName?
    (name : String) : Option Isolation :=
  all.find? fun i => i.settingName == name

end Isolation

/- The dialect that a document names; two have further names. -/
def Dialect.ofSettingName?
    (name : String) : Option Dialect :=
  [ ("sqlite", Dialect.sqlite), ("postgres", .postgres),
    ("postgresql", .postgres), ("pg", .postgres),
    ("sqlserver", .sqlServer), ("mssql", .sqlServer) ].lookup name

------------------------------------------------------------
-- Settings
------------------------------------------------------------

structure Config where
  dialect : Dialect := .sqlite
  tablePrefix : Option String := none
  defaultSchema : Option String := none
  isolation : Isolation := .serializable
  deriving DecidableEq, Repr

namespace Config

/- The settings when nothing is set. -/
def standard : Config :=
  {}

/- Names that are given must not be blank. -/
def validate
    (c : Config) : Except SessionError Unit :=
  if c.tablePrefix.any Text.isBlankText then
    .error (.config (.blankName "table_prefix"))
  else if c.defaultSchema.any Text.isBlankText then
    .error (.config (.blankName "default_schema"))
  else .ok ()

def naming
    (c : Config) : TableNaming :=
  ⟨c.tablePrefix, c.defaultSchema⟩

------------------------------------------------------------
-- Writing
------------------------------------------------------------

/- An optional name: a string or `null`. -/
def writeName : Option String → List Char
  | some s => Json.writeString s
  | none => "null".toList

/- The settings as a JSON object, in their fixed order. -/
def json
    (c : Config) : String :=
  let entry (key : String) (value : List Char) : List Char :=
    Json.writeString key ++ [':'] ++ value
  String.ofList
    (['\x7b'] ++ entry "dialect" (Json.writeString c.dialect.name) ++
      [','] ++ entry "table_prefix" (writeName c.tablePrefix) ++
      [','] ++ entry "default_schema" (writeName c.defaultSchema) ++
      [','] ++
      entry "isolation" (Json.writeString c.isolation.settingName) ++
      ['\x7d'])

end Config

------------------------------------------------------------
-- Reading one setting
------------------------------------------------------------

/- One setting of a document. -/
inductive Setting where
  | dialect (d : Dialect)
  | tablePrefix (name : Option String)
  | defaultSchema (name : Option String)
  | isolation (i : Isolation)
  deriving DecidableEq, Repr

namespace Setting

/- The keys of the settings in their fixed order. -/
def keys : List String :=
  ["dialect", "table_prefix", "default_schema", "isolation"]

/- Put a setting in place of the default. -/
def apply
    (c : Config) : Setting → Config
  | .dialect d => { c with dialect := d }
  | .tablePrefix name => { c with tablePrefix := name }
  | .defaultSchema name => { c with defaultSchema := name }
  | .isolation i => { c with isolation := i }

/- A string or `null`. -/
def readName?
    (cs : List Char) : Option (Option String × List Char) :=
  match Json.readNull? cs with
  | some rest => some (none, rest)
  | none => do
      let (s, rest) ← Json.readString? (Json.skipBlanks cs)
      some (some s, rest)

/- A string, or an object with that key and the value `null`. -/
def readChoice?
    (cs : List Char) : Option (String × List Char) :=
  match Json.skipBlanks cs with
  | '\x7b' :: rest => do
      let (s, rest) ← Json.readString? (Json.skipBlanks rest)
      let rest ← Json.readMark? ':' rest
      let rest ← Json.readNull? rest
      let rest ← Json.readMark? '\x7d' rest
      some (s, rest)
  | rest => Json.readString? rest

/- The setting of a key; other keys do not exist. -/
def read?
    (key : String)
    (cs : List Char) : Option (Setting × List Char) :=
  if key = "dialect" then do
    let (s, rest) ← readChoice? cs
    some (.dialect (← Dialect.ofSettingName? s), rest)
  else if key = "table_prefix" then do
    let (name, rest) ← readName? cs
    some (.tablePrefix name, rest)
  else if key = "default_schema" then do
    let (name, rest) ← readName? cs
    some (.defaultSchema name, rest)
  else if key = "isolation" then do
    let (s, rest) ← readChoice? cs
    some (.isolation (← Isolation.ofSettingName? s), rest)
  else none

end Setting

------------------------------------------------------------
-- Reading documents
------------------------------------------------------------

namespace Config

/-
  The entries of an object up to its closing brace. The list
  holds the keys that may still come, so no key comes twice
  and the list bounds the number of entries.
-/
def readEntries? :
    Nat → List String → Config → List Char →
      Option (Config × List Char)
  | 0, _, _, _ => none
  | n + 1, keys, c, cs => do
      let (key, rest) ← Json.readString? (Json.skipBlanks cs)
      if keys.contains key then
        let rest ← Json.readMark? ':' rest
        let (setting, rest) ← Setting.read? key rest
        let c := setting.apply c
        match Json.skipBlanks rest with
        | ',' :: rest => readEntries? n (keys.erase key) c rest
        | '\x7d' :: rest => some (c, rest)
        | _ => none
      else none

/- The elements of an array up to its closing bracket. -/
def readElements? :
    List String → Config → List Char → Option (Config × List Char)
  | [], _, _ => none
  | key :: keys, c, cs => do
      let (setting, rest) ← Setting.read? key cs
      let c := setting.apply c
      match Json.skipBlanks rest with
      | ',' :: rest => readElements? keys c rest
      | ']' :: rest => some (c, rest)
      | _ => none

/- A document, up to its end. -/
def readValue?
    (cs : List Char) : Option (Config × List Char) :=
  match Json.skipBlanks cs with
  | '\x7b' :: rest =>
      match Json.skipBlanks rest with
      | '\x7d' :: rest => some (standard, rest)
      | rest => readEntries? Setting.keys.length Setting.keys
            standard rest
  | '[' :: rest =>
      match Json.skipBlanks rest with
      | ']' :: rest => some (standard, rest)
      | rest => readElements? Setting.keys standard rest
  | _ => none

/- The settings of a document, before any check of the names. -/
def read?
    (text : String) : Option Config := do
  let (c, rest) ← readValue? text.toList
  if (Json.skipBlanks rest).isEmpty then some c else none

/- The settings of a document, if they can be used. -/
def ofJson
    (text : String) : Except SessionError Config :=
  match read? text with
  | none => .error .malformedConfig
  | some c => do
      c.validate
      .ok c

end Config

end EntitySql
