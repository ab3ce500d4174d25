import EntitySql.Result.ResultSet
import EntitySql.Schema.Record

/-
  This file defines how rows become entities: one per row, one
  per root of a join, or roots with their joined children.

  Key definitions include:
    * `hydrateFlat`
    * `IdentityCache`, `IdentityCache.resolve`
    * `hydrateRoots`
    * `Slot`, `hydrateNested`
-/

namespace EntitySql

/- Sums start at the zero of the core library. -/
attribute [local instance (2000)] Zero.ofOfNat0

------------------------------------------------------------
-- One entity per row
------------------------------------------------------------

/- Assign values to the positions that they are meant for. -/
def Record.assignTargets
    (r : Record)
    (cells : List (Value × Option Nat)) : Except MappingError Record :=
  cells.foldlM
    (fun r (v, target) =>
      match target with
      | some i => r.assign i v
      | none => .ok r) r

/-
  Every row as an entity. Columns and properties are matched
  by name, and columns without a property are ignored.
-/
def hydrateFlat
    (e : EntityType)
    (set : ResultSet) : Except MappingError (List Record) :=
  let targets := set.columns.map e.position?
  set.rows.mapM fun row =>
    (Record.default e).assignTargets (row.zip targets)

------------------------------------------------------------
-- Identity caches
------------------------------------------------------------

/-
  The instances of one entity type that the rows of a result
  have named so far, by identity key. The slice seen last is
  kept with its answer.
-/
structure IdentityCache (ι : Type) where
  type : EntityType
  keyPosition : Nat
  previous : Option (List Value × Option Nat)
  instances : List ι
  positions : List (IdentityKey × Nat)

namespace IdentityCache

variable {ι : Type}

/- A cache without instances; the type needs an identity. -/
def start
    (e : EntityType) : Except MappingError (IdentityCache ι) := do
  let i ← e.identityPosition
  .ok
    { type := e
      keyPosition := i
      previous := none
      instances := []
      positions := [] }

/- Two slices hold equal values. -/
def sameValues : List Value → List Value → Bool
  | [], [] => true
  | a :: as, b :: bs => a.equal b && sameValues as bs
  | _, _ => false

/- The identity key of a slice. -/
def keyOf
    (cache : IdentityCache ι)
    (slice : Row) : IdentityKey :=
  match slice.values[cache.keyPosition]? with
  | some v => v.identityKey
  | none => .null

/- A fresh instance with the values of a slice, in order. -/
def build
    (cache : IdentityCache ι)
    (slice : Row) : Except MappingError Record :=
  slice.values.zipIdx.foldlM
    (fun r (v, i) => r.assign i v) (Record.default cache.type)

/- The position of the instance with a key. -/
def find?
    (cache : IdentityCache ι)
    (key : IdentityKey) : Option Nat :=
  cache.positions.lookup key

/- Keep a new instance under its key. -/
def add
    (cache : IdentityCache ι)
    (key : IdentityKey)
    (made : ι) : IdentityCache ι :=
  { cache with
    instances := cache.instances ++ [made]
    positions := cache.positions ++ [(key, cache.instances.length)] }

/-
  The instance that a slice stands for, found by its key or
  built. A slice of NULLs stands for none.
-/
def lookUp
    (cache : IdentityCache ι)
    (make : Record → ι)
    (slice : Row) :
    Except MappingError (Option Nat × IdentityCache ι) :=
  if slice.isAllNull then .ok (none, cache)
  else
    let key := cache.keyOf slice
    match cache.find? key with
    | some i => .ok (some i, cache)
    | none => do
        let r ← cache.build slice
        .ok (some cache.instances.length, cache.add key (make r))

/-
  The instance that a slice stands for. A slice equal to the
  one before has the same answer.
-/
def resolve
    (cache : IdentityCache ι)
    (make : Record → ι)
    (slice : Row) :
    Except MappingError (Option Nat × IdentityCache ι) :=
  let repeated :=
    match cache.previous with
    | some (values, answer) =>
        if sameValues values slice.values then some answer else none
    | none => none
  match repeated with
  | some answer => .ok (answer, cache)
  | none => do
      let (answer, cache) ← cache.lookUp make slice
      .ok
        (answer, { cache with previous := some (slice.values, answer) })

end IdentityCache

------------------------------------------------------------
-- Roots of a join
------------------------------------------------------------

/-
  The different roots of a join, read from the leading columns
  of its rows.
-/
def hydrateRoots
    (e : EntityType)
    (set : ResultSet) : Except MappingError (List Record) := do
  let cache ← IdentityCache.start e
  let cache ← set.rowViews.foldlM
    (fun (cache : IdentityCache Record) row =>
      match row.slice? 0 e.width with
      | none => .error (.widthMismatch e.width row.width)
      | some slice => do
          let (_, cache) ← cache.resolve id slice
          .ok cache) cache
  .ok cache.instances

------------------------------------------------------------
-- Roots with children
------------------------------------------------------------

/-
  A joined entity type and what is done with each child of a
  root. It is done for every row that holds the child.
-/
structure Slot (ρ : Type) where
  type : EntityType
  wire : ρ → Record → ρ

/- The state of hydration: the roots and a cache per slot. -/
structure Nesting (ρ : Type) where
  roots : IdentityCache ρ
  children : List (IdentityCache Record)

namespace Nesting

variable {ρ : Type}

/- The width of a row of the join. -/
def expectedWidth
    (root : EntityType)
    (slots : List (Slot ρ)) : Nat :=
  root.width + (slots.map fun s => s.type.width).sum

/-
  The children of a row, one per slot and none where the slot
  is empty, from a position on.
-/
def resolveChildren
    (expected : Nat)
    (row : Row) :
    Nat → List (IdentityCache Record) →
      Except MappingError
        (List (Option Nat) × List (IdentityCache Record))
  | _, [] => .ok ([], [])
  | offset, cache :: caches =>
      let stop := offset + cache.type.width
      match row.slice? offset stop with
      | none => .error (.widthMismatch expected row.width)
      | some slice => do
          let (child, cache) ← cache.resolve id slice
          let (children, caches) ←
            resolveChildren expected row stop caches
          .ok (child :: children, cache :: caches)

/- Wire the children of one row to their root, in slot order. -/
def wireChildren
    (slots : List (Slot ρ))
    (caches : List (IdentityCache Record))
    (children : List (Option Nat))
    (root : ρ) : ρ :=
  ((slots.zip caches).zip children).foldl
    (fun root ((slot, cache), child) =>
      match child.bind fun i => cache.instances[i]? with
      | some r => slot.wire root r
      | none => root) root

/- Take in one row. A row without a root is passed over. -/
def step
    (slots : List (Slot ρ))
    (make : Record → ρ)
    (expected : Nat)
    (state : Nesting ρ)
    (row : Row) : Except MappingError (Nesting ρ) :=
  if row.width ≠ expected then
    .error (.widthMismatch expected row.width)
  else
    let rootWidth := state.roots.type.width
    match row.slice? 0 rootWidth with
    | none => .error (.widthMismatch expected row.width)
    | some slice => do
        let (found, roots) ← state.roots.resolve make slice
        match found with
        | none => .ok ⟨roots, state.children⟩
        | some i =>
            let (children, caches) ←
              resolveChildren expected row rootWidth state.children
            let wired :=
              roots.instances.modify i
                (wireChildren slots caches children)
            .ok ⟨{ roots with instances := wired }, caches⟩

end Nesting

/-
  The roots of a join in order of first appearance, each with
  its children wired to it.
-/
def hydrateNested
    {ρ : Type}
    (root : EntityType)
    (make : Record → ρ)
    (slots : List (Slot ρ))
    (set : ResultSet) : Except MappingError (List ρ) := do
  let roots ← IdentityCache.start root
  let children ← slots.mapM fun s => IdentityCache.start s.type
  let expected := Nesting.expectedWidth root slots
  if set.columns.length ≠ expected then
    .error (.widthMismatch expected set.columns.length)
  else
    let state ← set.rowViews.foldlM
      (Nesting.step slots make expected) ⟨roots, children⟩
    .ok state.roots.instances

/-
  The entity types that nested hydration looks at: the root
  and the slots, up to the first type without an identity.
-/
def nestedReached
    (root : EntityType)
    (slots : List EntityType) : List EntityType :=
  if root.identityIndex?.isNone then [root]
  else
    let (complete, rest) :=
      slots.span fun e => e.identityIndex?.isSome
    root :: complete ++ rest.take 1

end EntitySql
