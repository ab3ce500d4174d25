import EntitySql.Proofs.Hydrate.Run
import EntitySql.Proofs.Hydrate.Slices

/-
  Nested hydration by its meaning: every row is read on its own
  from all rows of the result, and nothing is kept in between.

  Key definitions include:
    * `Section`, `Section.instanceOf`
    * `RowReading`, `RowReading.assemble`
    * `hydrateReference`

  Key theorems include:
    * `RowReading.assemble_concat`

  The instance of a key is the one of the first row that shows
  the key. A root is what wiring makes of its instance, over
  the rows of its key in order.
-/

namespace EntitySql

------------------------------------------------------------
-- Sections of rows
------------------------------------------------------------

/- The columns of one entity type in the rows of a join. -/
structure Section where
  type : EntityType
  identity : Nat
  offset : Nat

namespace Section

/- The values of a row in the section. -/
def slice
    (s : Section)
    (row : List Value) : List Value :=
  (row.drop s.offset).take s.type.width

/- The row has a value in the section other than NULL. -/
def present
    (s : Section)
    (row : List Value) : Bool :=
  !(s.slice row).all Value.isNull

/- The identity key of a row in the section. -/
def key
    (s : Section)
    (row : List Value) : IdentityKey :=
  IdentityCache.keyAt s.identity (s.slice row)

/- The row has an entity with this key in the section. -/
def shows
    (s : Section)
    (key : IdentityKey)
    (row : List Value) : Bool :=
  s.present row && s.key row == key

/- The first row with the key of a row, among some rows. -/
def first
    (s : Section)
    (rows : List (List Value))
    (row : List Value) : List Value :=
  (rows.find? (s.shows (s.key row))).getD row

/-
  The instance of a row, converted from the first row with its
  key. A section of NULLs has none.
-/
def instanceOf
    (s : Section)
    (rows : List (List Value))
    (row : List Value) : Except MappingError (Option Record) :=
  if s.present row then
    (Record.ofValues s.type (s.slice (s.first rows row))).map some
  else .ok none

end Section

/- The sections of some types from a column on. -/
def EntityType.sections
    (offset : Nat) :
    List EntityType → Except MappingError (List Section)
  | [] => .ok []
  | e :: es => do
      let i ← e.identityPosition
      let rest ← sections (offset + e.width) es
      .ok (⟨e, i, offset⟩ :: rest)

/- The columns of the identities of some types. -/
def EntityType.identityColumns
    (offset : Nat) : List EntityType → List Nat
  | [] => []
  | e :: es =>
      (e.identityIndex?.map fun i => offset + i).toList ++
        identityColumns (offset + e.width) es

------------------------------------------------------------
-- Readings of rows
------------------------------------------------------------

/- A row that has a root, with the instances that it names. -/
structure RowReading where
  key : IdentityKey
  root : Record
  children : List (Option Record)

namespace RowReading

variable {ρ : Type}

/-
  Read a row. Nothing but its width matters if it has no root.
-/
def ofRow
    (expected : Nat)
    (root : Section)
    (slots : List Section)
    (rows : List (List Value))
    (row : List Value) :
    Except MappingError (Option RowReading) :=
  if row.length ≠ expected then
    .error (.widthMismatch expected row.length)
  else do
    match ← root.instanceOf rows row with
    | none => .ok none
    | some r =>
        let children ← slots.mapM fun s => s.instanceOf rows row
        .ok (some ⟨root.key row, r, children⟩)

/- Call the slots of the children that the row has, in order. -/
def wire
    (slots : List (Slot ρ))
    (reading : RowReading)
    (x : ρ) : ρ :=
  (slots.zip reading.children).foldl
    (fun x (slot, child) =>
      match child with
      | some r => slot.wire x r
      | none => x) x

/- The readings of one root. -/
def ofKey
    (readings : List RowReading)
    (key : IdentityKey) : List RowReading :=
  readings.filter fun reading => reading.key == key

/- A root: its first instance, wired row by row. -/
def rootOf?
    (make : Record → ρ)
    (slots : List (Slot ρ))
    (readings : List RowReading)
    (key : IdentityKey) : Option ρ :=
  (ofKey readings key).head?.map fun first =>
    (ofKey readings key).foldl (fun x reading => reading.wire slots x)
      (make first.root)

/- The keys of the roots in order of first appearance. -/
def keys
    (readings : List RowReading) : List IdentityKey :=
  (readings.map key).eraseDups

/- The roots in order of first appearance. -/
def assemble
    (make : Record → ρ)
    (slots : List (Slot ρ))
    (readings : List RowReading) : List ρ :=
  (keys readings).filterMap (rootOf? make slots readings)

end RowReading

/-
  What nested hydration means, with no state between rows. All
  types need an identity, and the columns have to be as many as
  theirs. Then rows are read in order, up to the first error.
-/
def hydrateReference
    {ρ : Type}
    (root : EntityType)
    (make : Record → ρ)
    (slots : List (Slot ρ))
    (set : ResultSet) : Except MappingError (List ρ) := do
  let i ← root.identityPosition
  let sections ← EntityType.sections root.width (slots.map Slot.type)
  let expected := Nesting.expectedWidth root slots
  if set.columns.length ≠ expected then
    .error (.widthMismatch expected set.columns.length)
  else
    let top : Section := ⟨root, i, 0⟩
    let kept := set.rows.filter top.present
    let readings ←
      set.rows.mapM (RowReading.ofRow expected top sections kept)
    .ok (RowReading.assemble make slots (readings.filterMap id))

------------------------------------------------------------
-- Assembled roots
------------------------------------------------------------

namespace RowReading

variable {ρ : Type}
variable {make : Record → ρ}
variable {slots : List (Slot ρ)}

/- A noted key is there, and so are those from before. -/
theorem mem_note
    {found : List IdentityKey}
    {key k : IdentityKey} :
    k ∈ note found key ↔ k ∈ found ∨ k = key := by
  unfold note
  split
  · rename_i hMem
    exact (or_iff_left_of_imp fun hSame => hSame ▸ hMem).symm
  · rw [List.mem_append, List.mem_singleton]

theorem keys_concat
    (readings : List RowReading)
    (reading : RowReading) :
    keys (readings ++ [reading]) =
      note (keys readings) reading.key := by
  rw [keys, List.map_append]
  exact eraseDups_concat _ _

theorem mem_keys_iff
    {readings : List RowReading}
    {key : IdentityKey} :
    key ∈ keys readings ↔ ofKey readings key ≠ [] := by
  simp [keys, ofKey, List.mem_eraseDups]

/- Rows of other roots leave a root alone. -/
theorem rootOf?_concat_of_ne
    {readings : List RowReading}
    {reading : RowReading}
    {key : IdentityKey}
    (hOther : reading.key ≠ key) :
    rootOf? make slots (readings ++ [reading]) key =
      rootOf? make slots readings key := by
  have hSame :
      ofKey (readings ++ [reading]) key = ofKey readings key := by
    simp [ofKey, hOther]
  rw [rootOf?, rootOf?, hSame]

/- One more row of a root is wired last. -/
theorem rootOf?_concat_of_mem
    {readings : List RowReading}
    {reading : RowReading}
    (hMem : reading.key ∈ keys readings) :
    rootOf? make slots (readings ++ [reading]) reading.key =
      (rootOf? make slots readings reading.key).map
        (reading.wire slots) := by
  have hMore :
      ofKey (readings ++ [reading]) reading.key =
        ofKey readings reading.key ++ [reading] := by
    simp [ofKey]
  rw [mem_keys_iff] at hMem
  rw [rootOf?, rootOf?, hMore, Option.map_map]
  rcases List.exists_cons_of_ne_nil hMem with ⟨first, others, hFirst⟩
  rw [hFirst]
  simp

/- The first row of a root makes it. -/
theorem rootOf?_concat_of_notMem
    {readings : List RowReading}
    {reading : RowReading}
    (hNew : reading.key ∉ keys readings) :
    rootOf? make slots (readings ++ [reading]) reading.key =
      some (reading.wire slots (make reading.root)) := by
  rw [mem_keys_iff, not_not] at hNew
  have hOnly :
      ofKey (readings ++ [reading]) reading.key = [reading] := by
    have hNone : readings.filter (fun r => r.key == reading.key) = [] :=
      hNew
    simp [ofKey, hNone]
  rw [rootOf?, hOnly]
  rfl

/- Every key has its root. -/
theorem map_some_assemble
    (readings : List RowReading) :
    (assemble make slots readings).map some =
      (keys readings).map (rootOf? make slots readings) := by
  have hRoots :
      ∀ key ∈ keys readings,
        (rootOf? make slots readings key).isSome := by
    intro key hMem
    rw [mem_keys_iff] at hMem
    rcases List.exists_cons_of_ne_nil hMem with ⟨first, others, hFirst⟩
    rw [rootOf?, hFirst]
    rfl
  unfold assemble
  generalize keys readings = found at hRoots ⊢
  induction found with
  | nil => rfl
  | cons key rest ih =>
      rw [List.forall_mem_cons] at hRoots
      rcases Option.isSome_iff_exists.mp hRoots.1 with ⟨x, hRoot⟩
      rw [List.filterMap_cons_some hRoot, List.map_cons, List.map_cons,
        hRoot, ih hRoots.2]

theorem length_assemble
    (readings : List RowReading) :
    (assemble make slots readings).length =
      (keys readings).length := by
  simpa using congrArg List.length (map_some_assemble readings)

/- Changing an element changes what it is mapped to. -/
theorem map_modify
    {α β : Type}
    {f : α → α}
    {g : α → β}
    {h : β → β}
    (hCommute : ∀ x, g (f x) = h (g x))
    (xs : List α)
    (i : Nat) :
    (xs.modify i f).map g = (xs.map g).modify i h := by
  apply List.ext_getElem?
  intro n
  simp only [List.getElem?_map, List.getElem?_modify]
  cases xs[n]? with
  | none => rfl
  | some x =>
      by_cases hHere : i = n
      · simp [hHere, hCommute]
      · simp [hHere]

/- Of different keys, one is changed by its position. -/
theorem modify_idxOf_map
    {β : Type}
    {found : List IdentityKey}
    (hNodup : found.Nodup)
    (f : IdentityKey → β)
    (g : β → β)
    (key : IdentityKey) :
    (found.map f).modify (found.idxOf key) g =
      found.map fun k => if k = key then g (f k) else f k := by
  induction found with
  | nil => rfl
  | cons k found ih =>
      rw [List.nodup_cons] at hNodup
      by_cases hKey : k = key
      · subst hKey
        have hOthers :
            found.map f =
              found.map fun j => if j = k then g (f j) else f j := by
          apply List.map_congr_left
          intro j hMem
          rw [if_neg (ne_of_mem_of_not_mem hMem hNodup.1)]
        rw [List.idxOf_cons_self, List.map_cons,
          List.modify_zero_cons, List.map_cons, if_pos rfl, ← hOthers]
      · rw [List.idxOf_cons_ne _ hKey, List.map_cons,
          List.modify_succ_cons, ih hNodup.2, List.map_cons,
          if_neg hKey]

/-
  One more row is wired to its root. The root is made first if
  the row is the first one of it.
-/
theorem assemble_concat
    (readings : List RowReading)
    (reading : RowReading) :
    assemble make slots (readings ++ [reading]) =
      (if reading.key ∈ keys readings then
          assemble make slots readings
        else
          assemble make slots readings ++ [make reading.root]).modify
        ((keys (readings ++ [reading])).idxOf reading.key)
        (reading.wire slots) := by
  let before (key : IdentityKey) : Option ρ :=
    if key ∈ keys readings then rootOf? make slots readings key
    else some (make reading.root)
  have hBefore :
      (if reading.key ∈ keys readings then
          assemble make slots readings
        else
          assemble make slots readings ++
            [make reading.root]).map some =
        (keys (readings ++ [reading])).map before := by
    have hOld :
        (keys readings).map before =
          (assemble make slots readings).map some := by
      rw [map_some_assemble]
      exact List.map_congr_left fun key hMem => if_pos hMem
    rw [keys_concat, note]
    split
    · exact hOld.symm
    · rename_i hNew
      rw [List.map_append, List.map_append, hOld, List.map_singleton,
        List.map_singleton]
      simp only [before, if_neg hNew]
  have hAfter :
      ∀ key ∈ keys (readings ++ [reading]),
        rootOf? make slots (readings ++ [reading]) key =
          if key = reading.key then
            (before key).map (reading.wire slots)
          else before key := by
    intro key hMem
    by_cases hKey : key = reading.key
    · rw [if_pos hKey, hKey]
      by_cases hOld : reading.key ∈ keys readings
      · simp only [before, if_pos hOld, rootOf?_concat_of_mem hOld]
      · simp only [before, if_neg hOld, rootOf?_concat_of_notMem hOld,
          Option.map_some]
    · rw [if_neg hKey, rootOf?_concat_of_ne (Ne.symm hKey)]
      rw [keys_concat, mem_note, or_iff_left hKey] at hMem
      exact (if_pos hMem).symm
  apply List.map_injective_iff.mpr (Option.some_injective ρ)
  have hSome (x : ρ) :
      some (reading.wire slots x) =
        (some x).map (reading.wire slots) :=
    rfl
  have hNodup : (keys (readings ++ [reading])).Nodup :=
    nodup_eraseDups _
  rw [map_some_assemble, map_modify hSome, hBefore,
    modify_idxOf_map hNodup]
  exact List.map_congr_left hAfter

end RowReading

end EntitySql
