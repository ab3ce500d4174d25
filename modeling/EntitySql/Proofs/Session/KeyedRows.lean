import EntitySql.Proofs.Session.JoinedRows

/-
  Joined rows whose roots are in a table with a key. The key
  of the database, the values of the root and what hydration
  takes for one root tell the same rows apart.

  Key definitions include:
    * `KeyedTable`
    * `KeyedRows`

  Key theorems include:
    * `KeyedRows.allNull_rootValues_iff`
    * `KeyedRows.compareAt_eq_iff`
    * `KeyedRows.tellsApart`
-/

namespace EntitySql

open Std (OrientedCmp TransCmp)

------------------------------------------------------------
-- Tables with a key
------------------------------------------------------------

/- NULL ties with nothing but itself. -/
def Collation.NullApart
    (κ : Collation) : Prop :=
  ∀ column v, κ.compare column v .null = .eq → v = .null

/-
  A table whose rows can be read, and where an identity column
  is a key: it has no NULL, and its values are all different.
  Keys that look the same to hydration are the same.
-/
structure KeyedTable
    (κ : Collation)
    (e : EntityType)
    (column : String)
    (stored : List StoredRow) : Prop where
  not_null : ∀ s ∈ stored, s column ≠ .null
  different :
    stored.Pairwise fun s t =>
      κ.compare (.ofRoot column) (s column) (t column) ≠ .eq
  same :
    ∀ s ∈ stored, ∀ t ∈ stored,
      (s column).identityKey = (t column).identityKey ∨
          (s column).equal (t column) = true →
        κ.compare (.ofRoot column) (s column) (t column) = .eq
  readable :
    ∀ s ∈ stored, ∃ r, Record.ofValues e (e.columns.map s) = .ok r

/- Joined rows with their roots from a table with a key. -/
structure KeyedRows
    (κ : Collation)
    (e : EntityType)
    (i : Nat)
    (column : String)
    (stored : List StoredRow)
    (rows : List SelectRow) : Prop where
  nulls : κ.NullApart
  identity : e.identityIndex? = some i
  column_eq : e.columns.getD i "" = column
  table : KeyedTable κ e column stored
  roots : ∀ r ∈ rows, r.RootIn stored ∨ r.Rootless

/- Stored rows with one key are one row. -/
theorem KeyedTable.eq_of_compare
    {κ : Collation}
    {e : EntityType}
    {column : String}
    {stored : List StoredRow}
    {a b : StoredRow}
    (hTable : KeyedTable κ e column stored)
    (ha : a ∈ stored)
    (hb : b ∈ stored)
    (hSame : κ.compare (.ofRoot column) (a column) (b column) = .eq) :
    a = b := by
  have hOriented :
      OrientedCmp fun s t : StoredRow =>
        κ.compare (.ofRoot column) (s column) (t column) :=
    ⟨(κ.lawful (.ofRoot column)).eq_swap⟩
  exact eq_of_pairwise_of_tie hTable.different ha hb hSame

namespace KeyedRows

variable {κ : Collation}
variable {e : EntityType}
variable {i : Nat}
variable {column : String}
variable {stored : List StoredRow}
variable {rows : List SelectRow}
variable {r s : SelectRow}

/- Some of the rows are rows of the same kind. -/
theorem subset
    {chosen : List SelectRow}
    (hRows : KeyedRows κ e i column stored rows)
    (hChosen : ∀ r ∈ chosen, r ∈ rows) :
    KeyedRows κ e i column stored chosen :=
  { hRows with roots := fun r hr => hRows.roots r (hChosen r hr) }

/- The key of a root among its values. -/
theorem getElem?_rootValues
    (hRows : KeyedRows κ e i column stored rows)
    (r : SelectRow) :
    (r.rootValues e)[i]? = some (r (.ofRoot column)) := by
  have hBound : i < e.columns.length := by
    rw [EntityType.columns, List.length_map]
    exact (List.findIdx?_eq_some_iff_findIdx_eq.mp hRows.identity).1
  rw [← hRows.column_eq, SelectRow.rootValues, List.getElem?_map,
    List.getD_eq_getElem?_getD, List.getElem?_eq_getElem hBound]
  rfl

/- A row has no root if and only if its key is NULL. -/
theorem rootless_iff
    (hRows : KeyedRows κ e i column stored rows)
    (hr : r ∈ rows) :
    r.Rootless ↔ r (.ofRoot column) = .null := by
  constructor
  · intro hRootless
    exact hRootless column
  · intro hKey
    rcases hRows.roots r hr with ⟨a, ha, hSame⟩ | hRootless
    · rw [hSame] at hKey
      exact absurd hKey (hRows.table.not_null a ha)
    · exact hRootless

/- What hydration takes for no root is none. -/
theorem allNull_rootValues_iff
    (hRows : KeyedRows κ e i column stored rows)
    (hr : r ∈ rows) :
    AllNull (r.rootValues e) ↔ r.Rootless := by
  unfold AllNull
  constructor
  · intro hAll
    rw [List.all_eq_true] at hAll
    rw [hRows.rootless_iff hr, ← Value.isNull_eq_true_iff]
    exact hAll _ (List.mem_of_getElem? (hRows.getElem?_rootValues r))
  · intro hRootless
    rw [List.all_eq_true]
    intro v hMem
    rcases List.mem_map.mp hMem with ⟨c, _, rfl⟩
    rw [hRootless c]
    rfl

/- Joined rows whose keys tie have the same root, or none. -/
theorem root_eq_of_compareAt
    (hRows : KeyedRows κ e i column stored rows)
    (hr : r ∈ rows)
    (hs : s ∈ rows)
    (hKey : κ.compareAt (.ofRoot column) r s = .eq)
    (c : String) :
    r (.ofRoot c) = s (.ofRoot c) := by
  have hBack : κ.compareAt (.ofRoot column) s r = .eq :=
    OrientedCmp.eq_symm hKey
  unfold Collation.compareAt at hKey hBack
  rcases hRows.roots r hr with ⟨a, ha, hSame⟩ | hRootless
  · rcases hRows.roots s hs with ⟨b, hb, hSame'⟩ | hRootless'
    · rw [hSame, hSame'] at hKey
      rw [hSame, hSame', hRows.table.eq_of_compare ha hb hKey]
    · rw [hSame, hRootless'] at hKey
      exact absurd (hRows.nulls _ _ hKey)
        (hRows.table.not_null a ha)
  · rcases hRows.roots s hs with ⟨b, hb, hSame'⟩ | hRootless'
    · rw [hSame', hRootless] at hBack
      exact absurd (hRows.nulls _ _ hBack)
        (hRows.table.not_null b hb)
    · rw [hRootless, hRootless']

/- Keys tie where the values of the roots are the same. -/
theorem compareAt_eq_iff
    (hRows : KeyedRows κ e i column stored rows)
    (hr : r ∈ rows)
    (hs : s ∈ rows) :
    κ.compareAt (.ofRoot column) r s = .eq ↔
      r.rootValues e = s.rootValues e := by
  constructor
  · intro hKey
    apply List.map_congr_left
    intro c _
    exact hRows.root_eq_of_compareAt hr hs hKey c
  · intro hSame
    have hKey :=
      congrArg (fun values : List Value => values[i]?) hSame
    simp only [hRows.getElem?_rootValues, Option.some.injEq] at hKey
    exact Collation.compareAt_of_eq hKey

/- Hydration tells the roots apart as their keys do. -/
theorem tellsApart
    (hRows : KeyedRows κ e i column stored rows) :
    IdentityCache.TellsApart i
      (rows.map (SelectRow.rootValues e)) := by
  intro a ha b hb hPresent hPresent' hSame
  rcases List.mem_map.mp ha with ⟨r, hr, rfl⟩
  rcases List.mem_map.mp hb with ⟨s, hs, rfl⟩
  rw [hRows.allNull_rootValues_iff hr] at hPresent
  rw [hRows.allNull_rootValues_iff hs] at hPresent'
  rcases (hRows.roots r hr).resolve_right hPresent with
    ⟨a, ha, hRoot⟩
  rcases (hRows.roots s hs).resolve_right hPresent' with
    ⟨b, hb, hRoot'⟩
  rw [← hRows.compareAt_eq_iff hr hs, Collation.compareAt, hRoot,
    hRoot']
  apply hRows.table.same a ha b hb
  rw [← hRoot, ← hRoot']
  rcases hSame with hKey | hValues
  · unfold IdentityCache.keyAt at hKey
    simp only [hRows.getElem?_rootValues] at hKey
    exact .inl hKey
  · rw [IdentityCache.sameValues_iff, List.forall₂_iff_get] at hValues
    have hPlace {r : SelectRow} (hBound : i < (r.rootValues e).length) :
        (r.rootValues e).get ⟨i, hBound⟩ = r (.ofRoot column) := by
      have hKey := hRows.getElem?_rootValues r
      rw [List.getElem?_eq_getElem hBound, Option.some.injEq] at hKey
      exact hKey
    have hBound {r : SelectRow} : i < (r.rootValues e).length :=
      (List.getElem?_eq_some_iff.mp (hRows.getElem?_rootValues r)).1
    have hEqual := hValues.2 i hBound hBound
    rw [hPlace, hPlace] at hEqual
    exact .inr hEqual

/- Every row has a root that can be read, or none. -/
theorem readable
    (hRows : KeyedRows κ e i column stored rows)
    (hr : r ∈ rows) :
    AllNull (r.rootValues e) ∨
      ∃ record, Record.ofValues e (r.rootValues e) = .ok record := by
  rw [hRows.allNull_rootValues_iff hr]
  rcases hRows.roots r hr with ⟨a, ha, hSame⟩ | hRootless
  · right
    unfold SelectRow.rootValues
    simp only [hSame]
    exact hRows.table.readable a ha
  · exact .inl hRootless

end KeyedRows

end EntitySql
