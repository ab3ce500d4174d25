import EntitySql.Proofs.Hydrate.Cache

/-
  Flat hydration of a row that lists every column of an entity
  type once.

  Key theorems include:
    * `EntityType.position?_getElem`
    * `EntityType.zip_position?_columns`
    * `hydrateFlat_row`

  Columns with different names are matched to the properties
  that they are the columns of.
-/

namespace EntitySql

/- Different columns are found where they are. -/
theorem EntityType.position?_getElem
    {e : EntityType}
    (hColumns : e.columns.Nodup)
    {i : Nat}
    (hBound : i < e.columns.length) :
    e.position? e.columns[i] = some i := by
  have hWidth : e.columns.length = e.width := by
    simp [columns, width]
  have hReversed :
      e.columns.reverse.idxOf? e.columns[i] =
        some (e.width - 1 - i) := by
    rw [List.idxOf?_eq_some_iff]
    refine ⟨by rw [List.length_reverse]; omega, ?_, ?_⟩
    · rw [List.getElem_reverse]
      congr 1
      omega
    · intro j hBefore hSame
      rw [List.getElem_reverse] at hSame
      have hIndex := hColumns.getElem_inj_iff.mp hSame
      omega
  rw [position?, hReversed, Option.map_some]
  congr 1
  omega

theorem EntityType.map_position?_columns
    {e : EntityType}
    (hColumns : e.columns.Nodup) :
    e.columns.map e.position? =
      (List.range' 0 e.columns.length).map some := by
  apply List.ext_getElem
  · simp
  · intro i hBound _
    rw [List.length_map] at hBound
    simp [EntityType.position?_getElem hColumns hBound]

/- Under its columns a row is converted value by value. -/
theorem EntityType.zip_position?_columns
    {e : EntityType}
    {row : List Value}
    (hColumns : e.columns.Nodup)
    (hWidth : row.length = e.width) :
    row.zip (e.columns.map e.position?) =
      row.zipIdx.map fun cell => (cell.1, some cell.2) := by
  have hLength : e.columns.length = row.length := by
    rw [hWidth, EntityType.columns, List.length_map]
    rfl
  rw [EntityType.map_position?_columns hColumns, hLength,
    List.zipIdx_eq_zip_range']
  simp [List.zip_map_right]

/-
  A row of the values that a property reads is hydrated to the
  record of what the properties read.
-/
theorem hydrateFlat_row
    {e : EntityType}
    {row : String → Value}
    {found : List FieldValue}
    (hColumns : e.columns.Nodup)
    (hReads :
      List.Forall₂
        (fun (p : Property) field =>
          p.type.read (row p.column) = .ok field)
        e.properties found) :
    hydrateFlat e ⟨e.columns, [e.columns.map row]⟩ =
      .ok [⟨e, found⟩] := by
  let cells := (e.columns.map row).zip found
  have hLength : (e.columns.map row).length = found.length := by
    simpa [EntityType.columns] using hReads.length_eq
  have hCells :
      List.Forall₂
        (fun (p : Property) cell => p.type.read cell.1 = .ok cell.2)
        e.properties cells := by
    rw [List.forall₂_iff_get] at hReads ⊢
    refine ⟨by simp [cells, EntityType.columns, ← hReads.1], ?_⟩
    intro i hProperty hCell
    have hFound : i < found.length := hReads.1 ▸ hProperty
    simpa [cells, EntityType.columns] using
      hReads.2 i hProperty hFound
  have hFold :=
    Record.foldlM_assign []
      (e.properties.map fun p => p.type.default) rfl hCells
      (by simpa using hCells.length_eq)
  have hWidth : (e.columns.map row).length = e.width := by
    simp [EntityType.columns, EntityType.width]
  have hAssigned :
      (Record.default e).assignTargets
          ((e.columns.map row).zip (e.columns.map e.position?)) =
        .ok ⟨e, found⟩ := by
    rw [EntityType.zip_position?_columns hColumns hWidth,
      Record.assignTargets, List.foldlM_map]
    simpa [cells, Record.default, List.map_fst_zip,
      List.map_snd_zip, hLength] using hFold
  unfold hydrateFlat
  simp only [List.mapM_cons, List.mapM_nil, hAssigned]
  rfl

end EntitySql
