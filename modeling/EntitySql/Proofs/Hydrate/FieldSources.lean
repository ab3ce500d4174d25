import EntitySql.Proofs.Hydrate.Flat
import EntitySql.Proofs.Hydrate.Roots
import EntitySql.Proofs.Predicate.Binding

/-
  Where the fields of a record come from when values of a row
  are assigned to it, and what flat hydration does with rows
  that have too few values.

  Key definitions include:
    * `Record.ReadsFrom`
    * `cellFor?`, `EntityType.flatValue?`

  Key theorems include:
    * `Record.readsFrom_assignTargets`
    * `Record.exists_assignTargets_iff`
    * `Record.readsFrom_ofValues`
    * `EntityType.flatValue?_eq_none_iff`
    * `readsFrom_of_hydrateFlat`
    * `exists_hydrateFlat_iff`
-/

namespace EntitySql

------------------------------------------------------------
-- Fields and the values that they are read from
------------------------------------------------------------

/-
  The record has a field for each property. Where there is a
  value for a property, the field is what the property reads
  from it, and otherwise it is the default.
-/
structure Record.ReadsFrom
    (e : EntityType)
    (source : Nat → Option Value)
    (r : Record) : Prop where
  type_eq : r.type = e
  length_eq : r.fields.length = e.width
  fields : ∀ i p field,
    e.properties[i]? = some p → r.fields[i]? = some field →
      match source i with
      | some v => p.type.read v = .ok field
      | none => field = p.type.default

/- The value of the last cell that is meant for a position. -/
def cellFor? : List (Value × Option Nat) → Nat → Option Value
  | [], _ => none
  | (v, target) :: cells, i =>
      (cellFor? cells i).or (if target = some i then some v else none)

/- A position is served if some cell is meant for it. -/
theorem cellFor?_eq_none_iff
    {cells : List (Value × Option Nat)}
    {i : Nat} :
    cellFor? cells i = none ↔ ∀ cell ∈ cells, cell.2 ≠ some i := by
  induction cells with
  | nil => simp [cellFor?]
  | cons cell cells ih =>
      rw [cellFor?, Option.or_eq_none_iff, ih, List.forall_mem_cons,
        and_comm]
      simp

theorem mem_of_cellFor?
    {cells : List (Value × Option Nat)}
    {i : Nat}
    {v : Value}
    (hCell : cellFor? cells i = some v) :
    (v, some i) ∈ cells := by
  induction cells with
  | nil => cases hCell
  | cons cell cells ih =>
      rw [cellFor?, Option.or_eq_some_iff] at hCell
      rcases hCell with hRest | ⟨_, hHere⟩
      · exact List.mem_cons_of_mem _ (ih hRest)
      · rw [Option.ite_none_right_eq_some] at hHere
        rcases hHere with ⟨hTarget, hValue⟩
        rw [← hTarget, ← Option.some.inj hValue]
        exact List.mem_cons_self

/- Cells in the order of the positions serve them one by one. -/
theorem cellFor?_zipIdx
    (values : List Value)
    (n i : Nat) :
    cellFor? ((values.zipIdx n).map fun cell => (cell.1, some cell.2))
        (n + i) =
      values[i]? := by
  induction values generalizing n i with
  | nil => rfl
  | cons v values ih =>
      rw [List.zipIdx_cons, List.map_cons, cellFor?]
      cases i with
      | zero =>
          have hNone :
              cellFor?
                  ((values.zipIdx (n + 1)).map
                    fun cell => (cell.1, some cell.2)) (n + 0) =
                none := by
            rw [cellFor?_eq_none_iff, List.forall_mem_map]
            rintro ⟨w, j⟩ hMem hSame
            have hBound := (List.mem_zipIdx hMem).1
            have hIndex : j = n + 0 := Option.some.inj hSame
            omega
          rw [hNone]
          simp
      | succ i =>
          have hOther : ¬ some n = some (n + (i + 1)) := by
            rw [Option.some.injEq]
            omega
          rw [if_neg hOther, Option.or_none,
            show n + (i + 1) = n + 1 + i by omega, ih]
          rfl

namespace Record

variable {e : EntityType}
variable {source : Nat → Option Value}
variable {r r' : Record}
variable {cells : List (Value × Option Nat)}

/- Only the values for the positions of properties matter. -/
theorem ReadsFrom.congr
    {source' : Nat → Option Value}
    (hReads : r.ReadsFrom e source)
    (hSame : ∀ i < e.width, source i = source' i) :
    r.ReadsFrom e source' := by
  refine ⟨hReads.type_eq, hReads.length_eq, ?_⟩
  intro i p field hProperty hField
  have hBound := (List.getElem?_eq_some_iff.mp hProperty).1
  rw [← hSame i hBound]
  exact hReads.fields i p field hProperty hField

/- Before anything is assigned every field is a default. -/
theorem readsFrom_default
    (e : EntityType) :
    (Record.default e).ReadsFrom e fun _ => none := by
  refine ⟨rfl, List.length_map _, ?_⟩
  intro i p field hProperty hField
  rw [Record.default, List.getElem?_map, hProperty] at hField
  exact (Option.some.inj hField).symm

/- An assignment reads the field of its position anew. -/
theorem ReadsFrom.assign
    {i : Nat}
    {v : Value}
    (hReads : r.ReadsFrom e source)
    (hAssign : r.assign i v = .ok r') :
    r'.ReadsFrom e fun j => if i = j then some v else source j := by
  rcases r with ⟨type, held⟩
  rcases hReads with ⟨rfl, hLength, hFields⟩
  unfold Record.assign at hAssign
  dsimp only at hAssign hLength hFields
  cases hProperty : type.properties[i]? with
  | none =>
      rw [hProperty] at hAssign
      cases hAssign
      refine ⟨rfl, hLength, ?_⟩
      intro j p field hOther hField
      have hDiffers : i ≠ j := by
        rintro rfl
        cases hProperty.symm.trans hOther
      rw [if_neg hDiffers]
      exact hFields j p field hOther hField
  | some p =>
      rw [hProperty] at hAssign
      dsimp only at hAssign
      cases hRead : p.type.read v with
      | error cause =>
          rw [hRead] at hAssign
          cases hAssign
      | ok read =>
          rw [hRead] at hAssign
          cases hAssign
          refine ⟨rfl, by simpa using hLength, ?_⟩
          intro j q field hOther hField
          rw [List.getElem?_set] at hField
          by_cases hHere : i = j
          · subst hHere
            cases hProperty.symm.trans hOther
            have hBound : i < held.length := by
              rw [hLength]
              exact (List.getElem?_eq_some_iff.mp hProperty).1
            rw [if_pos rfl, if_pos hBound] at hField
            rw [if_pos rfl, ← Option.some.inj hField]
            exact hRead
          · rw [if_neg hHere] at hField
            rw [if_neg hHere]
            exact hFields j q field hOther hField

/- A cell that is meant for no position is passed over. -/
theorem assignTargets_none
    (r : Record)
    (v : Value)
    (cells : List (Value × Option Nat)) :
    r.assignTargets ((v, none) :: cells) = r.assignTargets cells :=
  rfl

theorem assignTargets_some
    (r : Record)
    (v : Value)
    (i : Nat)
    (cells : List (Value × Option Nat)) :
    r.assignTargets ((v, some i) :: cells) =
      (do
        let r ← r.assign i v
        r.assignTargets cells) :=
  rfl

/- Of many cells the last one for a position counts. -/
theorem readsFrom_assignTargets
    (hReads : r.ReadsFrom e source)
    (hAssign : r.assignTargets cells = .ok r') :
    r'.ReadsFrom e fun i => (cellFor? cells i).or (source i) := by
  induction cells generalizing r source with
  | nil =>
      cases hAssign
      exact hReads
  | cons cell cells ih =>
      rcases cell with ⟨v, target⟩
      cases target with
      | none =>
          rw [assignTargets_none] at hAssign
          simpa [cellFor?] using ih hReads hAssign
      | some i =>
          rw [assignTargets_some, bind_eq_ok_iff] at hAssign
          rcases hAssign with ⟨first, hFirst, hRest⟩
          apply (ih (hReads.assign hFirst) hRest).congr
          intro j _
          simp only [cellFor?, Option.some.injEq]
          cases cellFor? cells j with
          | some w => rfl
          | none => by_cases hHere : i = j <;> simp [hHere]

/- An assignment succeeds if the property can read the value. -/
theorem exists_assign_iff
    {i : Nat}
    {v : Value} :
    (∃ r', r.assign i v = .ok r') ↔
      ∀ p, r.type.properties[i]? = some p →
        ∃ field, p.type.read v = .ok field := by
  unfold Record.assign
  cases r.type.properties[i]? with
  | none => simp
  | some p => cases hRead : p.type.read v <;> simp [hRead]

theorem type_eq_of_assign
    {i : Nat}
    {v : Value}
    (hAssign : r.assign i v = .ok r') :
    r'.type = r.type := by
  unfold Record.assign at hAssign
  split at hAssign
  · cases hAssign
    rfl
  · split at hAssign
    · cases hAssign
      rfl
    · cases hAssign

/- So do many, if every value can be read where it is put. -/
theorem exists_assignTargets_iff :
    (∃ r', r.assignTargets cells = .ok r') ↔
      ∀ cell ∈ cells, ∀ i p,
        cell.2 = some i → r.type.properties[i]? = some p →
          ∃ field, p.type.read cell.1 = .ok field := by
  induction cells generalizing r with
  | nil => exact ⟨fun _ => nofun, fun _ => ⟨r, rfl⟩⟩
  | cons cell cells ih =>
      rcases cell with ⟨v, target⟩
      rw [List.forall_mem_cons]
      cases target with
      | none => simp [assignTargets_none, ih]
      | some i =>
          simp only [assignTargets_some, bind_eq_ok_iff]
          constructor
          · rintro ⟨r', first, hFirst, hRest⟩
            refine ⟨?_, ?_⟩
            · intro j p hSame
              cases hSame
              exact exists_assign_iff.mp ⟨first, hFirst⟩ p
            · have hReads := ih.mp ⟨r', hRest⟩
              rwa [type_eq_of_assign hFirst] at hReads
          · rintro ⟨hHead, hTail⟩
            rcases exists_assign_iff.mpr fun p => hHead i p rfl with
              ⟨first, hFirst⟩
            rw [← type_eq_of_assign hFirst] at hTail
            rcases ih.mpr hTail with ⟨r', hRest⟩
            exact ⟨r', first, hFirst, hRest⟩

/- Values in order are assigned to the positions that they have. -/
theorem ofValues_eq_assignTargets
    (e : EntityType)
    (values : List Value) :
    Record.ofValues e values =
      (Record.default e).assignTargets
        (values.zipIdx.map fun cell => (cell.1, some cell.2)) := by
  rw [assignTargets, List.foldlM_map]
  rfl

theorem readsFrom_ofValues
    {values : List Value}
    (hRead : Record.ofValues e values = .ok r) :
    r.ReadsFrom e fun i => values[i]? := by
  rw [ofValues_eq_assignTargets] at hRead
  apply (readsFrom_assignTargets (readsFrom_default e) hRead).congr
  intro i _
  have hCell := cellFor?_zipIdx values 0 i
  rw [Nat.zero_add] at hCell
  rw [hCell, Option.or_none]

end Record

------------------------------------------------------------
-- Flat hydration
------------------------------------------------------------

namespace EntityType

/-
  The value that flat hydration has for a property: of all
  columns of a row that are the property's, the last one that
  has a value in the row.
-/
def flatValue?
    (e : EntityType)
    (columns : List String)
    (row : List Value)
    (i : Nat) : Option Value :=
  cellFor? (row.zip (columns.map e.position?)) i

/- The cells of a row are its values under the columns. -/
theorem mem_cells_iff
    {e : EntityType}
    {columns : List String}
    {row : List Value}
    {cell : Value × Option Nat} :
    cell ∈ row.zip (columns.map e.position?) ↔
      ∃ (j : Nat) (column : String),
        row[j]? = some cell.1 ∧ columns[j]? = some column ∧
          e.position? column = cell.2 := by
  rw [List.mem_iff_getElem?]
  simp only [List.getElem?_zip_eq_some, List.getElem?_map,
    Option.map_eq_some_iff]
  constructor
  · rintro ⟨j, hValue, column, hColumn, hTarget⟩
    exact ⟨j, column, hValue, hColumn, hTarget⟩
  · rintro ⟨j, column, hValue, hColumn, hTarget⟩
    exact ⟨j, hValue, column, hColumn, hTarget⟩

/- A row has no value for a property if it ends too early. -/
theorem flatValue?_eq_none_iff
    {e : EntityType}
    {columns : List String}
    {row : List Value}
    {i : Nat} :
    e.flatValue? columns row i = none ↔
      ∀ (j : Nat) column,
        columns[j]? = some column → e.position? column = some i →
          row.length ≤ j := by
  rw [flatValue?, cellFor?_eq_none_iff]
  constructor
  · intro hNone j column hColumn hPosition
    by_contra hShort
    have hValue : row[j]? = some row[j] :=
      List.getElem?_eq_getElem (by omega)
    exact hNone (row[j], some i)
      (mem_cells_iff.mpr ⟨j, column, hValue, hColumn, hPosition⟩) rfl
  · intro hShort cell hMem hTarget
    rcases mem_cells_iff.mp hMem with
      ⟨j, column, hValue, hColumn, hPosition⟩
    have hBound := (List.getElem?_eq_some_iff.mp hValue).1
    have hEnds := hShort j column hColumn (hPosition.trans hTarget)
    omega

/- The value of a property is one that the row has for it. -/
theorem exists_of_flatValue?
    {e : EntityType}
    {columns : List String}
    {row : List Value}
    {i : Nat}
    {v : Value}
    (hValue : e.flatValue? columns row i = some v) :
    ∃ (j : Nat) (column : String),
      row[j]? = some v ∧ columns[j]? = some column ∧
        e.position? column = some i :=
  mem_cells_iff.mp (mem_of_cellFor? hValue)

end EntityType

/- Each record holds what its row has. -/
theorem readsFrom_of_hydrateFlat
    {e : EntityType}
    {set : ResultSet}
    {found : List Record}
    (hFound : hydrateFlat e set = .ok found) :
    List.Forall₂
      (fun row (r : Record) =>
        r.ReadsFrom e (e.flatValue? set.columns row))
      set.rows found := by
  refine (mapM_eq_ok_iff.mp hFound).imp ?_
  intro row r hAssigned
  apply (Record.readsFrom_assignTargets (Record.readsFrom_default e)
    hAssigned).congr
  intro i _
  exact Option.or_none

/- A value that a row has can fail to be read; a short row not. -/
theorem exists_hydrateFlat_iff
    {e : EntityType}
    {set : ResultSet} :
    (∃ found, hydrateFlat e set = .ok found) ↔
      ∀ row ∈ set.rows, ∀ (j : Nat) v column i p,
        row[j]? = some v → set.columns[j]? = some column →
          e.position? column = some i →
            e.properties[i]? = some p →
              ∃ field, p.type.read v = .ok field := by
  rw [hydrateFlat, exists_mapM_eq_ok_iff]
  apply forall₂_congr
  intro row _
  rw [Record.exists_assignTargets_iff]
  constructor
  · intro hCells j v column i p hValue hColumn hPosition hProperty
    exact hCells (v, some i)
      (EntityType.mem_cells_iff.mpr
        ⟨j, column, hValue, hColumn, hPosition⟩) i p rfl hProperty
  · intro hValues cell hMem i p hTarget hProperty
    rcases EntityType.mem_cells_iff.mp hMem with
      ⟨j, column, hValue, hColumn, hPosition⟩
    exact hValues j cell.1 column i p hValue hColumn
      (hPosition.trans hTarget) hProperty

end EntitySql
