import EntitySql.Proofs.Hydrate.FieldSources
import EntitySql.Proofs.Hydrate.KeptInstances

/-
  Flat hydration and the hydration of roots do the same with
  rows of one entity type that all have different keys: both
  convert one row after the other.

  Key theorems include:
    * `hydrateFlat_eq_mapM`
    * `IdentityCache.Lists.takeAll_new`
    * `hydrateRoots_eq_hydrateFlat`
-/

namespace EntitySql

------------------------------------------------------------
-- Flat hydration
------------------------------------------------------------

/- Rows under the columns of a type are converted one by one. -/
theorem hydrateFlat_eq_mapM
    {e : EntityType}
    {rows : List (List Value)}
    (hColumns : e.columns.Nodup)
    (hWidth : ∀ row ∈ rows, row.length = e.width) :
    hydrateFlat e ⟨e.columns, rows⟩ =
      rows.mapM (Record.ofValues e) := by
  unfold hydrateFlat
  induction rows with
  | nil => rfl
  | cons row rows ih =>
      rw [List.forall_mem_cons] at hWidth
      have hRow :
          (Record.default e).assignTargets
              (row.zip (e.columns.map e.position?)) =
            Record.ofValues e row := by
        rw [EntityType.zip_position?_columns hColumns hWidth.1,
          Record.ofValues_eq_assignTargets]
      have hRest := ih hWidth.2
      dsimp only at hRest ⊢
      rw [List.mapM_cons, List.mapM_cons, hRow, hRest]

------------------------------------------------------------
-- Roots
------------------------------------------------------------

namespace IdentityCache

variable {e : EntityType}
variable {i : Nat}
variable {keys : List IdentityKey}
variable {cache : IdentityCache Record}

/-
  Slices with new and different keys are converted one by one,
  up to the first that fails, and added to the records.
-/
theorem Lists.takeAll_new
    {slices : List Row}
    (hLists : Lists e i keys cache)
    (hPresent : ∀ slice ∈ slices, ¬ AllNull slice.values)
    (hFloat :
      ∀ slice ∈ slices, ∀ bits, keyAt i slice.values ≠ .float bits)
    (hKeys :
      (keys ++ slices.map fun slice =>
        keyAt i slice.values).Nodup) :
    (cache.takeAll slices).map IdentityCache.instances =
      (slices.mapM fun slice => Record.ofValues e slice.values).map
        (cache.instances ++ ·) := by
  induction slices generalizing cache keys with
  | nil =>
      rw [List.mapM_nil]
      exact congrArg Except.ok (List.append_nil _).symm
  | cons slice slices ih =>
      rw [List.forall_mem_cons] at hPresent hFloat
      have hNew : keyAt i slice.values ∉ keys := by
        intro hMem
        exact (List.nodup_append.mp hKeys).2.2 _ hMem _
          List.mem_cons_self rfl
      rw [takeAll, List.foldlM_cons, List.mapM_cons, takeIn]
      rcases hLists.resolve_new id hPresent.1 hFloat.1 hNew with
        ⟨cause, hRead, hResolve⟩ |
          ⟨r, cache', hRead, hResolve, hLists', hMore⟩
      · rw [hRead, hResolve]
        rfl
      · rw [List.map_cons, List.append_cons] at hKeys
        have hRest := ih hLists' hPresent.2 hFloat.2 hKeys
        rw [hRead, hResolve]
        refine hRest.trans ?_
        rw [hMore]
        cases slices.mapM fun slice => Record.ofValues e slice.values with
        | error cause => rfl
        | ok others =>
            exact congrArg Except.ok (List.append_assoc _ _ _)

end IdentityCache

/-
  Under the columns of the type, in order, rows with different
  keys have the same entities as roots and as flat rows, or the
  same first value that cannot be converted.
-/
theorem hydrateRoots_eq_hydrateFlat
    (e : EntityType)
    (i : Nat)
    (rows : List (List Value))
    (hIdentity : e.identityIndex? = some i)
    (hColumns : e.columns.Nodup)
    (hWidth : ∀ row ∈ rows, row.length = e.width)
    (hKeys : (rows.map (IdentityCache.keyAt i)).Nodup)
    (hFloat :
      ∀ row ∈ rows, ∀ bits,
        IdentityCache.keyAt i row ≠ .float bits)
    (hPresent : ∀ row ∈ rows, ¬ AllNull row) :
    hydrateRoots e ⟨e.columns, rows⟩ =
      hydrateFlat e ⟨e.columns, rows⟩ := by
  have hLength : e.columns.length = e.width := List.length_map _
  have hWide : (ResultSet.mk e.columns rows).Wide e.width :=
    ⟨Nat.le_of_eq hLength.symm,
      fun row hMem => Nat.le_of_eq (hWidth row hMem).symm⟩
  -- A row is its own slice, as it has no columns of other types.
  have hSlices :
      (ResultSet.mk e.columns rows).slices e.width =
        rows.map fun row => ⟨e.columns, row⟩ := by
    apply List.map_congr_left
    intro row hMem
    rw [List.take_of_length_le (Nat.le_of_eq hLength),
      List.take_of_length_le (Nat.le_of_eq (hWidth row hMem))]
  have hTaken :
      (IdentityCache.takeAll ⟨e, i, none, [], []⟩
          (rows.map fun row => ⟨e.columns, row⟩)).map
          IdentityCache.instances =
        ((rows.map fun row => (⟨e.columns, row⟩ : Row)).mapM
            fun slice => Record.ofValues e slice.values).map
          ([] ++ ·) := by
    apply (IdentityCache.lists_start e i).takeAll_new
    · simpa using hPresent
    · simpa using hFloat
    · simpa [Function.comp_def] using hKeys
  rw [hydrateRoots_eq hIdentity hWide, hSlices, hTaken,
    hydrateFlat_eq_mapM hColumns hWidth, List.mapM_map]
  change (rows.mapM (Record.ofValues e)).map _ = _
  cases rows.mapM (Record.ofValues e) <;> rfl

namespace DistinctBlogs

def blog : EntityType :=
  { key := ⟨0, "Blog"⟩
    table := "blogs"
    properties :=
      [ { column := "id", declaredType := "i64",
          type := ⟨.integer .int64, false⟩, identity := true },
        { column := "title", declaredType := "String",
          type := ⟨.text, false⟩ },
        { column := "rating", declaredType := "i32",
          type := ⟨.integer .int32, false⟩ } ] }

/-
  The third of four blogs has a rating that is too great, and
  the last one a key that is none. The rating is found first.
-/
theorem rating_fails_both_ways :
    let rows : List (List Value) :=
      [ [.int 1, .text "first", .int 4],
        [.bool false, .text "second", .int 5],
        [.int 3, .text "third", .int 1099511627776],
        [.text "4", .text "fourth", .int 4] ]
    blog.identityIndex? = some 0 ∧
      blog.columns.Nodup ∧
      (∀ row ∈ rows, row.length = blog.width) ∧
      (rows.map (IdentityCache.keyAt 0)).Nodup ∧
      (∀ row ∈ rows, ∀ bits,
        IdentityCache.keyAt 0 row ≠ .float bits) ∧
      (∀ row ∈ rows, ¬ AllNull row) ∧
      hydrateRoots blog ⟨blog.columns, rows⟩ =
        .error (.conversion "rating"
          (.outOfRange .int32 1099511627776)) ∧
      hydrateRoots blog ⟨blog.columns, rows⟩ =
        hydrateFlat blog ⟨blog.columns, rows⟩ := by
  intro rows
  have hIdentity : blog.identityIndex? = some 0 := by
    decide +kernel
  have hColumns : blog.columns.Nodup := by
    decide +kernel
  have hWidth : ∀ row ∈ rows, row.length = blog.width := by
    decide +kernel
  have hKeys : (rows.map (IdentityCache.keyAt 0)).Nodup := by
    decide +kernel
  have hFloat :
      ∀ row ∈ rows, ∀ bits,
        IdentityCache.keyAt 0 row ≠ .float bits := by
    simp [rows, IdentityCache.keyAt, Value.identityKey]
  have hPresent : ∀ row ∈ rows, ¬ AllNull row := by
    simp [rows, AllNull, Value.isNull]
  exact ⟨hIdentity, hColumns, hWidth, hKeys, hFloat, hPresent,
    by decide +kernel,
    hydrateRoots_eq_hydrateFlat blog 0 rows hIdentity hColumns
      hWidth hKeys hFloat hPresent⟩

end DistinctBlogs

end EntitySql
