import EntitySql.Proofs.Hydrate.FieldSources
import EntitySql.Proofs.Hydrate.NestedRoots

/-
  The rows that hydrated entities are read from. Roots and
  nested hydration refuse rows that are too short, and read
  every field from a value of a row; flat hydration leaves the
  fields for which a row has no value at their defaults.

  Key definitions include:
    * `Record.ReadIn`
    * `BuiltFrom`
    * `Nesting.CachesRead`, `Nesting.Sourced`

  Key theorems include:
    * `IdentityCache.forall_instances_of_resolve`
    * `readIn_of_hydrateRoots`
    * `Nesting.Sourced.step`
    * `builtFrom_of_hydrateNested`
    * `hydration_reads_rows`
-/

namespace EntitySql

------------------------------------------------------------
-- Slices
------------------------------------------------------------

/-
  The record is read from one of the rows, from a column on.
  The row has a value for each of its fields.
-/
def Record.ReadIn
    (rows : List (List Value))
    (e : EntityType)
    (offset : Nat)
    (r : Record) : Prop :=
  ∃ row ∈ rows, offset + e.width ≤ row.length ∧
    r.ReadsFrom e fun i => row[offset + i]?

/- A slice lies within the row and has its values. -/
theorem Row.values_of_slice?
    {row slice : Row}
    {start stop : Nat}
    (hSlice : row.slice? start stop = some slice) :
    stop ≤ row.values.length ∧
      slice.values = (row.values.take stop).drop start := by
  rw [slice?, Option.bind_eq_bind, Option.bind_eq_some_iff] at hSlice
  rcases hSlice with ⟨columns, _, hSlice⟩
  rw [Option.bind_eq_bind, Option.bind_eq_some_iff] at hSlice
  rcases hSlice with ⟨values, hRange, hSame⟩
  cases hSame
  rw [range?, Option.ite_none_right_eq_some] at hRange
  exact ⟨hRange.1.2, (Option.some.inj hRange.2).symm⟩

namespace IdentityCache

variable {ι : Type}
variable {cache cache' : IdentityCache ι}
variable {row slice : Row}
variable {offset : Nat}

variable {rows : List (List Value)}

/- A cache starts with its type, and without instances. -/
theorem forall_instances_of_start
    {e : EntityType}
    {P : ι → Prop}
    (hStart : start e = .ok cache) :
    cache.type = e ∧ ∀ x ∈ cache.instances, P x := by
  have hNone := (tracks_start (fun _ => .null) hStart).2
  refine ⟨type_eq_of_start hStart, ?_⟩
  intro x hHeld
  rw [hNone] at hHeld
  cases hHeld

/- An instance that is built is read from the row of its slice. -/
theorem readIn_of_build
    {r : Record}
    (hMem : row.values ∈ rows)
    (hSlice :
      row.slice? offset (offset + cache.type.width) = some slice)
    (hBuild : cache.build slice = .ok r) :
    r.ReadIn rows cache.type offset := by
  rcases Row.values_of_slice? hSlice with ⟨hWide, hValues⟩
  have hRead : Record.ofValues cache.type slice.values = .ok r :=
    hBuild
  refine ⟨row.values, hMem, hWide, ?_⟩
  apply (Record.readsFrom_ofValues hRead).congr
  intro i hBound
  rw [hValues, List.getElem?_drop, List.getElem?_take,
    if_pos (by omega)]

/-
  Resolving a slice of a row adds what is made of a record read
  from the row, if anything.
-/
theorem forall_instances_of_resolve
    {make : Record → ι}
    {answer : Option Nat}
    {P : ι → Prop}
    (hMem : row.values ∈ rows)
    (hSlice :
      row.slice? offset (offset + cache.type.width) = some slice)
    (hResolve : cache.resolve make slice = .ok (answer, cache'))
    (hKnown : ∀ x ∈ cache.instances, P x)
    (hMade : ∀ r : Record,
      r.ReadIn rows cache.type offset → P (make r)) :
    cache'.type = cache.type ∧ ∀ x ∈ cache'.instances, P x := by
  rcases made_of_resolve hResolve with
    ⟨hType, hSame | ⟨r, hBuild, hMore⟩⟩
  · rw [hSame]
    exact ⟨hType, hKnown⟩
  · rw [hMore]
    refine ⟨hType, ?_⟩
    intro x hHeld
    rcases List.mem_append.mp hHeld with hOld | hNew
    · exact hKnown x hOld
    · rw [List.mem_singleton.mp hNew]
      exact hMade r (readIn_of_build hMem hSlice hBuild)

end IdentityCache

------------------------------------------------------------
-- Roots
------------------------------------------------------------

/- Roots are read from rows that have all of their columns. -/
theorem readIn_of_hydrateRoots
    {e : EntityType}
    {set : ResultSet}
    {found : List Record}
    (hFound : hydrateRoots e set = .ok found) :
    (∀ row ∈ set.rows, e.width ≤ row.length) ∧
      ∀ r ∈ found, r.ReadIn set.rows e 0 := by
  rw [hydrateRoots, bind_eq_ok_iff] at hFound
  rcases hFound with ⟨cache, hStart, hFound⟩
  rw [bind_eq_ok_iff] at hFound
  rcases hFound with ⟨last, hRun, hSame⟩
  cases hSame
  -- The cache has the type, and its records are read from rows.
  have hInvariant :=
    @invariant_of_foldlM _ _ _ (IdentityCache.takeRow e.width)
      (fun cache =>
        cache.type = e ∧
          ∀ r ∈ cache.instances, r.ReadIn set.rows e 0)
      (fun row => e.width ≤ row.values.length) set.rowViews
      cache last
  have hRows := hInvariant ?_ ?_ hRun
  · refine ⟨?_, hRows.1.2⟩
    intro row hMem
    exact hRows.2 ⟨set.columns, row⟩ (List.mem_map_of_mem hMem)
  · intro view hView before after hKeeps hStep
    rcases List.mem_map.mp hView with ⟨row, hMem, rfl⟩
    rcases hKeeps with ⟨rfl, hReads⟩
    unfold IdentityCache.takeRow at hStep
    cases hSlice :
        Row.slice? ⟨set.columns, row⟩ 0 before.type.width with
    | none =>
        rw [hSlice] at hStep
        cases hStep
    | some slice =>
        simp only [hSlice, IdentityCache.takeIn, bind_eq_ok_iff] at hStep
        rcases hStep with ⟨⟨answer, _⟩, hResolve, hSame⟩
        cases hSame
        refine ⟨?_, (Row.values_of_slice? hSlice).1⟩
        rw [← Nat.zero_add before.type.width] at hSlice
        exact IdentityCache.forall_instances_of_resolve hMem hSlice
          hResolve hReads fun _ hRead => hRead
  · exact IdentityCache.forall_instances_of_start hStart

------------------------------------------------------------
-- Roots with children
------------------------------------------------------------

variable {ρ : Type}

/-
  A root as nested hydration builds it: made of a record that
  is read from a row, and wired to children that are read from
  rows at the columns of their slots.
-/
inductive BuiltFrom
    (root : EntityType)
    (make : Record → ρ)
    (slots : List (Slot ρ))
    (rows : List (List Value)) : ρ → Prop where
  | made
      {r : Record}
      (hReads : r.ReadIn rows root 0) :
      BuiltFrom root make slots rows (make r)
  | wired
      {x : ρ}
      {r : Record}
      {before after : List (Slot ρ)}
      {slot : Slot ρ}
      (hBuilt : BuiltFrom root make slots rows x)
      (hSlots : slots = before ++ slot :: after)
      (hReads :
        r.ReadIn rows slot.type (Nesting.expectedWidth root before)) :
      BuiltFrom root make slots rows (slot.wire x r)

namespace Nesting

/-
  The caches of slots hold records that are read from the rows,
  each at the columns of its slot. The columns run along.
-/
inductive CachesRead
    (rows : List (List Value)) :
    Nat → List (Slot ρ) → List (IdentityCache Record) → Prop where
  | nil
      {offset : Nat} :
      CachesRead rows offset [] []
  | cons
      {offset : Nat}
      {slot : Slot ρ}
      {slots : List (Slot ρ)}
      {cache : IdentityCache Record}
      {caches : List (IdentityCache Record)}
      (hType : cache.type = slot.type)
      (hReads : ∀ r ∈ cache.instances, r.ReadIn rows slot.type offset)
      (hRest :
        CachesRead rows (offset + slot.type.width) slots caches) :
      CachesRead rows offset (slot :: slots) (cache :: caches)

variable {root : EntityType}
variable {make : Record → ρ}
variable {slots : List (Slot ρ)}
variable {rows : List (List Value)}
variable {offset expected : Nat}
variable {caches caches' : List (IdentityCache Record)}
variable {answers : List (Option Nat)}
variable {row : Row}

/- The caches start without records. -/
theorem cachesRead_start
    (hStart :
      (slots.mapM fun s =>
          (IdentityCache.start s.type :
            Except MappingError (IdentityCache Record))) =
        .ok caches) :
    CachesRead rows offset slots caches := by
  rw [mapM_eq_ok_iff] at hStart
  induction hStart generalizing offset with
  | nil => exact .nil
  | cons hFirst _ ih =>
      rcases IdentityCache.forall_instances_of_start hFirst with
        ⟨hType, hReads⟩
      exact .cons hType hReads ih

/- The children of a row are read from it. -/
theorem CachesRead.resolve
    (hCaches : CachesRead rows offset slots caches)
    (hMem : row.values ∈ rows)
    (hResolve :
      resolveChildren expected row offset caches =
        .ok (answers, caches')) :
    CachesRead rows offset slots caches' := by
  induction hCaches generalizing answers caches' with
  | nil =>
      cases hResolve
      exact .nil
  | @cons offset slot slots cache caches hType hReads _ ih =>
      simp only [resolveChildren] at hResolve
      cases hSlice :
          row.slice? offset (offset + cache.type.width) with
      | none =>
          rw [hSlice] at hResolve
          cases hResolve
      | some slice =>
          simp only [hSlice, bind_eq_ok_iff] at hResolve
          rcases hResolve with
            ⟨⟨answer, cache'⟩, hFirst, ⟨others, caches'⟩, hRest, hSame⟩
          cases hSame
          rw [hType] at hRest
          have hMade :=
            IdentityCache.forall_instances_of_resolve hMem hSlice
              hFirst hReads fun _ hRead => hType ▸ hRead
          exact .cons (hMade.1.trans hType) hMade.2 (ih hRest)

/- Wiring the children of a row keeps a root built from rows. -/
theorem builtFrom_wireChildren
    {before after : List (Slot ρ)}
    {x : ρ}
    (hSlots : slots = before ++ after)
    (hCaches :
      CachesRead rows (expectedWidth root before) after caches)
    (hBuilt : BuiltFrom root make slots rows x) :
    BuiltFrom root make slots rows
      (wireChildren after caches answers x) := by
  induction after generalizing before caches answers x with
  | nil => exact hBuilt
  | cons slot after ih =>
      cases hCaches with
      | @cons _ _ _ cache caches hType hReads hRest =>
          cases answers with
          | nil => exact hBuilt
          | cons answer answers =>
              have hNext :
                  expectedWidth root (before ++ [slot]) =
                    expectedWidth root before + slot.type.width := by
                simp [expectedWidth, Nat.add_assoc]
              have hSplit : slots = (before ++ [slot]) ++ after := by
                rw [hSlots, List.append_assoc]
                rfl
              rw [← hNext] at hRest
              simp only [wireChildren, List.zip_cons_cons,
                List.foldl_cons]
              apply ih hSplit hRest
              split
              · rename_i r hFound
                rcases Option.bind_eq_some_iff.mp hFound with
                  ⟨i, _, hHeld⟩
                exact hBuilt.wired hSlots
                  (hReads r (List.mem_of_getElem? hHeld))
              · exact hBuilt

/- Everything that the state holds comes from the rows. -/
structure Sourced
    (root : EntityType)
    (make : Record → ρ)
    (slots : List (Slot ρ))
    (rows : List (List Value))
    (state : Nesting ρ) : Prop where
  type_eq : state.roots.type = root
  roots : ∀ x ∈ state.roots.instances, BuiltFrom root make slots rows x
  children : CachesRead rows root.width slots state.children

/- A row is taken in at its full width, and all is kept so. -/
theorem Sourced.step
    {state state' : Nesting ρ}
    (hSourced : Sourced root make slots rows state)
    (hMem : row.values ∈ rows)
    (hStep : step slots make expected state row = .ok state') :
    Sourced root make slots rows state' ∧
      row.values.length = expected := by
  rcases hSourced with ⟨rfl, hRoots, hChildren⟩
  unfold Nesting.step at hStep
  split at hStep
  · cases hStep
  · rename_i hWidth
    refine ⟨?_, Decidable.not_not.mp hWidth⟩
    cases hSlice : row.slice? 0 state.roots.type.width with
    | none =>
        simp only [hSlice] at hStep
        cases hStep
    | some slice =>
        simp only [hSlice, bind_eq_ok_iff] at hStep
        rcases hStep with ⟨⟨found, roots⟩, hResolve, hStep⟩
        rw [← Nat.zero_add state.roots.type.width] at hSlice
        have hMade :=
          IdentityCache.forall_instances_of_resolve hMem hSlice
            hResolve hRoots fun _ hRead => .made hRead
        cases found with
        | none =>
            cases hStep
            exact ⟨hMade.1, hMade.2, hChildren⟩
        | some i =>
            simp only [bind_eq_ok_iff] at hStep
            rcases hStep with ⟨⟨answers, caches⟩, hAll, hSame⟩
            cases hSame
            have hCaches := hChildren.resolve hMem hAll
            refine ⟨hMade.1, ?_, hCaches⟩
            intro x hHeld
            rcases List.mem_iff_getElem?.mp hHeld with ⟨n, hAt⟩
            rw [List.getElem?_modify, Option.map_eq_map,
              Option.map_eq_some_iff] at hAt
            rcases hAt with ⟨y, hY, rfl⟩
            have hBuilt := hMade.2 y (List.mem_of_getElem? hY)
            have hAll : slots = [] ++ slots := rfl
            split
            · exact builtFrom_wireChildren hAll hCaches hBuilt
            · exact hBuilt

end Nesting

/- Nested roots are built from rows of the full width. -/
theorem builtFrom_of_hydrateNested
    {root : EntityType}
    {make : Record → ρ}
    {slots : List (Slot ρ)}
    {set : ResultSet}
    {found : List ρ}
    (hFound : hydrateNested root make slots set = .ok found) :
    (∀ row ∈ set.rows,
        row.length = Nesting.expectedWidth root slots) ∧
      ∀ x ∈ found, BuiltFrom root make slots set.rows x := by
  simp only [hydrateNested, bind_eq_ok_iff] at hFound
  rcases hFound with ⟨roots, hStart, children, hStarts, hFound⟩
  split at hFound
  · cases hFound
  · rw [bind_eq_ok_iff] at hFound
    rcases hFound with ⟨state, hRun, hSame⟩
    cases hSame
    have hSourced :
        Nesting.Sourced root make slots set.rows ⟨roots, children⟩ := by
      rcases IdentityCache.forall_instances_of_start hStart with
        ⟨hType, hRoots⟩
      exact ⟨hType, hRoots, Nesting.cachesRead_start hStarts⟩
    have hRows :
        Nesting.Sourced root make slots set.rows state ∧
          ∀ view ∈ set.rowViews,
            view.values.length = Nesting.expectedWidth root slots := by
      refine invariant_of_foldlM ?_ hSourced hRun
      intro view hView before after hKeeps hStep
      rcases List.mem_map.mp hView with ⟨row, hMem, rfl⟩
      exact hKeeps.step hMem hStep
    refine ⟨?_, hRows.1.roots⟩
    intro row hMem
    exact hRows.2 ⟨set.columns, row⟩ (List.mem_map_of_mem hMem)

------------------------------------------------------------
-- All ways to hydrate
------------------------------------------------------------

/-
  Flat hydration gives one record for each row. A field holds
  what its property reads from the last value that the row has
  under a column of the property; it is left at its default if
  the row ends before all of these columns. Only values that a
  row has can make it fail.

  Roots and nested hydration fail if a row is too short. Where
  they succeed all fields are read from values of the rows.
-/
theorem hydration_reads_rows
    (e : EntityType)
    (set : ResultSet) :
    (∀ found, hydrateFlat e set = .ok found →
      List.Forall₂
        (fun row (r : Record) =>
          r.ReadsFrom e (e.flatValue? set.columns row))
        set.rows found) ∧
    (∀ row i v,
      e.flatValue? set.columns row i = some v →
        ∃ (j : Nat) (column : String),
          row[j]? = some v ∧ set.columns[j]? = some column ∧
            e.position? column = some i) ∧
    (∀ row i,
      e.flatValue? set.columns row i = none ↔
        ∀ (j : Nat) column,
          set.columns[j]? = some column →
            e.position? column = some i → row.length ≤ j) ∧
    ((∃ found, hydrateFlat e set = .ok found) ↔
      ∀ row ∈ set.rows, ∀ (j : Nat) v column i p,
        row[j]? = some v → set.columns[j]? = some column →
          e.position? column = some i →
            e.properties[i]? = some p →
              ∃ field, p.type.read v = .ok field) ∧
    (∀ found, hydrateRoots e set = .ok found →
      (∀ row ∈ set.rows, e.width ≤ row.length) ∧
        ∀ r ∈ found, r.ReadIn set.rows e 0) ∧
    (∀ {ρ : Type} (make : Record → ρ) (slots : List (Slot ρ)) found,
      hydrateNested e make slots set = .ok found →
        (∀ row ∈ set.rows,
          row.length = Nesting.expectedWidth e slots) ∧
        ∀ x ∈ found, BuiltFrom e make slots set.rows x) :=
  ⟨fun _ hFound => readsFrom_of_hydrateFlat hFound,
    fun _ _ _ hValue => EntityType.exists_of_flatValue? hValue,
    fun _ _ => EntityType.flatValue?_eq_none_iff,
    exists_hydrateFlat_iff,
    fun _ hFound => readIn_of_hydrateRoots hFound,
    fun _ _ _ hFound => builtFrom_of_hydrateNested hFound⟩

namespace ShortRows

def blog : EntityType :=
  { key := ⟨0, "Blog"⟩
    table := "blogs"
    properties :=
      [ { column := "id", declaredType := "i64",
          type := ⟨.integer .int64, false⟩, identity := true },
        { column := "title", declaredType := "String",
          type := ⟨.text, false⟩ },
        { column := "rating", declaredType := "i32",
          type := ⟨.integer .int32, false⟩ } ] }

/- A full row is read whole, whatever the order of its columns. -/
theorem full_row_is_read :
    let set : ResultSet :=
      ⟨["rating", "title", "id"], [[.int 5, .text "first", .int 1]]⟩
    let first : Record :=
      ⟨blog, [.integer 1, .text "first", .integer 5]⟩
    hydrateFlat blog set = .ok [first] ∧
      blog.flatValue? set.columns
          [.int 5, .text "first", .int 1] 2 =
        some (.int 5) ∧
      first.ReadsFrom blog
        (blog.flatValue? set.columns
          [.int 5, .text "first", .int 1]) := by
  intro set first
  have hFound : hydrateFlat blog set = .ok [first] := by
    decide +kernel
  refine ⟨hFound, by decide +kernel, ?_⟩
  rcases (hydration_reads_rows blog set).1 [first] hFound with
    _ | ⟨hFirst, _⟩
  exact hFirst

/-
  A row that ends after the key is a blog without a title and
  with the rating 0 to flat hydration, and no blog otherwise.
-/
theorem short_row_is_blog_of_defaults :
    let set : ResultSet :=
      ⟨["id", "title", "rating"], [[.int 1]]⟩
    hydrateFlat blog set =
        .ok [⟨blog, [.integer 1, .text "", .integer 0]⟩] ∧
      hydrateRoots blog set = .error (.widthMismatch 3 1) ∧
      hydrateNested blog id [] set = .error (.widthMismatch 3 1) := by
  decide +kernel

end ShortRows

end EntitySql
