import EntitySql.Proofs.Hydrate.KeptInstances

/-
  Runs of nested hydration agree with what it means: after any
  rows, the roots are those of the readings of these rows, and
  the next row is read as it is taken in.

  Key definitions include:
    * `Section.Consecutive`
    * `Nesting.KeepAll`
    * `Nesting.Mirrors`

  Key theorems include:
    * `Nesting.resolveChildren_eq`
    * `Nesting.Mirrors.step_present`
    * `Nesting.Mirrors.foldlM_step_eq`
    * `hydrateNested_eq_reference`
-/

namespace EntitySql

------------------------------------------------------------
-- Rows in sections
------------------------------------------------------------

/- Sections that follow each other from a column on. -/
def Section.Consecutive (offset : Nat) : List Section → Prop
  | [] => True
  | s :: rest =>
      s.offset = offset ∧ Consecutive (offset + s.type.width) rest

/- The sections of some types follow each other. -/
theorem Section.consecutive_sections
    {offset : Nat}
    {types : List EntityType}
    {sections : List Section}
    (hSections : EntityType.sections offset types = .ok sections) :
    Consecutive offset sections ∧
      sections.map Section.type = types := by
  induction types generalizing offset sections with
  | nil =>
      cases hSections
      exact ⟨trivial, rfl⟩
  | cons e types ih =>
      rw [EntityType.sections] at hSections
      cases hPosition : e.identityPosition with
      | error cause =>
          rw [hPosition] at hSections
          cases hSections
      | ok i =>
          cases hRest :
              EntityType.sections (offset + e.width) types with
          | error cause =>
              rw [hPosition, hRest] at hSections
              cases hSections
          | ok rest =>
              rw [hPosition, hRest] at hSections
              cases hSections
              rcases ih hRest with ⟨hConsecutive, hTypes⟩
              exact ⟨⟨rfl, hConsecutive⟩, by rw [List.map_cons, hTypes]⟩

/- A row that is wide enough has a slice for a section. -/
theorem Section.exists_slice
    {s : Section}
    {columns : List String}
    {row : List Value}
    (hColumns : s.offset + s.type.width ≤ columns.length)
    (hRow : s.offset + s.type.width ≤ row.length) :
    ∃ slice : Row,
      Row.slice? ⟨columns, row⟩ s.offset (s.offset + s.type.width) =
        some slice ∧
      slice.values = s.slice row := by
  refine ⟨⟨(columns.drop s.offset).take s.type.width, s.slice row⟩,
    ?_, rfl⟩
  simp only [Row.slice?, Row.range?]
  rw [if_pos ⟨by omega, hColumns⟩, if_pos ⟨by omega, hRow⟩]
  simp [Section.slice, List.drop_take]

namespace Nesting

variable {ρ : Type}
variable {rows past rest : List (List Value)}
variable {row : List Value}
variable {columns : List String}
variable {expected : Nat}

/- The caches of the slots know what some rows have shown. -/
def KeepAll
    (rows past : List (List Value))
    (sections : List Section)
    (caches : List (IdentityCache Record)) : Prop :=
  List.Forall₂
    (fun (s : Section) cache =>
      s.Keeps rows (s.keys past) cache.instances cache)
    sections caches

/-
  The children of a row are resolved as its reading has them,
  up to the first slot that fails. The induction is on the
  slots, and the column runs along.
-/
theorem resolveChildren_eq
    {sections : List Section}
    {caches : List (IdentityCache Record)}
    {offset : Nat}
    (hRows : rows = past ++ row :: rest)
    (hKeep : KeepAll rows past sections caches)
    (hConsecutive : Section.Consecutive offset sections)
    (hColumns :
      offset + (sections.map fun s => s.type.width).sum ≤
        columns.length)
    (hRow :
      offset + (sections.map fun s => s.type.width).sum ≤ row.length)
    (hFloat : ∀ s ∈ sections, ∀ bits, s.key row ≠ .float bits) :
    (∃ cause,
      sections.mapM (fun s => s.instanceOf rows row) = .error cause ∧
      resolveChildren expected ⟨columns, row⟩ offset caches =
        .error cause) ∨
    ∃ children answers caches',
      sections.mapM (fun s => s.instanceOf rows row) = .ok children ∧
      resolveChildren expected ⟨columns, row⟩ offset caches =
        .ok (answers, caches') ∧
      KeepAll rows (past ++ [row]) sections caches' ∧
      List.zipWith foundIn caches' answers = children := by
  induction hKeep generalizing offset with
  | nil => exact .inr ⟨[], [], [], rfl, rfl, .nil, rfl⟩
  | @cons s cache sections caches hFirst hOthers ih =>
      rcases hConsecutive with ⟨rfl, hConsecutive⟩
      rw [List.map_cons, List.sum_cons] at hColumns hRow
      rw [List.forall_mem_cons] at hFloat
      rcases @Section.exists_slice s columns row (by omega) (by omega)
        with ⟨slice, hSlice, hValues⟩
      have hType : cache.type.width = s.type.width := by
        rw [hFirst.lists.type_eq]
      rw [List.mapM_cons]
      simp only [resolveChildren, hType, hSlice]
      rcases hFirst.resolve_child hRows hValues hFloat.1 with
        ⟨cause, hInstance, hResolve⟩ |
          ⟨child, answer, cache', hInstance, hResolve, hKept, hFound⟩
      · rw [hInstance, hResolve]
        exact .inl ⟨cause, rfl, rfl⟩
      · rw [hInstance, hResolve]
        rcases ih hConsecutive (by omega) (by omega) hFloat.2 with
          ⟨cause, hChildren, hResolveAll⟩ |
            ⟨children, answers, caches', hChildren, hResolveAll,
              hKeptAll, hFoundAll⟩
        · refine .inl ⟨cause, ?_, ?_⟩
          · simp only [hChildren, Bind.bind, Except.bind]
          · simp only [hResolveAll, Bind.bind, Except.bind]
        · refine .inr ⟨child :: children, answer :: answers,
            cache' :: caches', ?_, ?_, .cons hKept hKeptAll, ?_⟩
          · simp only [hChildren, Bind.bind, Except.bind]
            rfl
          · simp only [hResolveAll, Bind.bind, Except.bind]
          · rw [List.zipWith_cons_cons, hFound, hFoundAll]

/- Children are wired as the reading of their row wires them. -/
theorem wireChildren_eq
    (slots : List (Slot ρ))
    (caches : List (IdentityCache Record))
    (answers : List (Option Nat))
    (reading : RowReading)
    (hFound : List.zipWith foundIn caches answers = reading.children) :
    wireChildren slots caches answers = reading.wire slots := by
  funext x
  rw [wireChildren, RowReading.wire, ← hFound]
  clear hFound
  induction slots generalizing caches answers x with
  | nil => rfl
  | cons slot slots ih =>
      cases caches with
      | nil => rfl
      | cons cache caches =>
          cases answers with
          | nil => rfl
          | cons answer answers =>
              simp only [List.zip_cons_cons, List.zipWith_cons_cons,
                List.foldl_cons]
              exact ih _ _ _

/-
  The state after some rows that have roots: the caches know
  these rows, and the roots are those of their readings.
-/
structure Mirrors
    (make : Record → ρ)
    (slots : List (Slot ρ))
    (rows : List (List Value))
    (root : Section)
    (sections : List Section)
    (past : List (List Value))
    (readings : List RowReading)
    (state : Nesting ρ) : Prop where
  kept : ∀ row ∈ past, root.present row = true
  keys_eq : readings.map RowReading.key = past.map root.key
  root_keeps :
    ∃ records, root.Keeps rows (root.keys past) records state.roots
  roots_eq :
    state.roots.instances = RowReading.assemble make slots readings
  children_keep : KeepAll rows past sections state.children

/- The columns of the root and of the slots make up the rows. -/
structure Covers
    (root : Section)
    (sections : List Section)
    (expected : Nat) : Prop where
  starts : root.offset = 0
  consecutive : Section.Consecutive root.type.width sections
  width_eq :
    expected =
      root.type.width + (sections.map fun s => s.type.width).sum

namespace Mirrors

variable {make : Record → ρ}
variable {slots : List (Slot ρ)}
variable {root : Section}
variable {sections : List Section}
variable {readings : List RowReading}
variable {state : Nesting ρ}

/- The keys of the readings are those of the rows. -/
theorem keys_readings
    (hMirrors :
      Mirrors make slots rows root sections past readings state) :
    RowReading.keys readings = root.keys past := by
  have hKept : past.filter root.present = past :=
    List.filter_eq_self.mpr hMirrors.kept
  rw [RowReading.keys, Section.keys, hKept, hMirrors.keys_eq]

/- A row without a root changes nothing that matters. -/
theorem step_absent
    (hMirrors :
      Mirrors make slots rows root sections past readings state)
    (hCovers : Covers root sections expected)
    (hColumns : columns.length = expected)
    (hRow : row.length = expected)
    (hAbsent : root.present row = false) :
    RowReading.ofRow expected root sections rows row = .ok none ∧
    ∃ state',
      Nesting.step slots make expected state ⟨columns, row⟩ =
        .ok state' ∧
      Mirrors make slots rows root sections past readings state' := by
  rcases hMirrors.root_keeps with ⟨records, hKeeps⟩
  have hWidth := hCovers.width_eq
  have hStarts := hCovers.starts
  rcases @Section.exists_slice root columns row (by omega) (by omega)
    with ⟨slice, hSlice, hValues⟩
  rw [hStarts, Nat.zero_add] at hSlice
  have hType : state.roots.type = root.type := hKeeps.lists.type_eq
  rcases hKeeps.resolve_absent make hValues hAbsent with
    ⟨roots, hResolve, hKept, hSame⟩
  have hInstance : root.instanceOf rows row = .ok none := by
    simp [Section.instanceOf, hAbsent]
  refine ⟨?_, ⟨roots, state.children⟩, ?_, ?_⟩
  · rw [RowReading.ofRow, if_neg (not_not_intro hRow), hInstance]
    rfl
  · have hRowWidth : Row.width ⟨columns, row⟩ = expected := hRow
    rw [Nesting.step, if_neg (not_not_intro hRowWidth)]
    simp only [hType, hSlice, hResolve, Bind.bind, Except.bind]
  · exact { hMirrors with
      root_keeps := ⟨records, hKept⟩
      roots_eq := hSame.trans hMirrors.roots_eq }

/-
  One more reading: its root is known by now, and the children
  of its row are wired to it.
-/
theorem concat
    {records : List Record}
    {roots : IdentityCache ρ}
    {caches : List (IdentityCache Record)}
    (hMirrors :
      Mirrors make slots rows root sections past readings state)
    (reading : RowReading)
    (hKey : reading.key = root.key row)
    (hPresent : root.present row = true)
    (hKept :
      root.Keeps rows (note (root.keys past) (root.key row)) records
        roots)
    (hMade :
      roots.instances =
        if root.key row ∈ root.keys past then state.roots.instances
        else state.roots.instances ++ [make reading.root])
    (hChildren : KeepAll rows (past ++ [row]) sections caches) :
    Mirrors make slots rows root sections (past ++ [row])
      (readings ++ [reading])
      ⟨{ roots with
          instances :=
            roots.instances.modify
              ((note (root.keys past) (root.key row)).idxOf
                (root.key row))
              (reading.wire slots) }, caches⟩ := by
  have hKeys := hMirrors.keys_readings
  have hWired :
      roots.instances.modify
          ((note (root.keys past) (root.key row)).idxOf (root.key row))
          (reading.wire slots) =
        RowReading.assemble make slots (readings ++ [reading]) := by
    rw [RowReading.assemble_concat, RowReading.keys_concat, hKeys,
      hKey, hMade, hMirrors.roots_eq]
  have hLength :
      (RowReading.assemble make slots (readings ++ [reading])).length =
        (note (root.keys past) (root.key row)).length := by
    rw [RowReading.length_assemble, RowReading.keys_concat, hKeys, hKey]
  constructor
  case kept =>
    intro other hMem
    rcases List.mem_append.mp hMem with hOld | hLast
    · exact hMirrors.kept other hOld
    · rw [List.mem_singleton.mp hLast]
      exact hPresent
  case keys_eq =>
    rw [List.map_append, List.map_append, hMirrors.keys_eq,
      List.map_singleton, List.map_singleton, hKey]
  case root_keeps =>
    rw [Section.keys_concat_of_present past hPresent]
    refine ⟨records, hKept.lists.withInstances ?_, hKept.made⟩
    rw [hWired, hLength]
  case roots_eq => exact hWired
  case children_keep => exact hChildren

/-
  A row with a root is read and taken in alike, or both fail
  for the same cause.
-/
theorem step_present
    (hMirrors :
      Mirrors make slots rows root sections past readings state)
    (hCovers : Covers root sections expected)
    (hColumns : columns.length = expected)
    (hRow : row.length = expected)
    (hRows : rows = past ++ row :: rest)
    (hPresent : root.present row = true)
    (hFloat : ∀ s ∈ root :: sections, ∀ bits, s.key row ≠ .float bits) :
    (∃ cause,
      RowReading.ofRow expected root sections rows row =
        .error cause ∧
      Nesting.step slots make expected state ⟨columns, row⟩ =
        .error cause) ∨
    ∃ reading state',
      RowReading.ofRow expected root sections rows row =
        .ok (some reading) ∧
      Nesting.step slots make expected state ⟨columns, row⟩ =
        .ok state' ∧
      Mirrors make slots rows root sections (past ++ [row])
        (readings ++ [reading]) state' := by
  rcases hMirrors.root_keeps with ⟨records, hKeeps⟩
  rw [List.forall_mem_cons] at hFloat
  have hWidth := hCovers.width_eq
  have hStarts := hCovers.starts
  rcases @Section.exists_slice root columns row (by omega) (by omega)
    with ⟨slice, hSlice, hValues⟩
  rw [hStarts, Nat.zero_add] at hSlice
  have hType : state.roots.type = root.type := hKeeps.lists.type_eq
  have hRowWidth : Row.width ⟨columns, row⟩ = expected := hRow
  have hFirst (hNew : root.key row ∉ root.keys past) :
      rows.find? (root.shows (root.key row)) = some row := by
    rw [hRows]
    exact Section.find?_shows_of_new hPresent hNew
  rw [RowReading.ofRow, if_neg (not_not_intro hRow), Nesting.step,
    if_neg (not_not_intro hRowWidth)]
  simp only [hType, hSlice]
  rcases hKeeps.resolve_present make hValues hPresent hFloat.1 hFirst
    with ⟨cause, hInstance, hResolve⟩ |
      ⟨r, records', roots, hInstance, hResolve, hKept, _, hMade⟩
  · rw [hInstance, hResolve]
    exact .inl ⟨cause, rfl, rfl⟩
  · rw [hInstance, hResolve]
    rcases @resolveChildren_eq rows past rest row columns expected _ _ _
        hRows hMirrors.children_keep hCovers.consecutive
        (by omega) (by omega) hFloat.2 with
      ⟨cause, hChildren, hResolveAll⟩ |
        ⟨children, answers, caches, hChildren, hResolveAll, hKeptAll,
          hFound⟩
    · refine .inl ⟨cause, ?_, ?_⟩
      · simp only [hChildren, Bind.bind, Except.bind]
      · simp only [hResolveAll, Bind.bind, Except.bind]
    · have hInstances : roots.instances =
          if root.key row ∈ root.keys past then state.roots.instances
          else state.roots.instances ++ [make r] := by
        split at hMade
        · rename_i hKnown
          rw [if_pos hKnown, hMade.2]
        · rename_i hNew
          rw [if_neg hNew, hMade.2]
      have hNext :=
        hMirrors.concat ⟨root.key row, r, children⟩ rfl hPresent hKept
          hInstances hKeptAll
      rw [← wireChildren_eq slots caches answers _ hFound] at hNext
      refine .inr ⟨_, _, ?_, ?_, hNext⟩
      · simp only [hChildren, Bind.bind, Except.bind]
      · simp only [hResolveAll, Bind.bind, Except.bind]

/-
  Rows are read as they are taken in, up to the first error.
  The induction is on the rows that are left.
-/
theorem foldlM_step_eq
    {left : List (List Value)}
    (hMirrors :
      Mirrors make slots rows root sections past readings state)
    (hCovers : Covers root sections expected)
    (hColumns : columns.length = expected)
    (hRows : rows = past ++ left.filter root.present)
    (hFloat :
      ∀ row ∈ left, ∀ s ∈ root :: sections, ∀ bits,
        s.key row ≠ .float bits) :
    (do
      let state ← (left.map fun row => (⟨columns, row⟩ : Row)).foldlM
        (Nesting.step slots make expected) state
      .ok state.roots.instances) =
      (do
        let more ←
          left.mapM (RowReading.ofRow expected root sections rows)
        .ok
          (RowReading.assemble make slots
            (readings ++ more.filterMap id)) :
        Except MappingError (List ρ)) := by
  induction left generalizing past readings state with
  | nil =>
      rw [List.mapM_nil, List.map_nil, List.foldlM_nil]
      change Except.ok _ = Except.ok _
      rw [hMirrors.roots_eq, List.filterMap_nil, List.append_nil]
  | cons row left ih =>
      rw [List.forall_mem_cons] at hFloat
      rw [List.map_cons, List.foldlM_cons, List.mapM_cons]
      by_cases hRow : row.length = expected
      · cases hPresent : root.present row with
        | false =>
            rcases hMirrors.step_absent hCovers hColumns hRow hPresent
              with ⟨hRead, next, hStep, hNext⟩
            have hLeft : rows = past ++ left.filter root.present := by
              rw [hRows, List.filter_cons_of_neg (by simp [hPresent])]
            rw [hRead, hStep]
            refine (ih hNext hLeft hFloat.2).trans ?_
            cases left.mapM
              (RowReading.ofRow expected root sections rows) <;> rfl
        | true =>
            have hLeft :
                rows = past ++ row :: left.filter root.present := by
              rw [hRows, List.filter_cons_of_pos hPresent]
            rcases hMirrors.step_present hCovers hColumns hRow hLeft
              hPresent hFloat.1 with
              ⟨cause, hRead, hStep⟩ |
                ⟨reading, next, hRead, hStep, hNext⟩
            · rw [hRead, hStep]
              rfl
            · have hLeft' :
                  rows =
                    (past ++ [row]) ++ left.filter root.present := by
                rw [hLeft, List.append_assoc, List.singleton_append]
              rw [hRead, hStep]
              refine (ih hNext hLeft' hFloat.2).trans ?_
              simp only [List.append_assoc, List.singleton_append]
              cases left.mapM
                (RowReading.ofRow expected root sections rows) <;> rfl
      · have hRead :
            RowReading.ofRow expected root sections rows row =
              .error (.widthMismatch expected row.length) :=
          if_pos hRow
        have hStep :
            Nesting.step slots make expected state ⟨columns, row⟩ =
              .error (.widthMismatch expected row.length) :=
          if_pos hRow
        rw [hRead, hStep]
        rfl

end Mirrors

/- The caches of the slots start without keys. -/
theorem start_slots
    (rows : List (List Value))
    (slots : List (Slot ρ))
    (offset : Nat) :
    (∃ cause,
      EntityType.sections offset (slots.map Slot.type) =
        .error cause ∧
      (slots.mapM fun s => (IdentityCache.start s.type :
        Except MappingError (IdentityCache Record))) = .error cause) ∨
    ∃ sections caches,
      EntityType.sections offset (slots.map Slot.type) =
        .ok sections ∧
      (slots.mapM fun s => (IdentityCache.start s.type :
        Except MappingError (IdentityCache Record))) = .ok caches ∧
      KeepAll rows [] sections caches := by
  induction slots generalizing offset with
  | nil => exact .inr ⟨[], [], rfl, rfl, .nil⟩
  | cons slot slots ih =>
      rw [List.map_cons, List.mapM_cons, EntityType.sections]
      cases hPosition : slot.type.identityPosition with
      | error cause =>
          refine .inl ⟨cause, rfl, ?_⟩
          rw [IdentityCache.start, hPosition]
          rfl
      | ok i =>
          have hFirst :
              Section.Keeps ⟨slot.type, i, offset⟩ rows
                (Section.keys ⟨slot.type, i, offset⟩ []) []
                (⟨slot.type, i, none, [], []⟩ : IdentityCache Record) :=
            ⟨IdentityCache.lists_start _ _, .nil⟩
          rw [IdentityCache.start_eq hPosition]
          rcases ih (offset + slot.type.width) with
            ⟨cause, hSections, hStarts⟩ |
              ⟨sections, caches, hSections, hStarts, hKeep⟩
          · refine .inl ⟨cause, ?_, ?_⟩
            · rw [hSections]
              rfl
            · simp only [hStarts, Bind.bind, Except.bind]
          · have hAll :
                KeepAll rows [] (⟨slot.type, i, offset⟩ :: sections)
                  (⟨slot.type, i, none, [], []⟩ :: caches) :=
              .cons hFirst hKeep
            refine .inr ⟨_, _, ?_, ?_, hAll⟩
            · rw [hSections]
              rfl
            · simp only [hStarts, Bind.bind, Except.bind]
              rfl

/- The sections of the root and of the slots make up the rows. -/
theorem covers_of_sections
    {root : EntityType}
    {slots : List (Slot ρ)}
    {sections : List Section}
    (hSections :
      EntityType.sections root.width (slots.map Slot.type) =
        .ok sections)
    (i : Nat) :
    Covers ⟨root, i, 0⟩ sections (expectedWidth root slots) := by
  rcases Section.consecutive_sections hSections with
    ⟨hConsecutive, hTypes⟩
  have hWidths :
      (sections.map fun s => s.type.width) =
        slots.map fun s => s.type.width := by
    have hMap := congrArg (List.map EntityType.width) hTypes
    rwa [List.map_map, List.map_map] at hMap
  refine ⟨rfl, hConsecutive, ?_⟩
  rw [hWidths]
  rfl

/- Before the first row there are no keys and no readings. -/
theorem mirrors_start
    {root : EntityType}
    {rows : List (List Value)}
    {sections : List Section}
    {caches : List (IdentityCache Record)}
    (make : Record → ρ)
    (slots : List (Slot ρ))
    (i : Nat)
    (hKeep : KeepAll rows [] sections caches) :
    Mirrors make slots rows ⟨root, i, 0⟩ sections [] []
      ⟨⟨root, i, none, [], []⟩, caches⟩ where
  kept _ hMem := absurd hMem List.not_mem_nil
  keys_eq := rfl
  root_keeps := ⟨[], IdentityCache.lists_start _ _, .nil⟩
  roots_eq := rfl
  children_keep := hKeep

end Nesting

------------------------------------------------------------
-- Identity columns
------------------------------------------------------------

/- A section has its identity in one of the identity columns. -/
theorem Section.mem_identityColumns
    {offset : Nat}
    {types : List EntityType}
    {sections : List Section}
    (hSections : EntityType.sections offset types = .ok sections) :
    ∀ s ∈ sections,
      s.offset + s.identity ∈
        EntityType.identityColumns offset types := by
  induction types generalizing offset sections with
  | nil =>
      cases hSections
      exact nofun
  | cons e types ih =>
      rw [EntityType.sections] at hSections
      cases hIndex : e.identityIndex? with
      | none =>
          rw [EntityType.identityPosition, hIndex] at hSections
          cases hSections
      | some i =>
          cases hRest :
              EntityType.sections (offset + e.width) types with
          | error cause =>
              rw [EntityType.identityPosition, hIndex, hRest]
                at hSections
              cases hSections
          | ok rest =>
              rw [EntityType.identityPosition, hIndex, hRest]
                at hSections
              cases hSections
              rw [EntityType.identityColumns, hIndex]
              intro s hMem
              rcases List.mem_cons.mp hMem with rfl | hOther
              · exact List.mem_append_left _ List.mem_cons_self
              · exact List.mem_append_right _ (ih hRest s hOther)

/- The key of a row is no float if its identity is none. -/
theorem Section.key_ne_float
    {s : Section}
    {row : List Value}
    (hFloat : ∀ x, row[s.offset + s.identity]? ≠ some (.float x)) :
    ∀ bits, s.key row ≠ .float bits := by
  intro bits hKey
  unfold key IdentityCache.keyAt at hKey
  split at hKey
  · rename_i v hValue
    have hColumn : row[s.offset + s.identity]? = some v := by
      rw [slice, List.getElem?_take] at hValue
      split at hValue
      · rwa [List.getElem?_drop] at hValue
      · cases hValue
    cases v with
    | float x => exact hFloat x hColumn
    | null => cases hKey
    | bool b => cases hKey
    | int n => cases hKey
    | text t => cases hKey
    | blob bytes => cases hKey
  · cases hKey

------------------------------------------------------------
-- Results
------------------------------------------------------------

/-
  On every result whose identity columns hold no float, nested
  hydration gives what it means, row by row and with no state:
  the same roots with the same children wired to them, or the
  same error.
-/
theorem hydrateNested_eq_reference
    {ρ : Type}
    {root : EntityType}
    {slots : List (Slot ρ)}
    {set : ResultSet}
    (make : Record → ρ)
    (hFloat :
      ∀ row ∈ set.rows,
        ∀ i ∈ EntityType.identityColumns 0 (root :: slots.map Slot.type),
          ∀ x, row[i]? ≠ some (.float x)) :
    hydrateNested root make slots set =
      hydrateReference root make slots set := by
  unfold hydrateNested hydrateReference
  cases hPosition : root.identityPosition with
  | error cause =>
      rw [IdentityCache.start, hPosition]
      rfl
  | ok i =>
      let top : Section := ⟨root, i, 0⟩
      let kept := set.rows.filter top.present
      rw [IdentityCache.start_eq hPosition]
      rcases Nesting.start_slots kept slots root.width with
        ⟨cause, hSections, hStarts⟩ |
          ⟨sections, caches, hSections, hStarts, hKeep⟩
      · rw [hSections, hStarts]
        rfl
      · have hAll :
            EntityType.sections 0 (root :: slots.map Slot.type) =
              .ok (top :: sections) := by
          rw [EntityType.sections, hPosition, Nat.zero_add]
          simp only [hSections, Bind.bind, Except.bind]
          rfl
        have hKeys :
            ∀ row ∈ set.rows, ∀ s ∈ top :: sections, ∀ bits,
              s.key row ≠ .float bits := by
          intro row hRow s hMem
          have hColumn := Section.mem_identityColumns hAll s hMem
          exact Section.key_ne_float (hFloat row hRow _ hColumn)
        have hCovers := Nesting.covers_of_sections hSections i
        have hMirrors :
            Nesting.Mirrors make slots kept top sections [] []
              ⟨⟨root, i, none, [], []⟩, caches⟩ :=
          Nesting.mirrors_start make slots i hKeep
        rw [hSections, hStarts]
        simp only [Bind.bind, Except.bind]
        split
        · rfl
        · rename_i hColumns
          exact hMirrors.foldlM_step_eq hCovers (not_not.mp hColumns)
            rfl hKeys

namespace SharedPost

/-
  The first blog is shown by a number and by a truth value, a
  post is shown twice, and one row has a post but no blog.
-/
theorem hydrateNested_reads_each_row :
    let make (r : Record) : Record × List Record := (r, [])
    let set : ResultSet :=
      { columns := ["t1_id", "t1_name", "t2_id", "t2_name"]
        rows :=
          [ [.int 1, .null, .int 7, .null],
            [.null, .null, .int 8, .null],
            [.bool true, .null, .int 7, .text "late"],
            [.int 2, .null, .null, .null] ] }
    (∀ row ∈ set.rows,
      ∀ i ∈ EntityType.identityColumns 0 [blog, post],
        ∀ x, row[i]? ≠ some (.float x)) ∧
      hydrateNested blog make [handedPosts] set =
        hydrateReference blog make [handedPosts] set ∧
      hydrateNested blog make [handedPosts] set =
        .ok
          [ (record blog 1, [record post 7, record post 7]),
            (record blog 2, []) ] := by
  intro make set
  have hColumns : EntityType.identityColumns 0 [blog, post] = [0, 2] :=
    rfl
  have hFloat :
      ∀ row ∈ set.rows,
        ∀ i ∈ EntityType.identityColumns 0 [blog, post],
          ∀ x, row[i]? ≠ some (.float x) := by
    rw [hColumns]
    simp [set]
  exact ⟨hFloat, hydrateNested_eq_reference make hFloat, rfl⟩

end SharedPost

end EntitySql
