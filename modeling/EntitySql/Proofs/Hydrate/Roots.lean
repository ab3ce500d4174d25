import EntitySql.Proofs.Hydrate.Cache

/-
  The roots of a join: the first slice that is not NULL is the
  first root, later rows only add roots, and slices with
  different keys are different roots.

  Key definitions include:
    * `Record.ofValues`
    * `IdentityCache.takeIn`
    * `IdentityCache.TellsApart`, `IdentityCache.Gathers`

  Key theorems include:
    * `IdentityCache.takeIn_cases`
    * `hydrateRoots_append`
    * `hydrateRoots_cons`
    * `hydrateRoots_gathers`
-/

namespace EntitySql

/- The record whose fields are assigned some values in order. -/
def Record.ofValues
    (e : EntityType)
    (values : List Value) : Except MappingError Record :=
  values.zipIdx.foldlM
    (fun r (v, i) => r.assign i v) (Record.default e)

/- The values of a joined row that has no root. -/
def AllNull
    (values : List Value) : Prop :=
  values.all Value.isNull = true

------------------------------------------------------------
-- Taking in slices
------------------------------------------------------------

namespace IdentityCache

/- Take in one slice; the answer is the cache alone. -/
def takeIn
    (cache : IdentityCache Record)
    (slice : Row) : Except MappingError (IdentityCache Record) := do
  let (_, cache) ← cache.resolve id slice
  .ok cache

/- Take in the leading columns of a row. -/
def takeRow
    (width : Nat)
    (cache : IdentityCache Record)
    (row : Row) : Except MappingError (IdentityCache Record) :=
  match row.slice? 0 width with
  | none => .error (.widthMismatch width row.width)
  | some slice => cache.takeIn slice

/- Take in slices in order. -/
def takeAll
    (cache : IdentityCache Record)
    (slices : List Row) : Except MappingError (IdentityCache Record) :=
  slices.foldlM takeIn cache

variable {cache cache' : IdentityCache Record}
variable {slice : Row}
variable {slices : List Row}

/-
  What taking in a slice does. A repeated one changes nothing,
  and one that is NULL or found is only remembered. Any other
  slice is built and added.
-/
theorem takeIn_cases
    (cache : IdentityCache Record)
    (slice : Row) :
    (∃ values answer,
      cache.previous = some (values, answer) ∧
      sameValues values slice.values = true ∧
      cache.takeIn slice = .ok cache) ∨
    (AllNull slice.values ∧
      cache.takeIn slice =
        .ok { cache with previous := some (slice.values, none) }) ∨
    (¬ AllNull slice.values ∧
      ∃ i, cache.find? (cache.keyOf slice) = some i ∧
        cache.takeIn slice =
          .ok { cache with previous := some (slice.values, some i) }) ∨
    (¬ AllNull slice.values ∧
      cache.find? (cache.keyOf slice) = none ∧
      cache.takeIn slice =
        (Record.ofValues cache.type slice.values).map fun r =>
          { cache.add (cache.keyOf slice) r with
            previous :=
              some (slice.values, some cache.instances.length) }) := by
  unfold takeIn
  rcases cache.resolve_cases id slice with
    ⟨values, answer, hPrevious, hSame, hResolve⟩ | hResolve
  · rw [hResolve]
    exact .inl ⟨values, answer, hPrevious, hSame, rfl⟩
  · rw [hResolve, lookUp]
    by_cases hNull : slice.isAllNull = true
    · rw [if_pos hNull]
      exact .inr (.inl ⟨hNull, rfl⟩)
    · rw [if_neg hNull]
      cases hFind : cache.find? (cache.keyOf slice) with
      | some i =>
          refine .inr (.inr (.inl ⟨hNull, i, rfl, ?_⟩))
          simp only [hFind]
          rfl
      | none =>
          have hBuild :
              cache.build slice =
                Record.ofValues cache.type slice.values := rfl
          refine .inr (.inr (.inr ⟨hNull, rfl, ?_⟩))
          simp only [hFind, hBuild]
          cases Record.ofValues cache.type slice.values <;> rfl

/- A slice adds one record, or none. -/
theorem instances_prefix_of_takeIn
    (hTaken : cache.takeIn slice = .ok cache') :
    cache.instances <+: cache'.instances := by
  rcases cache.takeIn_cases slice with
    ⟨_, _, _, _, hCase⟩ | ⟨_, hCase⟩ | ⟨_, _, _, hCase⟩ |
      ⟨_, _, hCase⟩
  case inr.inr.inr =>
    rw [hCase] at hTaken
    cases hBuilt : Record.ofValues cache.type slice.values with
    | error e =>
        rw [hBuilt] at hTaken
        cases hTaken
    | ok r =>
        rw [hBuilt] at hTaken
        cases hTaken
        exact List.prefix_append _ _
  all_goals
    rw [hCase] at hTaken
    cases hTaken
    exact List.prefix_rfl

theorem instances_prefix_of_takeAll
    (hTaken : cache.takeAll slices = .ok cache') :
    cache.instances <+: cache'.instances := by
  induction slices generalizing cache with
  | nil =>
      cases hTaken
      exact List.prefix_rfl
  | cons slice slices ih =>
      rw [takeAll, List.foldlM_cons] at hTaken
      cases hFirst : cache.takeIn slice with
      | error e =>
          rw [hFirst] at hTaken
          cases hTaken
      | ok first =>
          rw [hFirst] at hTaken
          exact (instances_prefix_of_takeIn hFirst).trans (ih hTaken)

theorem exists_takeAll_of_append
    {slices' : List Row}
    (hTaken : cache.takeAll (slices ++ slices') = .ok cache') :
    ∃ middle,
      cache.takeAll slices = .ok middle ∧
      middle.takeAll slices' = .ok cache' := by
  unfold takeAll at hTaken ⊢
  rw [List.foldlM_append] at hTaken
  cases hFirst : slices.foldlM takeIn cache with
  | error e =>
      rw [hFirst] at hTaken
      cases hTaken
  | ok middle =>
      rw [hFirst] at hTaken
      exact ⟨middle, rfl, hTaken⟩

/- Slices that are NULL or can be read can all be taken in. -/
theorem exists_takeAll
    (hReads :
      ∀ slice ∈ slices,
        AllNull slice.values ∨
          ∃ r, Record.ofValues cache.type slice.values = .ok r) :
    ∃ cache', cache.takeAll slices = .ok cache' := by
  induction slices generalizing cache with
  | nil => exact ⟨cache, rfl⟩
  | cons slice slices ih =>
      rw [List.forall_mem_cons] at hReads
      rw [takeAll, List.foldlM_cons]
      rcases cache.takeIn_cases slice with
        ⟨_, _, _, _, hCase⟩ | ⟨_, hCase⟩ | ⟨_, _, _, hCase⟩ |
          ⟨hPresent, _, hCase⟩
      case inr.inr.inr =>
        rcases hReads.1 with hNull | ⟨r, hRead⟩
        · exact absurd hNull hPresent
        · rw [hCase, hRead]
          exact ih hReads.2
      all_goals
        rw [hCase]
        exact ih hReads.2

/- The first slice is the first root, unless it is NULL. -/
theorem instances_of_takeAll
    {e : EntityType}
    {i : Nat}
    (hPresent : ¬ AllNull slice.values)
    (hTaken :
      takeAll ⟨e, i, none, [], []⟩ (slice :: slices) = .ok cache') :
    ∃ r rest,
      Record.ofValues e slice.values = .ok r ∧
      cache'.instances = r :: rest := by
  rw [takeAll, List.foldlM_cons] at hTaken
  rcases takeIn_cases ⟨e, i, none, [], []⟩ slice with
    ⟨_, _, hPrevious, _⟩ | ⟨hNull, _⟩ | ⟨_, _, hFound, _⟩ |
      ⟨_, _, hCase⟩
  · cases hPrevious
  · exact absurd hNull hPresent
  · cases hFound
  · rw [hCase] at hTaken
    cases hRead : Record.ofValues e slice.values with
    | error cause =>
        rw [hRead] at hTaken
        cases hTaken
    | ok r =>
        rw [hRead] at hTaken
        rcases instances_prefix_of_takeAll hTaken with ⟨rest, hRest⟩
        exact ⟨r, rest, rfl, hRest.symm⟩

------------------------------------------------------------
-- Different slices
------------------------------------------------------------

/- The key of a root, as a slice shows it at a position. -/
def keyAt
    (i : Nat)
    (values : List Value) : IdentityKey :=
  match values[i]? with
  | some v => v.identityKey
  | none => .null

/- Values that a cache takes for one root are the same. -/
def TellsApart
    (i : Nat)
    (slices : List (List Value)) : Prop :=
  ∀ a ∈ slices, ∀ b ∈ slices, ¬ AllNull a → ¬ AllNull b →
    keyAt i a = keyAt i b ∨ sameValues a b = true → a = b

/-
  The cache of an entity type has gathered some different
  slices: each was built, and is found by its key.
-/
structure Gathers
    (e : EntityType)
    (i : Nat)
    (cache : IdentityCache Record)
    (gathered : List (List Value)) : Prop where
  type_eq : cache.type = e
  keyPosition_eq : cache.keyPosition = i
  positions_eq : cache.positions = (gathered.map (keyAt i)).zipIdx
  built :
    List.Forall₂ (fun values r => Record.ofValues e values = .ok r)
      gathered cache.instances
  nodup : gathered.Nodup
  present : ∀ values ∈ gathered, ¬ AllNull values
  previous_eq :
    ∀ values answer, cache.previous = some (values, answer) →
      AllNull values ∨ values ∈ gathered

namespace Gathers

variable {e : EntityType}
variable {i : Nat}
variable {gathered : List (List Value)}

theorem find?_eq_none_iff
    (hGathers : Gathers e i cache gathered)
    (key : IdentityKey) :
    cache.find? key = none ↔ key ∉ gathered.map (keyAt i) := by
  rw [find?, hGathers.positions_eq, List.lookup_eq_none_iff]
  constructor
  · intro hOther hMem
    rcases List.getElem_of_mem hMem with ⟨n, hn, hKey⟩
    have hPair : (key, n) ∈ (gathered.map (keyAt i)).zipIdx := by
      rw [List.mk_mem_zipIdx_iff_getElem?, List.getElem?_eq_getElem hn,
        hKey]
    simpa using hOther _ hPair
  · intro hNew pair hPair
    have hMem := List.fst_mem_of_mem_zipIdx hPair
    rw [bne_iff_ne]
    rintro rfl
    exact hNew hMem

/- What was kept of another slice does not matter. -/
theorem withPrevious
    {values : List Value}
    (hGathers : Gathers e i cache gathered)
    (hPrevious : AllNull values ∨ values ∈ gathered)
    (answer : Option Nat) :
    Gathers e i { cache with previous := some (values, answer) }
      gathered := by
  refine { hGathers with previous_eq := ?_ }
  intro other answer' hOther
  cases hOther
  exact hPrevious

/- A slice with a new key may be added with its record. -/
theorem add
    {values : List Value}
    {r : Record}
    (hGathers : Gathers e i cache gathered)
    (hPresent : ¬ AllNull values)
    (hNew : values ∉ gathered)
    (hRead : Record.ofValues e values = .ok r) :
    Gathers e i (cache.add (keyAt i values) r)
      (gathered ++ [values]) where
  type_eq := hGathers.type_eq
  keyPosition_eq := hGathers.keyPosition_eq
  positions_eq := by
    rw [IdentityCache.add, hGathers.positions_eq, List.map_append,
      List.zipIdx_append, List.length_map, hGathers.built.length_eq,
      Nat.zero_add]
    rfl
  built := List.rel_append hGathers.built (.cons hRead .nil)
  nodup := List.nodup_append.mpr
    ⟨hGathers.nodup, List.nodup_singleton _, by
      rintro a ha b hb rfl
      exact hNew (List.mem_singleton.mp hb ▸ ha)⟩
  present := by
    intro other hMem
    rcases List.mem_append.mp hMem with hOld | hLast
    · exact hGathers.present other hOld
    · rwa [List.mem_singleton.mp hLast]
  previous_eq := by
    intro other answer hPrevious
    exact (hGathers.previous_eq other answer hPrevious).imp_right
      (List.mem_append_left _)

/- One more slice is gathered, unless it is NULL. -/
theorem takeIn
    (hGathers : Gathers e i cache gathered)
    (hTells : TellsApart i (slice.values :: gathered))
    (hReads :
      AllNull slice.values ∨
        ∃ r, Record.ofValues e slice.values = .ok r) :
    ∃ cache' gathered',
      cache.takeIn slice = .ok cache' ∧
      Gathers e i cache' gathered' ∧
      ∀ values,
        values ∈ gathered' ↔
          values ∈ gathered ∨
            values = slice.values ∧ ¬ AllNull values := by
  have hKey : cache.keyOf slice = keyAt i slice.values := by
    unfold keyOf
    rw [hGathers.keyPosition_eq]
    rfl
  have hSlice {other : List Value}
      (hPresent : ¬ AllNull slice.values)
      (hMem : other ∈ gathered)
      (hSame :
        keyAt i other = keyAt i slice.values ∨
          sameValues other slice.values = true) :
      slice.values ∈ gathered := by
    rw [← hTells other (List.mem_cons_of_mem _ hMem) slice.values
      List.mem_cons_self (hGathers.present other hMem) hPresent hSame]
    exact hMem
  -- A slice that is NULL, or gathered before, changes nothing.
  have hOld (hKnown : AllNull slice.values ∨ slice.values ∈ gathered)
      (values : List Value) :
      values ∈ gathered ↔
        values ∈ gathered ∨
          values = slice.values ∧ ¬ AllNull values := by
    constructor
    · exact .inl
    · rintro (hMem | ⟨rfl, hPresent⟩)
      · exact hMem
      · exact hKnown.resolve_left hPresent
  rcases cache.takeIn_cases slice with
    ⟨values, answer, hPrevious, hSame, hCase⟩ | ⟨hNull, hCase⟩ |
      ⟨hPresent, n, hFound, hCase⟩ | ⟨hPresent, hFound, hCase⟩
  case inl =>
    have hKnown : AllNull slice.values ∨ slice.values ∈ gathered := by
      by_cases hNull : AllNull slice.values
      · exact .inl hNull
      · rcases hGathers.previous_eq values answer hPrevious with
          hPreviousNull | hMem
        · unfold AllNull at hPreviousNull hNull
          rw [all_isNull_eq_of_sameValues hSame] at hPreviousNull
          exact absurd hPreviousNull hNull
        · exact .inr (hSlice hNull hMem (.inr hSame))
    exact ⟨cache, gathered, hCase, hGathers, hOld hKnown⟩
  case inr.inl =>
    exact ⟨_, gathered, hCase,
      hGathers.withPrevious (.inl hNull) none, hOld (.inl hNull)⟩
  case inr.inr.inl =>
    have hMem : keyAt i slice.values ∈ gathered.map (keyAt i) := by
      by_contra hNew
      rw [← hKey, ← hGathers.find?_eq_none_iff, hFound] at hNew
      cases hNew
    rcases List.mem_map.mp hMem with ⟨other, hOther, hSame⟩
    have hKnown := hSlice hPresent hOther (.inl hSame)
    exact ⟨_, gathered, hCase,
      hGathers.withPrevious (.inr hKnown) (some n),
      hOld (.inr hKnown)⟩
  case inr.inr.inr =>
    rcases hReads.resolve_left hPresent with ⟨r, hRead⟩
    have hNew : slice.values ∉ gathered := by
      intro hMem
      rw [hGathers.find?_eq_none_iff, hKey] at hFound
      exact hFound (List.mem_map_of_mem hMem)
    rw [hGathers.type_eq, hRead, hKey] at hCase
    have hAdded := hGathers.add hPresent hNew hRead
    refine ⟨_, _, hCase,
      hAdded.withPrevious (.inr (by simp)) _, ?_⟩
    intro values
    rw [List.mem_append, List.mem_singleton]
    constructor
    · rintro (hMem | rfl)
      · exact .inl hMem
      · exact .inr ⟨rfl, hPresent⟩
    · rintro (hMem | ⟨rfl, _⟩)
      · exact .inl hMem
      · exact .inr rfl

/- All slices are gathered that are not NULL. -/
theorem takeAll
    (hGathers : Gathers e i cache gathered)
    (hTells : TellsApart i (gathered ++ slices.map Row.values))
    (hReads :
      ∀ slice ∈ slices,
        AllNull slice.values ∨
          ∃ r, Record.ofValues e slice.values = .ok r) :
    ∃ cache' gathered',
      cache.takeAll slices = .ok cache' ∧
      Gathers e i cache' gathered' ∧
      ∀ values,
        values ∈ gathered' ↔
          values ∈ gathered ∨
            values ∈ slices.map Row.values ∧ ¬ AllNull values := by
  induction slices generalizing cache gathered with
  | nil => exact ⟨cache, gathered, rfl, hGathers, by simp⟩
  | cons slice slices ih =>
      rw [List.forall_mem_cons] at hReads
      have hFirst : TellsApart i (slice.values :: gathered) := by
        intro a ha b hb
        apply hTells a _ b _
        all_goals
          simp only [List.mem_cons] at ha hb
          simp only [List.mem_append, List.map_cons, List.mem_cons]
          tauto
      rcases hGathers.takeIn hFirst hReads.1 with
        ⟨first, gathered₁, hTaken, hGathers₁, hMem₁⟩
      have hRest :
          TellsApart i (gathered₁ ++ slices.map Row.values) := by
        intro a ha b hb
        apply hTells a _ b _
        all_goals
          simp only [List.mem_append, hMem₁] at ha hb
          simp only [List.mem_append, List.map_cons, List.mem_cons]
          tauto
      rcases ih hGathers₁ hRest hReads.2 with
        ⟨cache', gathered', hRun, hGathers', hMem'⟩
      refine ⟨cache', gathered', ?_, hGathers', ?_⟩
      · rw [IdentityCache.takeAll, List.foldlM_cons, hTaken]
        exact hRun
      · intro values
        rw [hMem', hMem₁, List.map_cons, List.mem_cons]
        tauto

end Gathers

end IdentityCache

------------------------------------------------------------
-- Roots of a result
------------------------------------------------------------

section roots

variable {e : EntityType}
variable {i : Nat}
variable {columns : List String}
variable {rows rows' : List (List Value)}
variable {found : List Record}

/- The leading columns of every row. -/
def ResultSet.slices
    (set : ResultSet)
    (width : Nat) : List Row :=
  set.rows.map fun values =>
    ⟨set.columns.take width, values.take width⟩

/- Every row has all columns of a root. -/
structure ResultSet.Wide
    (set : ResultSet)
    (width : Nat) : Prop where
  columns : width ≤ set.columns.length
  rows : ∀ values ∈ set.rows, width ≤ values.length

/- Roots are hydrated from the leading columns of the rows. -/
theorem hydrateRoots_eq
    {set : ResultSet}
    (hIdentity : e.identityIndex? = some i)
    (hWide : set.Wide e.width) :
    hydrateRoots e set =
      (IdentityCache.takeAll ⟨e, i, none, [], []⟩
        (set.slices e.width)).map IdentityCache.instances := by
  have hStart :
      IdentityCache.start e =
        .ok (⟨e, i, none, [], []⟩ : IdentityCache Record) := by
    unfold IdentityCache.start EntityType.identityPosition
    rw [hIdentity]
    rfl
  have hRange {α : Type} {xs : List α} (hBound : e.width ≤ xs.length) :
      Row.range? xs 0 e.width = some (xs.take e.width) :=
    if_pos ⟨Nat.zero_le _, hBound⟩
  have hFold (start : IdentityCache Record) :
      set.rowViews.foldlM (IdentityCache.takeRow e.width) start =
        start.takeAll (set.slices e.width) := by
    rcases set with ⟨columns, rows⟩
    rcases hWide with ⟨hColumns, hRows⟩
    unfold ResultSet.rowViews ResultSet.slices
    dsimp only at hColumns hRows ⊢
    induction rows generalizing start with
    | nil => rfl
    | cons values rows ih =>
        rw [List.forall_mem_cons] at hRows
        have hSlice :
            Row.slice? ⟨columns, values⟩ 0 e.width =
              some ⟨columns.take e.width, values.take e.width⟩ := by
          unfold Row.slice?
          rw [hRange hColumns, hRange hRows.1]
          rfl
        rw [List.map_cons, List.foldlM_cons, IdentityCache.takeRow,
          hSlice, List.map_cons, IdentityCache.takeAll, List.foldlM_cons]
        congr 1
        funext next
        exact ih next hRows.2
  unfold hydrateRoots
  rw [hStart]
  exact congrArg (Except.map IdentityCache.instances) (hFold _)

theorem exists_takeAll_of_hydrateRoots
    {set : ResultSet}
    (hIdentity : e.identityIndex? = some i)
    (hWide : set.Wide e.width)
    (hFound : hydrateRoots e set = .ok found) :
    ∃ cache : IdentityCache Record,
      IdentityCache.takeAll ⟨e, i, none, [], []⟩
          (set.slices e.width) = .ok cache ∧
        found = cache.instances := by
  rw [hydrateRoots_eq hIdentity hWide] at hFound
  cases hTaken :
      IdentityCache.takeAll ⟨e, i, none, [], []⟩
        (set.slices e.width) with
  | error cause =>
      rw [hTaken] at hFound
      cases hFound
  | ok cache =>
      rw [hTaken] at hFound
      cases hFound
      exact ⟨cache, rfl, rfl⟩

/- More rows only add roots, at the end. -/
theorem hydrateRoots_append
    (hIdentity : e.identityIndex? = some i)
    (hWide : (ResultSet.mk columns (rows ++ rows')).Wide e.width)
    (hFound : hydrateRoots e ⟨columns, rows ++ rows'⟩ = .ok found) :
    ∃ front,
      hydrateRoots e ⟨columns, rows⟩ = .ok front ∧
      front <+: found := by
  have hFront : (ResultSet.mk columns rows).Wide e.width :=
    ⟨hWide.columns,
      fun values hMem => hWide.rows values (List.mem_append_left _ hMem)⟩
  rcases exists_takeAll_of_hydrateRoots hIdentity hWide hFound with
    ⟨cache, hTaken, rfl⟩
  rw [ResultSet.slices, List.map_append] at hTaken
  rcases IdentityCache.exists_takeAll_of_append hTaken with
    ⟨middle, hMiddle, hRest⟩
  refine ⟨middle.instances, ?_,
    IdentityCache.instances_prefix_of_takeAll hRest⟩
  rw [hydrateRoots_eq hIdentity hFront, ResultSet.slices, hMiddle]
  rfl

/- The first row has the first root, unless it has none. -/
theorem hydrateRoots_cons
    {values : List Value}
    (hIdentity : e.identityIndex? = some i)
    (hWide : (ResultSet.mk columns (values :: rows)).Wide e.width)
    (hPresent : ¬ AllNull (values.take e.width))
    (hFound : hydrateRoots e ⟨columns, values :: rows⟩ = .ok found) :
    ∃ r rest,
      Record.ofValues e (values.take e.width) = .ok r ∧
      found = r :: rest := by
  rcases exists_takeAll_of_hydrateRoots hIdentity hWide hFound with
    ⟨cache, hTaken, rfl⟩
  exact IdentityCache.instances_of_takeAll hPresent hTaken

/- Rows whose roots can be read have roots. -/
theorem exists_hydrateRoots
    {set : ResultSet}
    (hIdentity : e.identityIndex? = some i)
    (hWide : set.Wide e.width)
    (hReads :
      ∀ values ∈ set.rows,
        AllNull (values.take e.width) ∨
          ∃ r, Record.ofValues e (values.take e.width) = .ok r) :
    ∃ found, hydrateRoots e set = .ok found := by
  have hSlices :
      ∀ slice ∈ set.slices e.width,
        AllNull slice.values ∨
          ∃ r, Record.ofValues e slice.values = .ok r := by
    intro slice hMem
    rcases List.mem_map.mp hMem with ⟨values, hRow, rfl⟩
    exact hReads values hRow
  rcases @IdentityCache.exists_takeAll ⟨e, i, none, [], []⟩
      (set.slices e.width) hSlices with ⟨cache, hTaken⟩
  exact ⟨cache.instances, by
    rw [hydrateRoots_eq hIdentity hWide, hTaken]
    rfl⟩

/-
  If different roots have different keys, there is one root
  for every slice that is not NULL.
-/
theorem hydrateRoots_gathers
    {set : ResultSet}
    (hIdentity : e.identityIndex? = some i)
    (hWide : set.Wide e.width)
    (hTells :
      IdentityCache.TellsApart i
        (set.rows.map fun values => values.take e.width))
    (hReads :
      ∀ values ∈ set.rows,
        AllNull (values.take e.width) ∨
          ∃ r, Record.ofValues e (values.take e.width) = .ok r) :
    ∃ found gathered,
      hydrateRoots e set = .ok found ∧
      List.Forall₂ (fun values r => Record.ofValues e values = .ok r)
        gathered found ∧
      gathered.Nodup ∧
      ∀ values,
        values ∈ gathered ↔
          values ∈ set.rows.map (fun values => values.take e.width) ∧
            ¬ AllNull values := by
  have hValues :
      (set.slices e.width).map Row.values =
        set.rows.map fun values => values.take e.width := by
    rw [ResultSet.slices, List.map_map]
    rfl
  have hStart :
      IdentityCache.Gathers e i ⟨e, i, none, [], []⟩ [] :=
    ⟨rfl, rfl, rfl, .nil, List.nodup_nil, nofun, nofun⟩
  have hSlices :
      ∀ slice ∈ set.slices e.width,
        AllNull slice.values ∨
          ∃ r, Record.ofValues e slice.values = .ok r := by
    intro slice hMem
    rcases List.mem_map.mp hMem with ⟨values, hRow, rfl⟩
    exact hReads values hRow
  rcases hStart.takeAll (by rwa [List.nil_append, hValues]) hSlices
    with ⟨cache, gathered, hTaken, hGathers, hMem⟩
  refine ⟨cache.instances, gathered, ?_, hGathers.built,
    hGathers.nodup, ?_⟩
  · rw [hydrateRoots_eq hIdentity hWide, hTaken]
    rfl
  · intro values
    rw [hMem, hValues]
    simp

end roots

end EntitySql
