import EntitySql.Proofs.Hydrate.Reference

/-
  The instances that identity caches keep are those which rows
  name by their meaning: a cache has one record per key, from
  the first of all rows that shows the key.

  Key definitions include:
    * `IdentityCache.Lists`
    * `Section.keys`, `Section.Keeps`

  Key theorems include:
    * `IdentityCache.Lists.lookUp_known`, `lookUp_new`
    * `IdentityCache.Lists.resolve_known`, `resolve_new`
    * `Section.Keeps.resolve_present`
    * `Section.Keeps.resolve_child`

  A cache converts the first slice of a key and keeps the
  record. The invariant names the row which that slice is from,
  so that a later row finds the record that its own reading is.
-/

namespace EntitySql

------------------------------------------------------------
-- Caches by their keys
------------------------------------------------------------

namespace IdentityCache

variable {ι : Type}
variable {e : EntityType}
variable {i : Nat}
variable {keys : List IdentityKey}
variable {cache : IdentityCache ι}

/-
  The cache of an entity type has one instance for each of some
  keys, in order. The slice seen last is kept with the answer
  that its key has.
-/
structure Lists
    (e : EntityType)
    (i : Nat)
    (keys : List IdentityKey)
    (cache : IdentityCache ι) : Prop where
  type_eq : cache.type = e
  keyPosition_eq : cache.keyPosition = i
  length_eq : cache.instances.length = keys.length
  positions_eq : cache.positions = keys.zipIdx
  previous_eq :
    ∀ values answer, cache.previous = some (values, answer) →
      (AllNull values ∧ answer = none) ∨
        (¬ AllNull values ∧ keyAt i values ∈ keys ∧
          answer = some (keys.idxOf (keyAt i values)))

/- A numbered list finds the first place of a key. -/
theorem lookup_zipIdx
    (keys : List IdentityKey)
    (key : IdentityKey)
    (n : Nat) :
    (keys.zipIdx n).lookup key =
      if key ∈ keys then some (n + keys.idxOf key) else none := by
  induction keys generalizing n with
  | nil => rfl
  | cons k keys ih =>
      rw [List.zipIdx_cons, List.lookup_cons, ih]
      by_cases hKey : key = k
      · simp [hKey]
      · have hOther : k ≠ key := Ne.symm hKey
        have hIndex :
            n + 1 + keys.idxOf key = n + (k :: keys).idxOf key := by
          rw [List.idxOf_cons_ne _ hOther]
          omega
        simp only [beq_eq_false_iff_ne.mpr hKey, hIndex,
          List.mem_cons, hKey, false_or]

/- A cache starts without keys. -/
theorem start_eq
    (hPosition : e.identityPosition = .ok i) :
    (start e : Except MappingError (IdentityCache ι)) =
      .ok ⟨e, i, none, [], []⟩ := by
  rw [start, hPosition]
  rfl

theorem lists_start
    (e : EntityType)
    (i : Nat) :
    Lists e i [] (⟨e, i, none, [], []⟩ : IdentityCache ι) :=
  ⟨rfl, rfl, rfl, rfl, nofun⟩

namespace Lists

theorem find?_eq
    (hLists : Lists e i keys cache)
    (key : IdentityKey) :
    cache.find? key =
      if key ∈ keys then some (keys.idxOf key) else none := by
  rw [find?, hLists.positions_eq, lookup_zipIdx, Nat.zero_add]

theorem keyOf_eq
    (hLists : Lists e i keys cache)
    (slice : Row) :
    cache.keyOf slice = keyAt i slice.values := by
  unfold keyOf
  rw [hLists.keyPosition_eq]
  rfl

/- Equal slices have one key, unless it is a float. -/
theorem keyAt_eq
    {a b : List Value}
    (hLists : Lists e i keys cache)
    (hSame : sameValues a b = true)
    (hFloat : ∀ bits, keyAt i b ≠ .float bits) :
    keyAt i a = keyAt i b := by
  have hKeys :=
    @keyOf_eq_of_sameValues ι cache ⟨[], a⟩ ⟨[], b⟩ hSame
  rw [hLists.keyOf_eq, hLists.keyOf_eq] at hKeys
  exact hKeys hFloat

/- What was kept of another slice does not matter. -/
theorem withPrevious
    {values : List Value}
    {answer : Option Nat}
    (hLists : Lists e i keys cache)
    (hAnswer :
      (AllNull values ∧ answer = none) ∨
        (¬ AllNull values ∧ keyAt i values ∈ keys ∧
          answer = some (keys.idxOf (keyAt i values)))) :
    Lists e i keys
      { cache with previous := some (values, answer) } := by
  refine { hLists with previous_eq := ?_ }
  intro values' answer' hPrevious
  cases hPrevious
  exact hAnswer

/- Instances may change as long as they are as many. -/
theorem withInstances
    {instances : List ι}
    (hLists : Lists e i keys cache)
    (hLength : instances.length = keys.length) :
    Lists e i keys { cache with instances := instances } :=
  { hLists with length_eq := hLength }

/- A new key is added last, with its instance. -/
theorem add
    {key : IdentityKey}
    {made : ι}
    (hLists : Lists e i keys cache) :
    Lists e i (keys ++ [key]) (cache.add key made) where
  type_eq := hLists.type_eq
  keyPosition_eq := hLists.keyPosition_eq
  length_eq := by
    simp [IdentityCache.add, hLists.length_eq]
  positions_eq := by
    rw [IdentityCache.add, hLists.positions_eq, hLists.length_eq,
      List.zipIdx_append, Nat.zero_add]
    rfl
  previous_eq := by
    intro values answer hPrevious
    rcases hLists.previous_eq values answer hPrevious with
      hAbsent | ⟨hPresent, hMem, rfl⟩
    · exact .inl hAbsent
    · refine .inr ⟨hPresent, List.mem_append_left _ hMem, ?_⟩
      rw [List.idxOf_append_of_mem hMem]

/- A slice of NULLs names no instance. -/
theorem lookUp_null
    {slice : Row}
    (cache : IdentityCache ι)
    (make : Record → ι)
    (hNull : AllNull slice.values) :
    cache.lookUp make slice = .ok (none, cache) :=
  if_pos hNull

/- A known key names its place among the keys. -/
theorem lookUp_known
    {slice : Row}
    (hLists : Lists e i keys cache)
    (make : Record → ι)
    (hPresent : ¬ AllNull slice.values)
    (hKnown : keyAt i slice.values ∈ keys) :
    cache.lookUp make slice =
      .ok (some (keys.idxOf (keyAt i slice.values)), cache) := by
  have hValue : ¬ slice.isAllNull = true := hPresent
  simp only [lookUp, if_neg hValue, hLists.keyOf_eq,
    hLists.find?_eq, if_pos hKnown]

/- A new key is added with the slice as its record. -/
theorem lookUp_new
    {slice : Row}
    (hLists : Lists e i keys cache)
    (make : Record → ι)
    (hPresent : ¬ AllNull slice.values)
    (hNew : keyAt i slice.values ∉ keys) :
    cache.lookUp make slice =
      (Record.ofValues e slice.values).map fun r =>
        (some keys.length,
          cache.add (keyAt i slice.values) (make r)) := by
  have hValue : ¬ slice.isAllNull = true := hPresent
  have hBuild :
      cache.build slice = Record.ofValues e slice.values := by
    rw [build, hLists.type_eq]
    rfl
  simp only [lookUp, if_neg hValue, hLists.keyOf_eq,
    hLists.find?_eq, if_neg hNew, hBuild, hLists.length_eq]
  cases Record.ofValues e slice.values <;> rfl

/- A slice of NULLs stands for no instance. -/
theorem resolve_null
    {slice : Row}
    (hLists : Lists e i keys cache)
    (make : Record → ι)
    (hNull : AllNull slice.values) :
    ∃ cache',
      cache.resolve make slice = .ok (none, cache') ∧
      Lists e i keys cache' ∧
      cache'.instances = cache.instances := by
  rcases cache.resolve_cases make slice with
    ⟨values, answer, hPrevious, hSame, hResolve⟩ | hResolve
  · rcases hLists.previous_eq values answer hPrevious with
      ⟨_, rfl⟩ | ⟨hPresent, _⟩
    · exact ⟨cache, hResolve, hLists, rfl⟩
    · unfold AllNull at hNull hPresent
      rw [all_isNull_eq_of_sameValues hSame] at hPresent
      exact absurd hNull hPresent
  · rw [lookUp_null cache make hNull] at hResolve
    exact ⟨_, hResolve, hLists.withPrevious (.inl ⟨hNull, rfl⟩), rfl⟩

/- A slice with a known key stands for the instance of the key. -/
theorem resolve_known
    {slice : Row}
    (hLists : Lists e i keys cache)
    (make : Record → ι)
    (hPresent : ¬ AllNull slice.values)
    (hFloat : ∀ bits, keyAt i slice.values ≠ .float bits)
    (hKnown : keyAt i slice.values ∈ keys) :
    ∃ cache',
      cache.resolve make slice =
        .ok (some (keys.idxOf (keyAt i slice.values)), cache') ∧
      Lists e i keys cache' ∧
      cache'.instances = cache.instances := by
  rcases cache.resolve_cases make slice with
    ⟨values, answer, hPrevious, hSame, hResolve⟩ | hResolve
  · rcases hLists.previous_eq values answer hPrevious with
      ⟨hNull, _⟩ | ⟨_, _, rfl⟩
    · unfold AllNull at hNull hPresent
      rw [all_isNull_eq_of_sameValues hSame] at hNull
      exact absurd hNull hPresent
    · rw [hLists.keyAt_eq hSame hFloat] at hResolve
      exact ⟨cache, hResolve, hLists, rfl⟩
  · rw [hLists.lookUp_known make hPresent hKnown] at hResolve
    exact ⟨_, hResolve,
      hLists.withPrevious (.inr ⟨hPresent, hKnown, rfl⟩), rfl⟩

/- A slice with a new key is converted, which may fail. -/
theorem resolve_new
    {slice : Row}
    (hLists : Lists e i keys cache)
    (make : Record → ι)
    (hPresent : ¬ AllNull slice.values)
    (hFloat : ∀ bits, keyAt i slice.values ≠ .float bits)
    (hNew : keyAt i slice.values ∉ keys) :
    (∃ cause,
      Record.ofValues e slice.values = .error cause ∧
      cache.resolve make slice = .error cause) ∨
    ∃ r cache',
      Record.ofValues e slice.values = .ok r ∧
      cache.resolve make slice = .ok (some keys.length, cache') ∧
      Lists e i (keys ++ [keyAt i slice.values]) cache' ∧
      cache'.instances = cache.instances ++ [make r] := by
  rcases cache.resolve_cases make slice with
    ⟨values, answer, hPrevious, hSame, _⟩ | hResolve
  · rcases hLists.previous_eq values answer hPrevious with
      ⟨hNull, _⟩ | ⟨_, hMem, _⟩
    · unfold AllNull at hNull hPresent
      rw [all_isNull_eq_of_sameValues hSame] at hNull
      exact absurd hNull hPresent
    · rw [hLists.keyAt_eq hSame hFloat] at hMem
      exact absurd hMem hNew
  · rw [hLists.lookUp_new make hPresent hNew] at hResolve
    cases hRead : Record.ofValues e slice.values with
    | error cause =>
        rw [hRead] at hResolve
        exact .inl ⟨cause, rfl, hResolve⟩
    | ok r =>
        rw [hRead] at hResolve
        have hAdded := @add _ _ _ _ _ (keyAt i slice.values) (make r)
          hLists
        have hLast :
            keyAt i slice.values ∈ keys ++ [keyAt i slice.values] := by
          simp
        have hIndex :
            (keys ++ [keyAt i slice.values]).idxOf
                (keyAt i slice.values) =
              keys.length := by
          rw [List.idxOf_append_of_notMem hNew, List.idxOf_cons_self,
            Nat.add_zero]
        refine .inr ⟨r, _, rfl, hResolve,
          hAdded.withPrevious (.inr ⟨hPresent, hLast, ?_⟩), rfl⟩
        rw [hIndex]

end Lists

end IdentityCache

------------------------------------------------------------
-- The instances of one section
------------------------------------------------------------

namespace Section

/- The keys that rows show, in order of first appearance. -/
def keys
    (s : Section)
    (rows : List (List Value)) : List IdentityKey :=
  ((rows.filter s.present).map s.key).eraseDups

variable {s : Section}
variable {row : List Value}

theorem present_eq_false_iff :
    s.present row = false ↔ AllNull (s.slice row) := by
  simp [present, AllNull]

theorem present_eq_true_iff :
    s.present row = true ↔ ¬ AllNull (s.slice row) := by
  simp [present, AllNull]

theorem keys_concat_of_present
    (rows : List (List Value))
    (hPresent : s.present row = true) :
    s.keys (rows ++ [row]) = note (s.keys rows) (s.key row) := by
  rw [keys, List.filter_append, List.filter_singleton, hPresent,
    List.map_append]
  exact eraseDups_concat _ _

theorem keys_concat_of_absent
    (rows : List (List Value))
    (hAbsent : s.present row = false) :
    s.keys (rows ++ [row]) = s.keys rows := by
  simp [keys, hAbsent]

/- A row with a new key is the first that shows it. -/
theorem find?_shows_of_new
    {past rest : List (List Value)}
    (hPresent : s.present row = true)
    (hNew : s.key row ∉ s.keys past) :
    (past ++ row :: rest).find? (s.shows (s.key row)) = some row := by
  have hNone : past.find? (s.shows (s.key row)) = none := by
    rw [List.find?_eq_none]
    intro other hMem hShows
    rw [shows, Bool.and_eq_true, beq_iff_eq] at hShows
    refine hNew (List.mem_eraseDups.mpr (List.mem_map.mpr ?_))
    exact ⟨other, List.mem_filter.mpr ⟨hMem, hShows.1⟩, hShows.2⟩
  have hHere : s.shows (s.key row) row = true := by
    simp [shows, hPresent]
  rw [List.find?_append, hNone, Option.none_or,
    List.find?_cons_of_pos hHere]

/-
  The cache of a section knows some keys. For each of them a
  record was converted from the first of all rows that shows
  the key.
-/
structure Keeps
    {ι : Type}
    (s : Section)
    (rows : List (List Value))
    (found : List IdentityKey)
    (records : List Record)
    (cache : IdentityCache ι) : Prop where
  lists : cache.Lists s.type s.identity found
  made :
    List.Forall₂
      (fun key r => ∃ row,
        rows.find? (s.shows key) = some row ∧
        Record.ofValues s.type (s.slice row) = .ok r)
      found records

namespace Keeps

variable {ι : Type}
variable {rows : List (List Value)}
variable {found : List IdentityKey}
variable {records : List Record}
variable {cache : IdentityCache ι}
variable {slice : Row}

/- A row without an instance leaves all of them as they are. -/
theorem resolve_absent
    (hKeeps : s.Keeps rows found records cache)
    (make : Record → ι)
    (hValues : slice.values = s.slice row)
    (hAbsent : s.present row = false) :
    ∃ cache',
      cache.resolve make slice = .ok (none, cache') ∧
      s.Keeps rows found records cache' ∧
      cache'.instances = cache.instances := by
  rw [present_eq_false_iff, ← hValues] at hAbsent
  rcases hKeeps.lists.resolve_null make hAbsent with
    ⟨cache', hResolve, hLists, hSame⟩
  exact ⟨cache', hResolve, ⟨hLists, hKeeps.made⟩, hSame⟩

/-
  A row with a known key finds the record that its reading is.
  A row with a new key is converted, as its reading is.
-/
theorem resolve_present
    (hKeeps : s.Keeps rows found records cache)
    (make : Record → ι)
    (hValues : slice.values = s.slice row)
    (hPresent : s.present row = true)
    (hFloat : ∀ bits, s.key row ≠ .float bits)
    (hFirst :
      s.key row ∉ found →
        rows.find? (s.shows (s.key row)) = some row) :
    (∃ cause,
      s.instanceOf rows row = .error cause ∧
      cache.resolve make slice = .error cause) ∨
    ∃ r records' cache',
      s.instanceOf rows row = .ok (some r) ∧
      cache.resolve make slice =
        .ok (some ((note found (s.key row)).idxOf (s.key row)),
          cache') ∧
      s.Keeps rows (note found (s.key row)) records' cache' ∧
      records'[(note found (s.key row)).idxOf (s.key row)]? = some r ∧
      if s.key row ∈ found then
        records' = records ∧ cache'.instances = cache.instances
      else
        records' = records ++ [r] ∧
          cache'.instances = cache.instances ++ [make r] := by
  have hKey :
      IdentityCache.keyAt s.identity slice.values = s.key row := by
    rw [hValues]
    rfl
  have hValue : ¬ AllNull slice.values := by
    rw [hValues]
    exact present_eq_true_iff.mp hPresent
  rw [← hKey] at hFloat
  by_cases hKnown : s.key row ∈ found
  · rcases hKeeps.lists.resolve_known make hValue hFloat
      (hKey ▸ hKnown) with ⟨cache', hResolve, hLists, hSame⟩
    rw [hKey] at hResolve
    have hBound := List.idxOf_lt_length_of_mem hKnown
    have hBound' : found.idxOf (s.key row) < records.length := by
      rwa [← hKeeps.made.length_eq]
    rcases hKeeps.made.get hBound hBound' with
      ⟨first, hFound, hRead⟩
    rw [List.get_eq_getElem, List.getElem_idxOf] at hFound
    have hInstance :
        s.instanceOf rows row =
          .ok (some (records.get ⟨_, hBound'⟩)) := by
      rw [instanceOf, if_pos hPresent, Section.first, hFound,
        Option.getD_some, hRead]
      rfl
    have hNoted : note found (s.key row) = found := if_pos hKnown
    rw [hNoted]
    refine .inr ⟨_, records, cache', hInstance, hResolve,
      ⟨hLists, hKeeps.made⟩, ?_, ?_⟩
    · exact List.getElem?_eq_getElem hBound'
    · rw [if_pos hKnown]
      exact ⟨rfl, hSame⟩
  · have hFound := hFirst hKnown
    have hInstance :
        s.instanceOf rows row =
          (Record.ofValues s.type slice.values).map some := by
      rw [instanceOf, if_pos hPresent, Section.first, hFound,
        Option.getD_some, hValues]
    rcases hKeeps.lists.resolve_new make hValue hFloat
      (hKey ▸ hKnown) with
      ⟨cause, hRead, hResolve⟩ |
        ⟨r, cache', hRead, hResolve, hLists, hMore⟩
    · rw [hRead] at hInstance
      exact .inl ⟨cause, hInstance, hResolve⟩
    · rw [hRead] at hInstance
      rw [hKey] at hLists
      have hNoted : note found (s.key row) = found ++ [s.key row] :=
        if_neg hKnown
      have hIndex :
          (found ++ [s.key row]).idxOf (s.key row) = found.length := by
        rw [List.idxOf_append_of_notMem hKnown, List.idxOf_cons_self,
          Nat.add_zero]
      rw [hNoted, hIndex]
      refine .inr ⟨r, records ++ [r], cache', hInstance, hResolve,
        ⟨hLists, ?_⟩, ?_, ?_⟩
      · rw [hValues] at hRead
        exact List.rel_append hKeeps.made
          (.cons ⟨row, hFound, hRead⟩ .nil)
      · rw [hKeeps.made.length_eq]
        exact List.getElem?_concat_length
      · rw [if_neg hKnown]
        exact ⟨rfl, hMore⟩

/- The cache of a slot has the child that a row's reading has. -/
theorem resolve_child
    {cache : IdentityCache Record}
    {past rest : List (List Value)}
    (hRows : rows = past ++ row :: rest)
    (hKeeps : s.Keeps rows (s.keys past) cache.instances cache)
    (hValues : slice.values = s.slice row)
    (hFloat : ∀ bits, s.key row ≠ .float bits) :
    (∃ cause,
      s.instanceOf rows row = .error cause ∧
      cache.resolve id slice = .error cause) ∨
    ∃ child answer cache',
      s.instanceOf rows row = .ok child ∧
      cache.resolve id slice = .ok (answer, cache') ∧
      s.Keeps rows (s.keys (past ++ [row])) cache'.instances cache' ∧
      foundIn cache' answer = child := by
  cases hPresent : s.present row with
  | false =>
      rcases hKeeps.resolve_absent id hValues hPresent with
        ⟨cache', hResolve, hKept, hSame⟩
      have hInstance : s.instanceOf rows row = .ok none := by
        simp [instanceOf, hPresent]
      rw [← hSame] at hKept
      rw [keys_concat_of_absent past hPresent]
      exact .inr ⟨none, none, cache', hInstance, hResolve, hKept, rfl⟩
  | true =>
      have hFirst (hNew : s.key row ∉ s.keys past) :
          rows.find? (s.shows (s.key row)) = some row := by
        rw [hRows]
        exact find?_shows_of_new hPresent hNew
      rcases hKeeps.resolve_present id hValues hPresent hFloat hFirst
        with hFails |
          ⟨r, records', cache', hInstance, hResolve, hKept, hFound,
            hMade⟩
      · exact .inl hFails
      · have hRecords : cache'.instances = records' := by
          split at hMade
          · rw [hMade.1, hMade.2]
          · rw [hMade.1, hMade.2]
            rfl
        rw [← hRecords] at hKept hFound
        rw [keys_concat_of_present past hPresent]
        exact .inr ⟨some r, _, cache', hInstance, hResolve, hKept,
          hFound⟩

end Keeps

end Section

end EntitySql
