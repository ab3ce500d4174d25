import Mathlib
import EntitySql.Result.Hydrate

/-
  Identity caches keep one instance for every key: a slice of a
  record resolves to the instance with the key of the record,
  and a record is built once for each key.

  Key definitions include:
    * `Record.identityKey`, `Record.Survives`
    * `Record.Listable`
    * `IdentityCache.Tracks`

  Key theorems include:
    * `IdentityCache.build_of_survives`
    * `IdentityCache.resolve_absent`
    * `IdentityCache.resolve_present`
    * `IdentityCache.made_of_resolve`

  The shortcut for repeated slices is part of the invariant:
  what is kept of the slice seen last is the answer that a
  lookup of its key would give.
-/

namespace EntitySql

------------------------------------------------------------
-- Records and their slices
------------------------------------------------------------

namespace Record

/- The identity key of a record, as its slices show it. -/
def identityKey
    (r : Record) : IdentityKey :=
  match r.type.identityIndex? with
  | some i => (r.value i).identityKey
  | none => .null

/- Every field is read back from the value it is written as. -/
def Survives
    (r : Record) : Prop :=
  List.Forall₂
    (fun (p : Property) field =>
      p.type.read field.toValue = .ok field)
    r.type.properties r.fields

/- A record of an entity type that a join can list. -/
structure Listable
    (e : EntityType)
    (r : Record) : Prop where
  type_eq : r.type = e
  survives : r.Survives
  not_null : r.values.all Value.isNull = false
  not_float : ∀ bits, r.identityKey ≠ .float bits

theorem Survives.length_values
    {r : Record}
    (hSurvives : r.Survives) :
    r.values.length = r.type.width := by
  rw [values, List.length_map, EntityType.width]
  exact hSurvives.length_eq.symm

/-
  Assigning values in turn, of which each reads as the field
  beside it, gives these fields.
-/
theorem foldlM_assign
    {e : EntityType}
    {properties : List Property}
    {cells : List (Value × FieldValue)}
    (before blank : List FieldValue)
    (hProperties :
      e.properties.drop before.length = properties)
    (hReads :
      List.Forall₂
        (fun (p : Property) cell => p.type.read cell.1 = .ok cell.2)
        properties cells)
    (hBlank : blank.length = cells.length) :
    ((cells.map Prod.fst).zipIdx before.length).foldlM
        (fun (r : Record) (v, i) => r.assign i v)
        ⟨e, before ++ blank⟩ =
      (.ok ⟨e, before ++ cells.map Prod.snd⟩ :
        Except MappingError Record) := by
  induction hReads generalizing before blank with
  | nil =>
      rw [List.eq_nil_of_length_eq_zero hBlank]
      rfl
  | @cons p cell properties cells hRead _ ih =>
      rcases blank with _ | ⟨b, blank⟩
      · simp at hBlank
      · have hProperty :
            e.properties[before.length]? = some p := by
          rw [← List.head?_drop, hProperties]
          rfl
        have hAssign :
            Record.assign ⟨e, before ++ b :: blank⟩ before.length
                cell.1 =
              .ok ⟨e, (before ++ [cell.2]) ++ blank⟩ := by
          simp [Record.assign, hProperty, hRead]
        have hRest :
            e.properties.drop (before ++ [cell.2]).length =
              properties := by
          rw [List.length_append, List.length_singleton,
            ← List.drop_drop, hProperties]
          rfl
        have hFold :=
          ih (before ++ [cell.2]) blank hRest (by simpa using hBlank)
        simp only [List.map_cons, List.zipIdx_cons,
          List.foldlM_cons, hAssign]
        change List.foldlM _ _ _ = _
        simpa using hFold

end Record

/- Equal values that are no floats have the same key. -/
theorem Value.identityKey_eq_of_equal
    {a b : Value}
    (hEqual : a.equal b = true)
    (hFloat : ∀ bits, b.identityKey ≠ .float bits) :
    a.identityKey = b.identityKey := by
  cases a <;> cases b <;>
    simp_all [Value.equal, Value.identityKey]

theorem Value.isNull_eq_of_equal
    {a b : Value}
    (hEqual : a.equal b = true) :
    a.isNull = b.isNull := by
  cases a <;> cases b <;>
    simp_all [Value.equal, Value.isNull]

namespace IdentityCache

variable {ι : Type}

theorem build_of_survives
    {cache : IdentityCache ι}
    {r : Record}
    (columns : List String)
    (hType : r.type = cache.type)
    (hSurvives : r.Survives) :
    cache.build ⟨columns, r.values⟩ = .ok r := by
  rcases r with ⟨e, fields⟩
  cases hType
  have hReads :
      List.Forall₂
        (fun (p : Property) cell => p.type.read cell.1 = .ok cell.2)
        cache.type.properties
        (fields.map fun field => (field.toValue, field)) :=
    List.forall₂_map_right_iff.mpr hSurvives
  have hFold :=
    Record.foldlM_assign []
      (cache.type.properties.map fun p => p.type.default)
      rfl hReads (by simpa using hSurvives.length_eq)
  simp only [List.map_map, Function.comp_def, List.map_id']
    at hFold
  exact hFold

------------------------------------------------------------
-- Equal slices
------------------------------------------------------------

theorem sameValues_iff
    (as bs : List Value) :
    sameValues as bs = true ↔
      List.Forall₂ (fun a b => a.equal b = true) as bs := by
  induction as generalizing bs with
  | nil => cases bs <;> simp [sameValues]
  | cons a as ih => cases bs <;> simp [sameValues, ih]

/- Equal slices are both empty of values or both not. -/
theorem all_isNull_eq_of_sameValues
    {as bs : List Value}
    (hSame : sameValues as bs = true) :
    as.all Value.isNull = bs.all Value.isNull := by
  rw [sameValues_iff] at hSame
  induction hSame with
  | nil => rfl
  | cons hEqual _ ih =>
      rw [List.all_cons, List.all_cons, ih,
        Value.isNull_eq_of_equal hEqual]

/- Equal slices have the same key, unless it is a float. -/
theorem keyOf_eq_of_sameValues
    {cache : IdentityCache ι}
    {a b : Row}
    (hSame : sameValues a.values b.values = true)
    (hFloat : ∀ bits, cache.keyOf b ≠ .float bits) :
    cache.keyOf a = cache.keyOf b := by
  rw [sameValues_iff] at hSame
  have hLength := hSame.length_eq
  unfold keyOf at hFloat ⊢
  by_cases hIndex : cache.keyPosition < b.values.length
  · rw [List.getElem?_eq_getElem hIndex] at hFloat ⊢
    rw [List.getElem?_eq_getElem (by omega)]
    exact Value.identityKey_eq_of_equal
      ((List.forall₂_iff_get.mp hSame).2 _ (by omega) hIndex)
      hFloat
  · rw [List.getElem?_eq_none (by omega),
      List.getElem?_eq_none (by omega)]

------------------------------------------------------------
-- Tracked caches
------------------------------------------------------------

/-
  The cache of an entity type finds every instance by its key,
  and nothing else. The slice seen last is kept with the answer
  that it would have now.
-/
structure Tracks
    (keyOfInstance : ι → IdentityKey)
    (e : EntityType)
    (cache : IdentityCache ι) : Prop where
  type_eq : cache.type = e
  keyPosition_eq : e.identityIndex? = some cache.keyPosition
  find?_iff :
    ∀ key i, cache.find? key = some i ↔
      (cache.instances.map keyOfInstance)[i]? = some key
  previous_eq :
    ∀ slice answer,
      cache.previous = some (slice, answer) →
        (slice.all Value.isNull = true ∧ answer = none) ∨
          (slice.all Value.isNull = false ∧ answer.isSome ∧
            cache.find? (cache.keyOf ⟨[], slice⟩) = answer)

/- An added key is found last, unless it was found before. -/
theorem find?_add
    (cache : IdentityCache ι)
    (key : IdentityKey)
    (made : ι)
    (k : IdentityKey) :
    (cache.add key made).find? k =
      (cache.find? k).or
        (if k == key then some cache.instances.length
          else none) := by
  simp only [find?, add, List.lookup_append, List.lookup_cons,
    List.lookup_nil]
  cases k == key <;> rfl

/- A cache starts without instances. -/
theorem tracks_start
    {e : EntityType}
    {cache : IdentityCache ι}
    (keyOfInstance : ι → IdentityKey)
    (hStart : start e = .ok cache) :
    Tracks keyOfInstance e cache ∧ cache.instances = [] := by
  unfold start EntityType.identityPosition at hStart
  cases hIndex : e.identityIndex? with
  | none =>
      rw [hIndex] at hStart
      cases hStart
  | some i =>
      rw [hIndex] at hStart
      cases hStart
      refine ⟨⟨rfl, hIndex, ?_, ?_⟩, rfl⟩
      · simp [find?]
      · simp

namespace Tracks

variable {keyOfInstance : ι → IdentityKey}
variable {e : EntityType}
variable {cache : IdentityCache ι}

/- No two instances have the same key. -/
theorem nodup
    (hTracks : Tracks keyOfInstance e cache) :
    (cache.instances.map keyOfInstance).Nodup := by
  rw [List.nodup_iff_getElem?_ne_getElem?]
  intro i j hLess hBound hSame
  rcases hKey : (cache.instances.map keyOfInstance)[j]? with
    _ | key
  · exact absurd (List.getElem?_eq_none_iff.mp hKey) (by omega)
  · have hFirst := (hTracks.find?_iff key i).mpr (hSame.trans hKey)
    have hSecond := (hTracks.find?_iff key j).mpr hKey
    rw [hFirst, Option.some.injEq] at hSecond
    omega

theorem find?_eq_none_iff
    (hTracks : Tracks keyOfInstance e cache)
    (key : IdentityKey) :
    cache.find? key = none ↔
      key ∉ cache.instances.map keyOfInstance := by
  rw [List.mem_iff_getElem?, Option.eq_none_iff_forall_ne_some]
  simp only [← hTracks.find?_iff]
  push Not
  rfl

/- The key of a record's slice is the key of the record. -/
theorem keyOf_eq
    {r : Record}
    (hTracks : Tracks keyOfInstance e cache)
    (hType : r.type = e)
    (hSurvives : r.Survives)
    (columns : List String) :
    cache.keyOf ⟨columns, r.values⟩ = r.identityKey := by
  have hIndex : r.type.identityIndex? = some cache.keyPosition := by
    rw [hType]
    exact hTracks.keyPosition_eq
  have hBound : cache.keyPosition < r.fields.length := by
    rw [← hSurvives.length_eq]
    exact (List.findIdx?_eq_some_iff_findIdx_eq.mp hIndex).1
  simp [keyOf, Record.identityKey, hIndex, Record.values,
    Record.value, hBound]

/- What was kept of another slice does not matter. -/
theorem withPrevious
    {slice : List Value}
    {answer : Option Nat}
    (hTracks : Tracks keyOfInstance e cache)
    (hAnswer :
      (slice.all Value.isNull = true ∧ answer = none) ∨
        (slice.all Value.isNull = false ∧ answer.isSome ∧
          cache.find? (cache.keyOf ⟨[], slice⟩) = answer)) :
    Tracks keyOfInstance e
      { cache with previous := some (slice, answer) } := by
  refine ⟨hTracks.type_eq, hTracks.keyPosition_eq,
    hTracks.find?_iff, ?_⟩
  intro slice' answer' hPrevious
  cases hPrevious
  exact hAnswer

/- Instances may change as long as they keep their keys. -/
theorem withInstances
    {instances : List ι}
    (hTracks : Tracks keyOfInstance e cache)
    (hKeys :
      instances.map keyOfInstance =
        cache.instances.map keyOfInstance) :
    Tracks keyOfInstance e
      { cache with instances := instances } := by
  refine ⟨hTracks.type_eq, hTracks.keyPosition_eq, ?_,
    hTracks.previous_eq⟩
  rw [hKeys]
  exact hTracks.find?_iff

/- A new key may be added with an instance of that key. -/
theorem add
    {key : IdentityKey}
    {made : ι}
    (hTracks : Tracks keyOfInstance e cache)
    (hNew : key ∉ cache.instances.map keyOfInstance)
    (hMade : keyOfInstance made = key) :
    Tracks keyOfInstance e (cache.add key made) := by
  refine ⟨hTracks.type_eq, hTracks.keyPosition_eq, ?_, ?_⟩
  · intro k i
    rw [find?_add, IdentityCache.add, List.map_append]
    by_cases hOld : i < cache.instances.length
    · rw [List.getElem?_append_left (by simpa using hOld),
        ← hTracks.find?_iff]
      cases hFound : cache.find? k with
      | some j => rfl
      | none =>
          have hOther : cache.instances.length ≠ i := by omega
          simp [hOther]
    · rw [List.getElem?_append_right (by simpa using hOld)]
      cases hFound : cache.find? k with
      | some j =>
          have hOld' := (hTracks.find?_iff k j).mp hFound
          have hBound := (List.getElem?_eq_some_iff.mp hOld').1
          have hMem := List.mem_of_getElem? hOld'
          have hOther : key ≠ k := fun hSame => hNew (hSame ▸ hMem)
          have hIndex : j ≠ i := by
            rw [List.length_map] at hBound
            omega
          simp [hIndex, hMade, List.getElem?_singleton, hOther]
      | none =>
          simp only [Option.none_or, beq_iff_eq,
            Option.ite_none_right_eq_some, Option.some.injEq,
            List.map_cons, List.map_nil, List.length_map, hMade,
            List.getElem?_singleton]
          constructor
          · rintro ⟨rfl, rfl⟩
            exact ⟨Nat.sub_self _, rfl⟩
          · rintro ⟨hIndex, rfl⟩
            exact ⟨rfl, by omega⟩
  · intro slice answer hPrevious
    rcases hTracks.previous_eq slice answer hPrevious with
      hAbsent | ⟨hPresent, hSome, hFound⟩
    · exact Or.inl hAbsent
    · refine Or.inr ⟨hPresent, hSome, ?_⟩
      rcases Option.isSome_iff_exists.mp hSome with ⟨i, rfl⟩
      rw [find?_add]
      change (cache.find? (cache.keyOf ⟨[], slice⟩)).or _ = _
      rw [hFound]
      rfl

end Tracks

------------------------------------------------------------
-- Resolving slices
------------------------------------------------------------

section resolve

variable {keyOfInstance : ι → IdentityKey}
variable {e : EntityType}
variable {cache : IdentityCache ι}

/- A slice equal to the kept one has its answer. -/
theorem resolve_of_repeated
    {values : List Value}
    {answer : Option Nat}
    {slice : Row}
    (make : Record → ι)
    (hPrevious : cache.previous = some (values, answer))
    (hSame : sameValues values slice.values = true) :
    cache.resolve make slice = .ok (answer, cache) := by
  simp only [resolve, hPrevious, hSame, if_true]

/- Another slice is looked up, and kept with its answer. -/
theorem resolve_of_other
    {slice : Row}
    (make : Record → ι)
    (hOther :
      ∀ values answer, cache.previous = some (values, answer) →
        sameValues values slice.values = false) :
    cache.resolve make slice =
      (do
        let (answer, cache) ← cache.lookUp make slice
        .ok
          (answer,
            { cache with
              previous := some (slice.values, answer) })) := by
  unfold resolve
  cases hPrevious : cache.previous with
  | none => rfl
  | some kept =>
      simp only [hOther kept.1 kept.2 hPrevious]
      rfl

/- A slice is a repeated one, or its key is looked up. -/
theorem resolve_cases
    (cache : IdentityCache ι)
    (make : Record → ι)
    (slice : Row) :
    (∃ values answer, cache.previous = some (values, answer) ∧
      sameValues values slice.values = true ∧
      cache.resolve make slice = .ok (answer, cache)) ∨
    cache.resolve make slice =
      (do
        let (answer, cache) ← cache.lookUp make slice
        .ok
          (answer,
            { cache with
              previous := some (slice.values, answer) })) := by
  by_cases hRepeated :
      ∃ values answer, cache.previous = some (values, answer) ∧
        sameValues values slice.values = true
  · rcases hRepeated with ⟨values, answer, hPrevious, hSame⟩
    exact .inl ⟨values, answer, hPrevious, hSame,
      resolve_of_repeated make hPrevious hSame⟩
  · refine .inr (resolve_of_other make ?_)
    intro values answer hPrevious
    rw [← Bool.not_eq_true]
    exact fun hSame => hRepeated ⟨values, answer, hPrevious, hSame⟩

/- A slice of NULLs stands for no instance. -/
theorem resolve_absent
    (make : Record → ι)
    (slice : Row)
    (hTracks : Tracks keyOfInstance e cache)
    (hNull : slice.values.all Value.isNull = true) :
    ∃ cache', cache.resolve make slice = .ok (none, cache') ∧
      Tracks keyOfInstance e cache' ∧
      cache'.instances = cache.instances := by
  rcases cache.resolve_cases make slice with
    ⟨values, answer, hPrevious, hSame, hResolve⟩ | hResolve
  · have hNone : answer = none := by
      rcases hTracks.previous_eq values answer hPrevious with
        ⟨_, hNone⟩ | ⟨hPresent, _⟩
      · exact hNone
      · rw [all_isNull_eq_of_sameValues hSame, hNull] at hPresent
        cases hPresent
    rw [hNone] at hResolve
    exact ⟨cache, hResolve, hTracks, rfl⟩
  · have hLookUp :
        cache.lookUp make slice = .ok (none, cache) := by
      simp [lookUp, Row.isAllNull, hNull]
    rw [hLookUp] at hResolve
    exact ⟨_, hResolve,
      hTracks.withPrevious (Or.inl ⟨hNull, rfl⟩), rfl⟩

/-
  A slice of a record stands for the instance with the key of
  the record, which is made from it if there is none yet.
-/
theorem resolve_present
    (make : Record → ι)
    {r : Record}
    (columns : List String)
    (hMake : ∀ r, keyOfInstance (make r) = r.identityKey)
    (hTracks : Tracks keyOfInstance e cache)
    (hListable : r.Listable e) :
    ∃ i cache',
      cache.resolve make ⟨columns, r.values⟩ =
        .ok (some i, cache') ∧
      Tracks keyOfInstance e cache' ∧
      (cache'.instances.map keyOfInstance)[i]? =
        some r.identityKey ∧
      ((r.identityKey ∈ cache.instances.map keyOfInstance ∧
          cache'.instances = cache.instances) ∨
        (r.identityKey ∉ cache.instances.map keyOfInstance ∧
          cache'.instances = cache.instances ++ [make r])) := by
  have hKey := hTracks.keyOf_eq hListable.type_eq
    hListable.survives
  have hFloat : ∀ bits,
      cache.keyOf ⟨columns, r.values⟩ ≠ .float bits := by
    rw [hKey columns]
    exact hListable.not_float
  rcases cache.resolve_cases make ⟨columns, r.values⟩ with
    ⟨values, answer, hPrevious, hSame, hResolve⟩ | hResolve
  · rcases hTracks.previous_eq values answer hPrevious with
      ⟨hNull, _⟩ | ⟨_, hSome, hFound⟩
    · rw [all_isNull_eq_of_sameValues hSame,
        hListable.not_null] at hNull
      cases hNull
    · rcases Option.isSome_iff_exists.mp hSome with ⟨i, rfl⟩
      rw [keyOf_eq_of_sameValues (b := ⟨columns, r.values⟩)
        hSame hFloat, hKey columns, hTracks.find?_iff] at hFound
      exact ⟨i, cache, hResolve, hTracks, hFound,
        Or.inl ⟨List.mem_of_getElem? hFound, rfl⟩⟩
  · cases hFind : cache.find? r.identityKey with
    | some i =>
        have hLookUp :
            cache.lookUp make ⟨columns, r.values⟩ =
              .ok (some i, cache) := by
          simp [lookUp, Row.isAllNull, hListable.not_null, hKey,
            hFind]
        rw [hLookUp] at hResolve
        have hFound := (hTracks.find?_iff _ i).mp hFind
        refine ⟨i, _, hResolve, hTracks.withPrevious ?_, hFound,
          Or.inl ⟨List.mem_of_getElem? hFound, rfl⟩⟩
        refine Or.inr ⟨hListable.not_null, rfl, ?_⟩
        rw [hKey []]
        exact hFind
    | none =>
        have hNew := (hTracks.find?_eq_none_iff _).mp hFind
        have hBuild :
            cache.build ⟨columns, r.values⟩ = .ok r :=
          build_of_survives columns
            (hListable.type_eq.trans hTracks.type_eq.symm)
            hListable.survives
        have hLookUp :
            cache.lookUp make ⟨columns, r.values⟩ =
              .ok (some cache.instances.length,
                cache.add r.identityKey (make r)) := by
          simp [lookUp, Row.isAllNull, hListable.not_null, hKey,
            hFind, hBuild, Bind.bind, Except.bind]
        rw [hLookUp] at hResolve
        have hAdded := hTracks.add hNew (hMake r)
        have hLast :
            ((cache.add r.identityKey (make r)).instances.map
                keyOfInstance)[cache.instances.length]? =
              some r.identityKey := by
          simp [IdentityCache.add, hMake]
        refine ⟨_, _, hResolve, hAdded.withPrevious ?_, hLast,
          Or.inr ⟨hNew, rfl⟩⟩
        refine Or.inr ⟨hListable.not_null, rfl, ?_⟩
        change (cache.add r.identityKey (make r)).find?
          (cache.keyOf ⟨[], r.values⟩) = _
        rw [hKey [], hAdded.find?_iff]
        exact hLast

/- Resolving a slice makes one instance of it, or none. -/
theorem made_of_resolve
    {cache' : IdentityCache ι}
    {make : Record → ι}
    {slice : Row}
    {answer : Option Nat}
    (hResolve : cache.resolve make slice = .ok (answer, cache')) :
    cache'.type = cache.type ∧
      (cache'.instances = cache.instances ∨
        ∃ r, cache.build slice = .ok r ∧
          cache'.instances = cache.instances ++ [make r]) := by
  rcases cache.resolve_cases make slice with
    ⟨_, _, _, _, hKept⟩ | hLooked
  · cases hKept.symm.trans hResolve
    exact ⟨rfl, .inl rfl⟩
  · rw [hLooked, lookUp] at hResolve
    cases hNull : slice.isAllNull with
    | true =>
        simp only [hNull, if_true] at hResolve
        cases hResolve
        exact ⟨rfl, .inl rfl⟩
    | false =>
        simp only [hNull, Bool.false_eq_true, if_false] at hResolve
        cases hFound : cache.find? (cache.keyOf slice) with
        | some i =>
            simp only [hFound] at hResolve
            cases hResolve
            exact ⟨rfl, .inl rfl⟩
        | none =>
            simp only [hFound] at hResolve
            cases hBuilt : cache.build slice with
            | error e =>
                rw [hBuilt] at hResolve
                cases hResolve
            | ok r =>
                rw [hBuilt] at hResolve
                cases hResolve
                exact ⟨rfl, .inr ⟨r, rfl, rfl⟩⟩

end resolve

end IdentityCache

end EntitySql
