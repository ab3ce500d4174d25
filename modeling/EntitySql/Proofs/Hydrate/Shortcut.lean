import EntitySql.Proofs.Hydrate.KeptInstances
import EntitySql.Proofs.Value.Equality

/-
  The shortcut for repeated slices answers what a lookup of the
  key would, unless a key turns from one zero into the other.

  Key definitions include:
    * `IdentityCache.resolveAll`, `IdentityCache.lookUpAll`
    * `IdentityCache.leaders`
    * `IdentityCache.TurnsZero`

  Key theorems include:
    * `IdentityCache.Lists.of_lookUpAll`
    * `IdentityCache.Lists.resolveAll_leadersFrom`
    * `IdentityCache.resolveAll_eq_lookUpAll_iff`

  The shortcut compares values, and the lookup compares keys.
  Equal values have one key, except for the two zeros among the
  floats: they are equal, and their bit patterns differ.
-/

namespace EntitySql

namespace IdentityCache

variable {ι : Type}

------------------------------------------------------------
-- Runs over slices
------------------------------------------------------------

/-
  Take in slices with a step: the answer for every slice, and
  the instances at the end. The first error ends the run.
-/
def answersBy
    (step :
      IdentityCache ι → Row →
        Except MappingError (Option Nat × IdentityCache ι)) :
    IdentityCache ι → List Row →
      Except MappingError (List (Option Nat) × List ι)
  | cache, [] => .ok ([], cache.instances)
  | cache, slice :: slices => do
      let (answer, next) ← step cache slice
      let (answers, instances) ← answersBy step next slices
      .ok (answer :: answers, instances)

/- Resolve slices in order. -/
def resolveAll
    (cache : IdentityCache ι)
    (make : Record → ι)
    (slices : List Row) :
    Except MappingError (List (Option Nat) × List ι) :=
  answersBy (fun cache slice => cache.resolve make slice) cache slices

/- Take slices in by the test for NULLs and their keys alone. -/
def lookUpAll
    (cache : IdentityCache ι)
    (make : Record → ι)
    (slices : List Row) :
    Except MappingError (List (Option Nat) × List ι) :=
  answersBy (fun cache slice => cache.lookUp make slice) cache slices

theorem resolveAll_cons
    (cache : IdentityCache ι)
    (make : Record → ι)
    (slice : Row)
    (slices : List Row) :
    cache.resolveAll make (slice :: slices) = (do
      let (answer, next) ← cache.resolve make slice
      let (answers, instances) ← next.resolveAll make slices
      .ok (answer :: answers, instances)) :=
  rfl

theorem lookUpAll_cons
    (cache : IdentityCache ι)
    (make : Record → ι)
    (slice : Row)
    (slices : List Row) :
    cache.lookUpAll make (slice :: slices) = (do
      let (answer, next) ← cache.lookUp make slice
      let (answers, instances) ← next.lookUpAll make slices
      .ok (answer :: answers, instances)) :=
  rfl

/- The slice that stands for another one after the kept slice. -/
def leaderOf
    (kept : Option Row)
    (slice : Row) : Row :=
  match kept with
  | some k => if sameValues k.values slice.values then k else slice
  | none => slice

/-
  Each slice, or in its place the kept one if that is equal.
  What stands in a place is kept for the next one.
-/
def leadersFrom
    (kept : Option Row) : List Row → List Row
  | [] => []
  | slice :: slices =>
      leaderOf kept slice ::
        leadersFrom (some (leaderOf kept slice)) slices

/- The first of the equal slices in a row, for each of them. -/
def leaders
    (slices : List Row) : List Row :=
  leadersFrom none slices

------------------------------------------------------------
-- Lookups
------------------------------------------------------------

/- A lookup does not look at the slice seen last. -/
theorem lookUp_withPrevious
    (cache : IdentityCache ι)
    (make : Record → ι)
    (slice : Row)
    (previous : Option (List Value × Option Nat)) :
    lookUp { cache with previous := previous } make slice =
      (cache.lookUp make slice).map fun (answer, next) =>
        (answer, { next with previous := previous }) := by
  have hFind :
      find? { cache with previous := previous }
          (keyOf { cache with previous := previous } slice) =
        cache.find? (cache.keyOf slice) :=
    rfl
  have hBuild :
      build { cache with previous := previous } slice =
        cache.build slice :=
    rfl
  unfold lookUp
  split
  · rfl
  · cases hCase : cache.find? (cache.keyOf slice) with
    | some i => simp only [hFind, hCase, Except.map]
    | none =>
        simp only [hFind, hBuild, hCase]
        cases cache.build slice <;> rfl

theorem lookUpAll_withPrevious
    (cache : IdentityCache ι)
    (make : Record → ι)
    (slices : List Row)
    (previous : Option (List Value × Option Nat)) :
    lookUpAll { cache with previous := previous } make slices =
      cache.lookUpAll make slices := by
  induction slices generalizing cache with
  | nil => rfl
  | cons slice slices ih =>
      rw [lookUpAll_cons, lookUpAll_cons, lookUp_withPrevious]
      cases cache.lookUp make slice with
      | error cause => rfl
      | ok named =>
          change
            (do
              let (answers, instances) ←
                lookUpAll { named.2 with previous := previous } make
                  slices
              _) = _
          rw [ih]
          rfl

/- Runs are alike if their first slices and their rests are. -/
theorem lookUpAll_cons_congr
    {cache : IdentityCache ι}
    {make : Record → ι}
    {a b : Row}
    {as bs : List Row}
    (hFirst : cache.lookUp make a = cache.lookUp make b)
    (hRest :
      ∀ answer next, cache.lookUp make b = .ok (answer, next) →
        next.lookUpAll make as = next.lookUpAll make bs) :
    cache.lookUpAll make (a :: as) =
      cache.lookUpAll make (b :: bs) := by
  rw [lookUpAll_cons, lookUpAll_cons, hFirst]
  rcases hLookUp : cache.lookUp make b with cause | ⟨answer, next⟩
  · rfl
  · simp only [bind, Except.bind, hRest answer next hLookUp]

/- The keys after a slice: its own is noted unless it is NULL. -/
def noteSlice
    (i : Nat)
    (keys : List IdentityKey)
    (slice : Row) : List IdentityKey :=
  if slice.isAllNull then keys else note keys (keyAt i slice.values)

/- The place of a slice among some keys, if it is not NULL. -/
def placeOf
    (i : Nat)
    (keys : List IdentityKey)
    (slice : Row) : Option Nat :=
  if slice.isAllNull then none
  else some (keys.idxOf (keyAt i slice.values))

/- The keys that slices show, in order of first appearance. -/
def shownKeys
    (i : Nat)
    (slices : List Row) : List IdentityKey :=
  ((slices.filter fun slice => !slice.isAllNull).map fun slice =>
    keyAt i slice.values).eraseDups

theorem prefix_noteSlice
    (i : Nat)
    (keys : List IdentityKey)
    (slice : Row) :
    keys <+: noteSlice i keys slice := by
  unfold noteSlice note
  split
  · exact List.prefix_rfl
  · split
    · exact List.prefix_rfl
    · exact List.prefix_append _ _

theorem prefix_foldl_noteSlice
    (i : Nat)
    (keys : List IdentityKey)
    (slices : List Row) :
    keys <+: slices.foldl (noteSlice i) keys := by
  induction slices generalizing keys with
  | nil => exact List.prefix_rfl
  | cons slice slices ih =>
      exact (prefix_noteSlice i keys slice).trans (ih _)

/- Noting slice by slice notes what they show. -/
theorem foldl_noteSlice
    (i : Nat)
    (slices : List Row) :
    slices.foldl (noteSlice i) [] = shownKeys i slices := by
  induction slices using List.reverseRecOn with
  | nil => rfl
  | append_singleton slices slice ih =>
      rw [List.foldl_append, ih, List.foldl_cons, List.foldl_nil,
        noteSlice, shownKeys, shownKeys, List.filter_append,
        List.filter_singleton]
      cases slice.isAllNull with
      | true => simp
      | false => simpa using (eraseDups_concat _ _).symm

/- More keys leave the place of a noted slice as it is. -/
theorem placeOf_of_prefix
    {i : Nat}
    {keys found : List IdentityKey}
    {slice : Row}
    (hPrefix : noteSlice i keys slice <+: found) :
    placeOf i found slice =
      placeOf i (noteSlice i keys slice) slice := by
  rcases hPrefix with ⟨rest, rfl⟩
  unfold placeOf noteSlice
  split
  · rfl
  · rw [List.idxOf_append_of_mem (RowReading.mem_note.mpr (.inr rfl))]

namespace Lists

variable {e : EntityType}
variable {i : Nat}
variable {keys : List IdentityKey}
variable {cache next : IdentityCache ι}
variable {make : Record → ι}
variable {slice : Row}
variable {slices : List Row}
variable {answer : Option Nat}

/- A lookup notes the key of a slice and answers its place. -/
theorem of_lookUp
    (hLists : Lists e i keys cache)
    (hLookUp : cache.lookUp make slice = .ok (answer, next)) :
    Lists e i (noteSlice i keys slice) next ∧
      answer = placeOf i (noteSlice i keys slice) slice := by
  unfold noteSlice placeOf
  by_cases hNull : AllNull slice.values
  · rw [lookUp_null cache make hNull] at hLookUp
    cases hLookUp
    have hValue : slice.isAllNull = true := hNull
    rw [if_pos hValue, if_pos hValue]
    exact ⟨hLists, rfl⟩
  · have hValue : ¬ slice.isAllNull = true := hNull
    rw [if_neg hValue, if_neg hValue, note]
    by_cases hKnown : keyAt i slice.values ∈ keys
    · rw [hLists.lookUp_known make hNull hKnown] at hLookUp
      cases hLookUp
      rw [if_pos hKnown]
      exact ⟨hLists, rfl⟩
    · rw [hLists.lookUp_new make hNull hKnown] at hLookUp
      rw [if_neg hKnown]
      cases hRead : Record.ofValues e slice.values with
      | error cause =>
          rw [hRead] at hLookUp
          cases hLookUp
      | ok r =>
          rw [hRead] at hLookUp
          cases hLookUp
          refine ⟨hLists.add, ?_⟩
          rw [List.idxOf_append_of_notMem hKnown,
            List.idxOf_cons_self, Nat.add_zero]

/- A run of lookups answers by the keys at its end. -/
theorem of_lookUpAll
    {answers : List (Option Nat)}
    {instances : List ι}
    (hLists : Lists e i keys cache)
    (hRun : cache.lookUpAll make slices = .ok (answers, instances)) :
    instances.length = (slices.foldl (noteSlice i) keys).length ∧
      answers =
        slices.map (placeOf i (slices.foldl (noteSlice i) keys)) := by
  induction slices generalizing cache keys answers with
  | nil =>
      cases hRun
      exact ⟨hLists.length_eq, rfl⟩
  | cons slice slices ih =>
      rw [lookUpAll_cons] at hRun
      rcases hLookUp : cache.lookUp make slice with
        cause | ⟨answer, next⟩
      · rw [hLookUp] at hRun
        cases hRun
      · rw [hLookUp] at hRun
        rcases hRest : next.lookUpAll make slices with
          cause | ⟨rest, found⟩
        · simp only [bind, Except.bind, hRest] at hRun
          cases hRun
        · simp only [bind, Except.bind, hRest] at hRun
          cases hRun
          rcases hLists.of_lookUp hLookUp with ⟨hNext, hAnswer⟩
          rcases ih hNext hRest with ⟨hLength, hAnswers⟩
          refine ⟨hLength, ?_⟩
          rw [List.foldl_cons, List.map_cons, ← hAnswers, hAnswer,
            placeOf_of_prefix (prefix_foldl_noteSlice i _ slices)]

end Lists

------------------------------------------------------------
-- Equal slices
------------------------------------------------------------

theorem sameValues_symm
    {as bs : List Value}
    (hSame : sameValues as bs = true) :
    sameValues bs as = true := by
  rw [sameValues_iff] at hSame ⊢
  exact hSame.flip.imp fun _ _ hEqual => Value.equal_symm hEqual

theorem sameValues_trans
    {as bs cs : List Value}
    (hFirst : sameValues as bs = true)
    (hSecond : sameValues bs cs = true) :
    sameValues as cs = true := by
  rw [sameValues_iff] at hFirst hSecond ⊢
  induction hFirst generalizing cs with
  | nil => exact hSecond
  | cons hEqual _ ih =>
      rcases hSecond with _ | ⟨hEqual', hRest⟩
      exact .cons (Value.equal_trans hEqual hEqual') (ih hRest)

/- The slices are equal, but their keys are different zeros. -/
def TurnsZero
    (i : Nat)
    (a b : Row) : Prop :=
  sameValues a.values b.values = true ∧
    ∃ x y : Double,
      a.values[i]? = some (.float x) ∧
      b.values[i]? = some (.float y) ∧
      x.magnitude = 0 ∧ y.magnitude = 0 ∧ x ≠ y

/- Equal slices have one key, unless it turns from zero to zero. -/
theorem turnsZero_iff
    {i : Nat}
    {a b : Row}
    (hSame : sameValues a.values b.values = true) :
    TurnsZero i a b ↔ keyAt i a.values ≠ keyAt i b.values := by
  constructor
  · rintro ⟨_, x, y, hLeft, hRight, _, _, hOther⟩ hKey
    simp only [keyAt, hLeft, hRight, Value.identityKey,
      IdentityKey.float.injEq] at hKey
    exact hOther (congrArg Double.mk hKey)
  · intro hKey
    have hValues := (sameValues_iff _ _).mp hSame
    have hLength := hValues.length_eq
    by_cases hIndex : i < a.values.length
    · have hLeft := List.getElem?_eq_getElem hIndex
      have hRight :=
        List.getElem?_eq_getElem (l := b.values) (hLength ▸ hIndex)
      have hEqual :=
        (List.forall₂_iff_get.mp hValues).2 i hIndex
          (hLength ▸ hIndex)
      simp only [keyAt, hLeft, hRight] at hKey
      rcases Value.eq_or_floats_of_equal hEqual with
        hValue | ⟨x, y, hx, hy, hNumbers⟩
      · exact absurd (congrArg Value.identityKey hValue) hKey
      · rw [List.get_eq_getElem] at hx hy
        rw [hx] at hLeft hKey
        rw [hy] at hRight hKey
        have hOther : x ≠ y := by
          rintro rfl
          exact hKey rfl
        rcases Double.eq_or_zeros_of_equal hNumbers with
          hNumber | ⟨hx', hy'⟩
        · exact absurd hNumber hOther
        · exact ⟨hSame, x, y, hLeft, hRight, hx', hy', hOther⟩
    · have hLeft := List.getElem?_eq_none (Nat.le_of_not_lt hIndex)
      have hRight :=
        List.getElem?_eq_none (l := b.values)
          (hLength ▸ Nat.le_of_not_lt hIndex)
      simp only [keyAt, hLeft, hRight] at hKey
      exact absurd rfl hKey

theorem not_turnsZero_iff
    {i : Nat}
    {a b : Row} :
    ¬ TurnsZero i a b ↔
      (sameValues a.values b.values = true →
        keyAt i a.values = keyAt i b.values) := by
  constructor
  · intro hTurns hSame
    rwa [turnsZero_iff hSame, not_not] at hTurns
  · rintro hKeys hTurns
    exact (turnsZero_iff hTurns.1).mp hTurns (hKeys hTurns.1)

------------------------------------------------------------
-- Leaders
------------------------------------------------------------

/- Look a slice up and keep it with its answer. -/
def lookUpKeeping
    (cache : IdentityCache ι)
    (make : Record → ι)
    (slice : Row) :
    Except MappingError (Option Nat × IdentityCache ι) := do
  let (answer, next) ← cache.lookUp make slice
  .ok
    (answer, { next with previous := some (slice.values, answer) })

theorem leaderOf_of_same
    {kept slice : Row}
    (hSame : sameValues kept.values slice.values = true) :
    leaderOf (some kept) slice = kept := by
  rw [leaderOf, if_pos hSame]

theorem leaderOf_of_other
    {kept slice : Row}
    (hOther : sameValues kept.values slice.values = false) :
    leaderOf (some kept) slice = slice := by
  rw [leaderOf, hOther, if_neg Bool.false_ne_true]

/- The leader of a slice is that slice, or equal to it. -/
def Leads
    (leader slice : Row) : Prop :=
  leader = slice ∨ sameValues leader.values slice.values = true

/- What equals a slice equals its leader, and the other way. -/
theorem Leads.same_iff
    {k a b : Row}
    (hLeads : Leads k a) :
    sameValues k.values b.values = true ↔
      sameValues a.values b.values = true := by
  rcases hLeads with rfl | hSame
  · rfl
  · exact ⟨sameValues_trans (sameValues_symm hSame),
      sameValues_trans hSame⟩

/-
  If slices and their leaders have the same answers, equal
  slices in a row have one answer.
-/
theorem isChain_of_leadersFrom
    {γ : Type}
    {f g : Row → γ}
    {k a : Row}
    {slices : List Row}
    (hAnswers :
      (leadersFrom (some k) slices).map f = slices.map g)
    (hLeads : Leads k a)
    (hAnswer : f k = g a) :
    (a :: slices).IsChain fun a b =>
      sameValues a.values b.values = true → g a = g b := by
  induction slices generalizing k a with
  | nil => exact .singleton a
  | cons b slices ih =>
      rw [leadersFrom, List.map_cons, List.map_cons,
        List.cons.injEq] at hAnswers
      rcases hAnswers with ⟨hFirst, hRest⟩
      cases hSame : sameValues k.values b.values with
      | true =>
          rw [leaderOf_of_same hSame] at hFirst hRest
          exact .cons_cons (fun _ => hAnswer.symm.trans hFirst)
            (ih hRest (.inr hSame) hFirst)
      | false =>
          rw [leaderOf_of_other hSame] at hFirst hRest
          have hOther : sameValues a.values b.values ≠ true := by
            rw [ne_eq, ← hLeads.same_iff, hSame]
            exact Bool.false_ne_true
          exact .cons_cons (fun hEqual => absurd hEqual hOther)
            (ih hRest (.inl rfl) hFirst)

namespace Lists

variable {e : EntityType}
variable {i : Nat}
variable {keys : List IdentityKey}
variable {cache next : IdentityCache ι}
variable {make : Record → ι}
variable {slice : Row}
variable {slices : List Row}
variable {kept : Option Row}
variable {answer : Option Nat}

/- What is kept after a lookup is the answer of the slice. -/
theorem after_lookUp
    (hLists : Lists e i keys cache)
    (hLookUp : cache.lookUp make slice = .ok (answer, next)) :
    Lists e i (noteSlice i keys slice)
      { next with previous := some (slice.values, answer) } := by
  rcases hLists.of_lookUp hLookUp with ⟨hNext, rfl⟩
  apply hNext.withPrevious
  unfold placeOf noteSlice
  by_cases hNull : slice.isAllNull = true
  · rw [if_pos hNull, if_pos hNull]
    exact .inl ⟨hNull, rfl⟩
  · rw [if_neg hNull, if_neg hNull]
    exact .inr ⟨hNull, RowReading.mem_note.mpr (.inr rfl), rfl⟩

/- The kept answer is the one of a lookup. -/
theorem lookUp_previous
    (hLists : Lists e i keys cache)
    (hPrevious : cache.previous = some (slice.values, answer)) :
    cache.lookUp make slice = .ok (answer, cache) := by
  rcases hLists.previous_eq _ _ hPrevious with
    ⟨hNull, rfl⟩ | ⟨hPresent, hKnown, rfl⟩
  · exact lookUp_null cache make hNull
  · exact hLists.lookUp_known make hPresent hKnown

/- Resolving a slice looks its leader up, and keeps that one. -/
theorem resolve_leaderOf
    (hLists : Lists e i keys cache)
    (hKept : cache.previous.map Prod.fst = kept.map Row.values) :
    cache.resolve make slice =
      cache.lookUpKeeping make (leaderOf kept slice) := by
  cases hPrevious : cache.previous with
  | none =>
      have hNone : kept = none := by
        simpa [hPrevious] using hKept
      subst hNone
      exact resolve_of_other make (by rw [hPrevious]; nofun)
  | some previous =>
      rcases previous with ⟨values, answer⟩
      rcases kept with _ | k
      · simp [hPrevious] at hKept
      · have hValues : values = k.values := by
          simpa [hPrevious] using hKept
        subst hValues
        cases hSame : sameValues k.values slice.values with
        | false =>
            have hOther :
                ∀ values answer, cache.previous = some (values, answer) →
                  sameValues values slice.values = false := by
              rintro values answer hNow
              cases hPrevious.symm.trans hNow
              exact hSame
            rw [leaderOf_of_other hSame]
            exact resolve_of_other make hOther
        | true =>
            rw [leaderOf_of_same hSame,
              resolve_of_repeated make hPrevious hSame, lookUpKeeping,
              hLists.lookUp_previous hPrevious]
            simp only [bind, Except.bind, ← hPrevious]

/-
  A run with the shortcut is a run of lookups of the leaders.
  The induction is on the slices; the slice that the cache has
  kept is the leader of the one before.
-/
theorem resolveAll_leadersFrom
    (hLists : Lists e i keys cache)
    (hKept : cache.previous.map Prod.fst = kept.map Row.values) :
    cache.resolveAll make slices =
      cache.lookUpAll make (leadersFrom kept slices) := by
  induction slices generalizing cache keys kept with
  | nil => rfl
  | cons slice slices ih =>
      rw [resolveAll_cons, leadersFrom, lookUpAll_cons,
        hLists.resolve_leaderOf hKept, lookUpKeeping]
      rcases hLookUp : cache.lookUp make (leaderOf kept slice) with
        cause | ⟨answer, next⟩
      · rfl
      · have hLeader :
            (some ((leaderOf kept slice).values, answer)).map Prod.fst =
              (some (leaderOf kept slice)).map Row.values :=
          rfl
        have hRest := ih (hLists.after_lookUp hLookUp) hLeader
        rw [lookUpAll_withPrevious] at hRest
        simp only [bind, Except.bind, hRest]

/- A slice is looked up like an equal one of the same key. -/
theorem lookUp_eq_of_same
    {a b : Row}
    (hLists : Lists e i keys cache)
    (hKnown : AllNull a.values ∨ keyAt i a.values ∈ keys)
    (hSame : sameValues a.values b.values = true)
    (hKey : keyAt i a.values = keyAt i b.values) :
    cache.lookUp make a = cache.lookUp make b := by
  have hNulls := all_isNull_eq_of_sameValues hSame
  by_cases hNull : AllNull a.values
  · have hNull' : AllNull b.values := hNulls.symm.trans hNull
    rw [lookUp_null cache make hNull, lookUp_null cache make hNull']
  · have hPresent : ¬ AllNull b.values :=
      fun hNull' => hNull (hNulls.trans hNull')
    have hFound := hKnown.resolve_left hNull
    rw [hLists.lookUp_known make hNull hFound,
      hLists.lookUp_known make hPresent (hKey ▸ hFound), hKey]

/- What a lookup has taken in is known from then on. -/
theorem known_of_noteSlice
    (i : Nat)
    (keys : List IdentityKey)
    (slice : Row) :
    AllNull slice.values ∨
      keyAt i slice.values ∈ noteSlice i keys slice := by
  by_cases hNull : slice.isAllNull = true
  · exact .inl hNull
  · rw [noteSlice, if_neg hNull]
    exact .inr (RowReading.mem_note.mpr (.inr rfl))

/-
  Where no key turns from zero to zero, looking up the leaders
  is looking up the slices. The induction is on the slices; the
  leader of the one before has its key.
-/
theorem lookUpAll_leadersFrom
    {k a : Row}
    (hLists : Lists e i keys cache)
    (hKnown : AllNull k.values ∨ keyAt i k.values ∈ keys)
    (hLeads : Leads k a)
    (hKey : keyAt i k.values = keyAt i a.values)
    (hChain : (a :: slices).IsChain fun a b => ¬ TurnsZero i a b) :
    cache.lookUpAll make (leadersFrom (some k) slices) =
      cache.lookUpAll make slices := by
  induction slices generalizing k a cache keys with
  | nil => rfl
  | cons b slices ih =>
      rw [List.isChain_cons_cons, not_turnsZero_iff] at hChain
      rcases hChain with ⟨hTurns, hChain⟩
      rw [leadersFrom]
      cases hSame : sameValues k.values b.values with
      | true =>
          have hKey' : keyAt i k.values = keyAt i b.values :=
            hKey.trans (hTurns (hLeads.same_iff.mp hSame))
          rw [leaderOf_of_same hSame]
          apply lookUpAll_cons_congr
            (hLists.lookUp_eq_of_same hKnown hSame hKey')
          intro answer next hLookUp
          have hNext := (hLists.of_lookUp hLookUp).1
          have hStill :=
            hKnown.imp_right fun hMem =>
              (prefix_noteSlice i keys b).subset hMem
          exact ih hNext hStill (.inr hSame) hKey' hChain
      | false =>
          rw [leaderOf_of_other hSame]
          apply lookUpAll_cons_congr rfl
          intro answer next hLookUp
          have hNext := (hLists.of_lookUp hLookUp).1
          exact ih hNext (known_of_noteSlice i keys b) (.inl rfl) rfl
            hChain

/- From a cache at its start, lookups do not need the leaders. -/
theorem lookUpAll_leaders
    (hLists : Lists e i keys cache)
    (hChain : slices.IsChain fun a b => ¬ TurnsZero i a b) :
    cache.lookUpAll make (leaders slices) =
      cache.lookUpAll make slices := by
  cases slices with
  | nil => rfl
  | cons slice slices =>
      have hLeaders :
          leaders (slice :: slices) =
            slice :: leadersFrom (some slice) slices :=
        rfl
      rw [hLeaders]
      apply lookUpAll_cons_congr rfl
      intro answer next hLookUp
      have hNext := (hLists.of_lookUp hLookUp).1
      exact hNext.lookUpAll_leadersFrom
        (known_of_noteSlice i keys slice) (.inl rfl) rfl hChain

end Lists

/- A cache at its start lists no keys and has kept no slice. -/
theorem lists_of_start
    {e : EntityType}
    {cache : IdentityCache ι}
    (hStart : start e = .ok cache) :
    Lists e cache.keyPosition [] cache ∧ cache.previous = none := by
  cases hPosition : e.identityPosition with
  | error cause =>
      rw [start, hPosition] at hStart
      cases hStart
  | ok i =>
      rw [start_eq hPosition] at hStart
      cases hStart
      exact ⟨lists_start e i, rfl⟩

/- Different keys have different places. -/
theorem placeOf_ne_of_turnsZero
    {i : Nat}
    {slices : List Row}
    {a b : Row}
    (hMem : a ∈ slices)
    (hTurns : TurnsZero i a b) :
    placeOf i (shownKeys i slices) a ≠
      placeOf i (shownKeys i slices) b := by
  have hKeys := (turnsZero_iff hTurns.1).mp hTurns
  rcases hTurns with ⟨hSame, x, y, hLeft, _⟩
  have hValue : Value.float x ∈ a.values := List.mem_of_getElem? hLeft
  have hPresent : a.isAllNull = false := by
    rw [Row.isAllNull, List.all_eq_false]
    exact ⟨.float x, hValue, Bool.false_ne_true⟩
  have hPresent' : b.isAllNull = false :=
    (all_isNull_eq_of_sameValues hSame).symm.trans hPresent
  have hShown : keyAt i a.values ∈ shownKeys i slices := by
    rw [shownKeys, List.mem_eraseDups]
    exact List.mem_map.mpr
      ⟨a, List.mem_filter.mpr ⟨hMem, by simp [hPresent]⟩, rfl⟩
  simpa [placeOf, hPresent, hPresent', List.idxOf_inj hShown]
    using hKeys

/-
  What the shortcut can be seen by. A run with it is a run of
  lookups of the leaders: of equal slices in a row all stand for
  the first. Where no key turns from zero to zero this is the
  run of lookups of the slices, and where one does and the run
  succeeds, it is not. There are as many instances as keys that
  the looked-up slices show.
-/
theorem resolveAll_eq_lookUpAll_iff
    {e : EntityType}
    {cache : IdentityCache ι}
    (make : Record → ι)
    (slices : List Row)
    (hStart : start e = .ok cache) :
    cache.resolveAll make slices =
        cache.lookUpAll make (leaders slices) ∧
      ((slices.IsChain fun a b => ¬ TurnsZero cache.keyPosition a b) →
        cache.resolveAll make slices = cache.lookUpAll make slices) ∧
      ∀ answers instances,
        cache.resolveAll make slices = .ok (answers, instances) →
        (cache.lookUpAll make slices = .ok (answers, instances) ↔
          slices.IsChain fun a b =>
            ¬ TurnsZero cache.keyPosition a b) ∧
        instances.length =
          (shownKeys cache.keyPosition (leaders slices)).length ∧
        (cache.lookUpAll make slices = .ok (answers, instances) →
          instances.length =
            (shownKeys cache.keyPosition slices).length) := by
  rcases lists_of_start hStart with ⟨hLists, hPrevious⟩
  have hLeaders :
      cache.resolveAll make slices =
        cache.lookUpAll make (leaders slices) := by
    apply hLists.resolveAll_leadersFrom
    rw [hPrevious]
    rfl
  have hRun {slices : List Row} {answers instances}
      (hOk : cache.lookUpAll make slices = .ok (answers, instances)) :=
    hLists.of_lookUpAll hOk
  simp only [foldl_noteSlice] at hRun
  refine ⟨hLeaders, ?_, ?_⟩
  · intro hChain
    rw [hLeaders, hLists.lookUpAll_leaders hChain]
  · intro answers instances hResolved
    rcases hRun (hLeaders.symm.trans hResolved) with
      ⟨hLength, hAnswers⟩
    refine ⟨⟨?_, ?_⟩, hLength, fun hLookedUp => (hRun hLookedUp).1⟩
    · intro hLookedUp
      have hPlaces := hAnswers.symm.trans (hRun hLookedUp).2
      cases slices with
      | nil => exact .nil
      | cons first rest =>
          rw [leaders, leadersFrom, List.map_cons, List.map_cons,
            List.cons.injEq] at hPlaces
          have hEqual :=
            isChain_of_leadersFrom hPlaces.2 (.inl rfl) hPlaces.1
          refine hEqual.imp_of_mem_imp ?_
          intro a b hMem _ hSame hTurns
          exact placeOf_ne_of_turnsZero hMem hTurns (hSame hTurns.1)
    · intro hChain
      rw [← hLists.lookUpAll_leaders hChain, ← hLeaders, hResolved]

end IdentityCache

namespace AnyKeys

/- An entity whose key takes any value. -/
def anyKey : EntityType where
  key := ⟨0, "AnyKey"⟩
  table := "any_keys"
  properties :=
    [ { column := "label", declaredType := "SqlValue"
        type := ⟨.any, false⟩ },
      { column := "key", declaredType := "SqlValue"
        type := ⟨.any, false⟩, identity := true } ]

def cache : IdentityCache Record where
  type := anyKey
  keyPosition := 1
  previous := none
  instances := []
  positions := []

def slice
    (label key : Value) : Row :=
  ⟨["label", "key"], [label, key]⟩

/- The two zeros, one that is no number, and one half. -/
def zero : Value := .float ⟨0⟩
def minusZero : Value := .float ⟨0x8000000000000000⟩
def noNumber : Value := .float ⟨0x7FF8000000000000⟩
def half : Value := .float ⟨0x3FE0000000000000⟩

def made
    (label key : Value) : Record :=
  ⟨anyKey, [.any label, .any key]⟩

/-
  A truth value has the key of its number, what is no number
  repeats its key without being equal to itself, and the zeros
  have two keys. Between the zeros stands another slice.
-/
theorem resolveAll_any_keys :
    let slices :=
      [ slice .null .null, slice (.text "a") (.bool true),
        slice (.text "a") (.int 1), slice (.text "a") noNumber,
        slice (.text "a") noNumber, slice (.text "a") zero,
        slice (.text "a") zero, slice (.text "a") half,
        slice (.text "a") minusZero, slice (.text "a") .null ]
    let found :=
      ( [none, some 0, some 0, some 1, some 1, some 2, some 2,
          some 3, some 4, some 5],
        [made (.text "a") (.bool true), made (.text "a") noNumber,
          made (.text "a") zero, made (.text "a") half,
          made (.text "a") minusZero, made (.text "a") .null] )
    IdentityCache.start anyKey = .ok cache ∧
      cache.resolveAll id slices = .ok found ∧
      cache.lookUpAll id slices = .ok found ∧
      found.2.length = (IdentityCache.shownKeys 1 slices).length := by
  intro slices found
  have hStart : IdentityCache.start anyKey = .ok cache := rfl
  have hRun : cache.resolveAll id slices = .ok found := by
    decide +kernel
  have hChain :
      slices.IsChain fun a b =>
        ¬ IdentityCache.TurnsZero cache.keyPosition a b := by
    simp only [IdentityCache.not_turnsZero_iff]
    decide +kernel
  rcases IdentityCache.resolveAll_eq_lookUpAll_iff id slices hStart
    with ⟨_, hSame, hFound⟩
  rcases hFound _ _ hRun with ⟨_, _, hLength⟩
  have hLookedUp := (hSame hChain).symm.trans hRun
  exact ⟨hStart, hRun, hLookedUp, hLength hLookedUp⟩

/-
  Zeros in a row are one instance to the shortcut, and two keys
  to the lookup.
-/
theorem resolveAll_ne_lookUpAll :
    let slices :=
      [slice (.text "a") zero, slice (.text "a") minusZero]
    IdentityCache.start anyKey = .ok cache ∧
      cache.resolveAll id slices =
        .ok ([some 0, some 0], [made (.text "a") zero]) ∧
      cache.lookUpAll id slices =
        .ok
          ( [some 0, some 1],
            [made (.text "a") zero, made (.text "a") minusZero] ) ∧
      (IdentityCache.shownKeys 1 slices).length = 2 := by
  intro slices
  refine ⟨rfl, ?_⟩
  decide +kernel

end AnyKeys

end EntitySql
