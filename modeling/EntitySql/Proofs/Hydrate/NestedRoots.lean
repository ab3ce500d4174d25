import EntitySql.Proofs.Hydrate.Recovery
import EntitySql.Proofs.Hydrate.Roots

/-
  Nested hydration and the hydration of roots alone find the
  same roots: what children are wired to a root does not change
  which roots there are, nor what was read into their columns.

  Key definitions include:
    * `IdentityCache.map`
    * `Slot.Spares`

  Key theorems include:
    * `IdentityCache.resolve_map`
    * `Nesting.takeRow_of_step`
    * `Nesting.takeRows_of_steps`
    * `hydrateRoots_eq_of_hydrateNested`

  The two runs keep the same cache of roots. Seen through the
  mapped columns, the roots of the nested run are the records
  of the other one after every row.
-/

namespace EntitySql

------------------------------------------------------------
-- Caches seen through a function
------------------------------------------------------------

namespace IdentityCache

variable {ι κ : Type}

/- The same cache with every instance seen through a function. -/
def map
    (f : ι → κ)
    (cache : IdentityCache ι) : IdentityCache κ :=
  { type := cache.type
    keyPosition := cache.keyPosition
    previous := cache.previous
    instances := cache.instances.map f
    positions := cache.positions }

/- What is answered, and the cache after it, seen so too. -/
def mapAnswer
    (f : ι → κ)
    (answer : Option Nat × IdentityCache ι) :
    Option Nat × IdentityCache κ :=
  (answer.1, answer.2.map f)

variable {f : ι → κ}
variable {make : Record → ι}
variable {make' : Record → κ}

theorem map_add
    (cache : IdentityCache ι)
    (key : IdentityKey)
    (made : ι) :
    (cache.add key made).map f = (cache.map f).add key (f made) := by
  simp [add, map]

/- A lookup sees keys and slices, and no instance. -/
theorem lookUp_map
    (hMake : ∀ r, f (make r) = make' r)
    (cache : IdentityCache ι)
    (slice : Row) :
    (cache.map f).lookUp make' slice =
      (cache.lookUp make slice).map (mapAnswer f) := by
  have hKey : (cache.map f).keyOf slice = cache.keyOf slice := rfl
  have hFind (key : IdentityKey) :
      (cache.map f).find? key = cache.find? key := rfl
  have hBuild : (cache.map f).build slice = cache.build slice := rfl
  have hSize : (cache.map f).instances.length = cache.instances.length :=
    List.length_map f
  unfold lookUp
  simp only [hKey, hFind, hBuild, hSize]
  cases slice.isAllNull with
  | true => rfl
  | false =>
      cases cache.find? (cache.keyOf slice) with
      | some i => rfl
      | none =>
          cases cache.build slice with
          | error e => rfl
          | ok r =>
              have hAdd :=
                map_add (f := f) cache (cache.keyOf slice) (make r)
              rw [hMake r] at hAdd
              simp [Except.map, Bind.bind, Except.bind, mapAnswer, hAdd]

/- So does the answer for a slice. -/
theorem resolve_map
    (hMake : ∀ r, f (make r) = make' r)
    (cache : IdentityCache ι)
    (slice : Row) :
    (cache.map f).resolve make' slice =
      (cache.resolve make slice).map (mapAnswer f) := by
  have hPrevious : (cache.map f).previous = cache.previous := rfl
  have hLookUp := lookUp_map hMake cache slice
  unfold resolve
  simp only [hPrevious, hLookUp]
  cases cache.previous with
  | none => cases cache.lookUp make slice <;> rfl
  | some kept =>
      rcases kept with ⟨values, answer⟩
      cases hSame : sameValues values slice.values with
      | true =>
          simp only [hSame]
          rfl
      | false =>
          simp only [hSame]
          cases cache.lookUp make slice <;> rfl

/- A lookup may add an instance, of the same type. -/
theorem type_eq_of_resolve
    {cache cache' : IdentityCache ι}
    {slice : Row}
    {answer : Option Nat}
    (hResolve : cache.resolve make slice = .ok (answer, cache')) :
    cache'.type = cache.type :=
  (made_of_resolve hResolve).1

/- Caches start alike, whatever their instances will be. -/
theorem start_map
    (f : ι → κ)
    (e : EntityType) :
    (start e : Except MappingError (IdentityCache κ)) =
      (start e).map (map f) := by
  unfold start
  cases e.identityPosition <;> rfl

theorem type_eq_of_start
    {e : EntityType}
    {cache : IdentityCache ι}
    (hStart : start e = .ok cache) :
    cache.type = e := by
  unfold start at hStart
  cases hPosition : e.identityPosition with
  | error cause =>
      rw [hPosition] at hStart
      cases hStart
  | ok i =>
      rw [hPosition] at hStart
      cases hStart
      rfl

end IdentityCache

------------------------------------------------------------
-- Wiring
------------------------------------------------------------

/- Wiring a child leaves the mapped columns of a root alone. -/
def Slot.Spares
    {ρ : Type}
    (own : ρ → Record)
    (slot : Slot ρ) : Prop :=
  ∀ root child, own (slot.wire root child) = own root

namespace Nesting

variable {ρ : Type}
variable {own : ρ → Record}
variable {make : Record → ρ}
variable {slots : List (Slot ρ)}

theorem own_wireChildren
    (hSpares : ∀ slot ∈ slots, slot.Spares own)
    (caches : List (IdentityCache Record))
    (children : List (Option Nat))
    (root : ρ) :
    own (wireChildren slots caches children root) = own root := by
  unfold wireChildren
  have hSlots :
      ∀ item ∈ (slots.zip caches).zip children,
        item.1.1.Spares own := by
    rintro ⟨⟨slot, cache⟩, child⟩ hItem
    exact hSpares slot (List.of_mem_zip (List.of_mem_zip hItem).1).1
  generalize (slots.zip caches).zip children = items at hSlots ⊢
  induction items generalizing root with
  | nil => rfl
  | cons item items ih =>
      rw [List.forall_mem_cons] at hSlots
      rw [List.foldl_cons, ih _ hSlots.2]
      rcases item with ⟨⟨slot, cache⟩, child⟩
      dsimp only
      split
      · exact hSlots.1 root _
      · rfl

/- Wiring some root leaves the mapped columns of all alone. -/
theorem map_own_modify
    (hSpares : ∀ slot ∈ slots, slot.Spares own)
    (caches : List (IdentityCache Record))
    (children : List (Option Nat))
    (roots : List ρ)
    (i : Nat) :
    (roots.modify i (wireChildren slots caches children)).map own =
      roots.map own := by
  apply List.ext_getElem?
  intro n
  rw [List.getElem?_map, List.getElem?_map, List.getElem?_modify]
  cases roots[n]? with
  | none => rfl
  | some root =>
      by_cases hHere : i = n
      · simp [hHere, own_wireChildren hSpares]
      · simp [hHere]

------------------------------------------------------------
-- Rows
------------------------------------------------------------

/-
  A row that the nested run takes in is taken in by the run for
  roots alone, and afterwards the roots are the same. A row
  without a root is passed over by one and adds no root to the
  other.
-/
theorem takeRow_of_step
    {expected : Nat}
    {state state' : Nesting ρ}
    {row : Row}
    (hMake : ∀ r, own (make r) = r)
    (hSpares : ∀ slot ∈ slots, slot.Spares own)
    (hStep : step slots make expected state row = .ok state') :
    (state.roots.map own).takeRow state.roots.type.width row =
        .ok (state'.roots.map own) ∧
      state'.roots.type = state.roots.type := by
  unfold step at hStep
  split at hStep
  · cases hStep
  · unfold IdentityCache.takeRow
    cases hSlice : row.slice? 0 state.roots.type.width with
    | none =>
        simp only [hSlice] at hStep
        cases hStep
    | some slice =>
        simp only [hSlice] at hStep
        cases hResolve : state.roots.resolve make slice with
        | error e =>
            rw [hResolve] at hStep
            cases hStep
        | ok resolved =>
            rcases resolved with ⟨found, roots⟩
            have hTaken :
                (state.roots.map own).takeIn slice =
                  .ok (roots.map own) := by
              have hSame : ∀ r, own (make r) = id r := hMake
              unfold IdentityCache.takeIn
              rw [IdentityCache.resolve_map hSame, hResolve]
              rfl
            have hType := IdentityCache.type_eq_of_resolve hResolve
            simp only [hResolve, Bind.bind, Except.bind] at hStep
            rcases found with _ | i
            · cases hStep
              exact ⟨hTaken, hType⟩
            · dsimp only at hStep
              split at hStep
              · cases hStep
              · cases hStep
                refine ⟨hTaken.trans ?_, hType⟩
                unfold IdentityCache.map
                rw [map_own_modify hSpares]

/- The same for all rows of a result. -/
theorem takeRows_of_steps
    {e : EntityType}
    {expected : Nat}
    {state state' : Nesting ρ}
    {rows : List Row}
    (hMake : ∀ r, own (make r) = r)
    (hSpares : ∀ slot ∈ slots, slot.Spares own)
    (hType : state.roots.type = e)
    (hSteps :
      rows.foldlM (step slots make expected) state = .ok state') :
    rows.foldlM (IdentityCache.takeRow e.width) (state.roots.map own) =
      .ok (state'.roots.map own) := by
  induction rows generalizing state with
  | nil =>
      cases hSteps
      rfl
  | cons row rows ih =>
      rw [List.foldlM_cons] at hSteps
      cases hStep : step slots make expected state row with
      | error cause =>
          rw [hStep] at hSteps
          cases hSteps
      | ok next =>
          rw [hStep] at hSteps
          rcases takeRow_of_step hMake hSpares hStep with
            ⟨hTaken, hSame⟩
          rw [hType] at hTaken hSame
          rw [List.foldlM_cons, hTaken]
          exact ih hSame hSteps

end Nesting

------------------------------------------------------------
-- Results
------------------------------------------------------------

/-
  Wherever nested hydration succeeds, the hydration of roots
  alone succeeds as well. It gives as many roots in the same
  order, with what the nested run read into the mapped columns,
  whatever the slots are and whatever else wiring has changed.
-/
theorem hydrateRoots_eq_of_hydrateNested
    {ρ : Type}
    {root : EntityType}
    {make : Record → ρ}
    {slots : List (Slot ρ)}
    {set : ResultSet}
    {found : List ρ}
    (own : ρ → Record)
    (hMake : ∀ r, own (make r) = r)
    (hSpares : ∀ slot ∈ slots, slot.Spares own)
    (hNested : hydrateNested root make slots set = .ok found) :
    hydrateRoots root set = .ok (found.map own) := by
  unfold hydrateNested at hNested
  cases hStart :
      (IdentityCache.start root :
        Except MappingError (IdentityCache ρ)) with
  | error e =>
      rw [hStart] at hNested
      cases hNested
  | ok roots =>
      cases hChildren :
          (slots.mapM fun s => IdentityCache.start s.type :
            Except MappingError (List (IdentityCache Record))) with
      | error e =>
          rw [hStart, hChildren] at hNested
          cases hNested
      | ok children =>
          simp only [hStart, hChildren, Bind.bind, Except.bind]
            at hNested
          split at hNested
          · cases hNested
          · split at hNested
            · cases hNested
            · rename_i state hSteps
              cases hNested
              have hTaken :=
                Nesting.takeRows_of_steps hMake hSpares
                  (IdentityCache.type_eq_of_start hStart) hSteps
              unfold hydrateRoots
              rw [IdentityCache.start_map own, hStart]
              change
                (List.foldlM (IdentityCache.takeRow root.width)
                  (roots.map own) set.rowViews >>= fun cache =>
                    Except.ok cache.instances) = _
              rw [hTaken]
              rfl

------------------------------------------------------------
-- A torn root
------------------------------------------------------------

namespace SharedPost

/- A slot that hands every post to its blog. -/
def handedPosts : Slot (Record × List Record) where
  type := post
  wire blog child := (blog.1, blog.2 ++ [child])

/-
  The rows of the second blog stand apart, with a post of no
  blog and a blog of no post between them.
-/
theorem torn_blogs_have_same_roots :
    let make (r : Record) : Record × List Record := (r, [])
    let set : ResultSet :=
      { columns := ["t1_id", "t1_name", "t2_id", "t2_name"]
        rows :=
          [ [.int 2, .null, .int 1, .null],
            [.null, .null, .int 2, .null],
            [.int 1, .null, .null, .null],
            [.int 2, .null, .int 3, .null] ] }
    let found :=
      [ (record blog 2, [record post 1, record post 3]),
        (record blog 1, []) ]
    (∀ r, Prod.fst (make r) = r) ∧
      (∀ slot ∈ [handedPosts], slot.Spares Prod.fst) ∧
      hydrateNested blog make [handedPosts] set = .ok found ∧
      hydrateRoots blog set = .ok (found.map Prod.fst) := by
  intro make set found
  have hMake : ∀ r, Prod.fst (make r) = r := fun _ => rfl
  have hSpares : ∀ slot ∈ [handedPosts], slot.Spares Prod.fst := by
    rw [List.forall_mem_singleton]
    exact fun _ _ => rfl
  have hNested :
      hydrateNested blog make [handedPosts] set = .ok found := rfl
  exact ⟨hMake, hSpares, hNested,
    hydrateRoots_eq_of_hydrateNested Prod.fst hMake hSpares hNested⟩

end SharedPost

end EntitySql
