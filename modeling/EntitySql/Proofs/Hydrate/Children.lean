import EntitySql.Proofs.Hydrate.ObjectGraph

/-
  The children of one row: they are found in the caches of
  their slots and attached to the root of the row.

  Key definitions include:
    * `Pool.Caches`
    * `notePick`, `foundIn`
    * `Pool.Resolved`

  Key theorems include:
    * `Pool.resolve_pick`
    * `Pool.resolveChildren_of_picks`
    * `Node.wireChildren_eq`
-/

namespace EntitySql

------------------------------------------------------------
-- Slices
------------------------------------------------------------

/- The columns between two others can be cut out of a row. -/
theorem Row.slice?_append
    {columns : List String}
    (before middle after : List Value)
    (hColumns :
      columns.length = (before ++ (middle ++ after)).length) :
    ∃ names,
      Row.slice? ⟨columns, before ++ (middle ++ after)⟩
          before.length (before.length + middle.length) =
        some ⟨names, middle⟩ := by
  have hLength : (before ++ (middle ++ after)).length =
      before.length + (middle.length + after.length) := by
    simp
  refine ⟨(columns.take (before.length + middle.length)).drop
    before.length, ?_⟩
  have hValues :
      ((before ++ (middle ++ after)).take
          (before.length + middle.length)).drop before.length =
        middle := by
    simp [List.take_append]
  simp only [slice?, range?, hColumns, hLength]
  rw [if_pos ⟨by omega, by omega⟩, if_pos ⟨by omega, by omega⟩,
    hValues]
  rfl

------------------------------------------------------------
-- The child in one slot
------------------------------------------------------------

/- Keep the key of a child, if there is one. -/
def notePick
    (keys : List IdentityKey) : Option Record → List IdentityKey
  | none => keys
  | some r => note keys r.identityKey

/- The instance that an answer points to. -/
def foundIn
    (cache : IdentityCache Record)
    (answer : Option Nat) : Option Record :=
  answer.bind fun i => cache.instances[i]?

namespace Pool

/- The pool's slot has a cache, with instances of the pool. -/
structure Caches
    (pool : Pool)
    (cache : IdentityCache Record) : Prop where
  tracks : cache.Tracks Record.identityKey pool.type
  holds : ∀ r ∈ cache.instances, pool.holds r

/- A pick is a child of the pool or no child. -/
def Offers
    (pool : Pool)
    (pick : Option Record) : Prop :=
  ∀ r, pick = some r → pool.holds r

theorem length_slice
    {pool : Pool}
    {pick : Option Record}
    (hOffers : pool.Offers pick) :
    (pool.type.slice pick).length = pool.type.width := by
  cases pick with
  | none => simp [EntityType.slice]
  | some r =>
      have hListable := pool.listable (hOffers r rfl)
      rw [EntityType.slice, hListable.survives.length_values,
        hListable.type_eq]

/-
  A pick is found again: its slice resolves to the instance
  with its key, which is one of the pool.
-/
theorem resolve_pick
    {pool : Pool}
    {cache : IdentityCache Record}
    {pick : Option Record}
    (columns : List String)
    (hCaches : pool.Caches cache)
    (hOffers : pool.Offers pick) :
    ∃ answer cache',
      cache.resolve id ⟨columns, pool.type.slice pick⟩ =
        .ok (answer, cache') ∧
      pool.Caches cache' ∧
      pool.Offers (foundIn cache' answer) ∧
      (foundIn cache' answer).map Record.identityKey =
        pick.map Record.identityKey := by
  cases pick with
  | none =>
      rcases IdentityCache.resolve_absent id
        ⟨columns, pool.type.slice none⟩
        hCaches.tracks (by simp [EntityType.slice, Value.isNull])
        with ⟨cache', hResolve, hTracks, hInstances⟩
      refine ⟨none, cache', hResolve, ⟨hTracks, ?_⟩, ?_, rfl⟩
      · rw [hInstances]
        exact hCaches.holds
      · intro r hFound
        cases hFound
  | some r =>
      have hHolds := hOffers r rfl
      rcases IdentityCache.resolve_present id columns
        (fun _ => rfl) hCaches.tracks (pool.listable hHolds) with
        ⟨i, cache', hResolve, hTracks, hFound, hInstances⟩
      have hHeld : ∀ r' ∈ cache'.instances, pool.holds r' := by
        intro r' hMem
        rcases hInstances with ⟨_, hSame⟩ | ⟨_, hAdded⟩
        · rw [hSame] at hMem
          exact hCaches.holds r' hMem
        · rw [hAdded] at hMem
          rcases List.mem_append.mp hMem with hOld | hNew
          · exact hCaches.holds r' hOld
          · rw [List.mem_singleton.mp hNew]
            exact hHolds
      refine ⟨some i, cache', hResolve, ⟨hTracks, hHeld⟩, ?_, ?_⟩
      · intro r' hFound'
        exact hHeld r' (List.mem_of_getElem? hFound')
      · rw [List.getElem?_map] at hFound
        exact hFound

------------------------------------------------------------
-- The children in all slots
------------------------------------------------------------

/- The columns of all slots together. -/
def slices
    (pools : List Pool)
    (picks : List (Option Record)) : List Value :=
  (List.zipWith EntityType.slice (pools.map Pool.type)
    picks).flatten

theorem length_slices
    {pools : List Pool}
    {picks : List (Option Record)}
    (hOffers : List.Forall₂ Offers pools picks) :
    (slices pools picks).length =
      (pools.map fun pool => pool.type.width).sum := by
  induction hOffers with
  | nil => rfl
  | cons hOffer _ ih =>
      simp only [slices, List.map_cons, List.zipWith_cons_cons,
        List.flatten_cons, List.length_append, List.sum_cons,
        length_slice hOffer]
      exact congrArg _ ih

/- What resolving the picks of one row comes to. -/
structure Resolved
    (pools : List Pool)
    (picks : List (Option Record))
    (answers : List (Option Nat))
    (caches' : List (IdentityCache Record)) : Prop where
  caches_after : List.Forall₂ Caches pools caches'
  length_eq : answers.length = pools.length
  offers :
    List.Forall₂ Offers pools (List.zipWith foundIn caches' answers)
  found_eq :
    (List.zipWith foundIn caches' answers).map
        (Option.map Record.identityKey) =
      picks.map (Option.map Record.identityKey)

/-
  The picks of a row are found again, slot after slot from the
  position where the columns of the slots begin.
-/
theorem resolveChildren_of_picks
    {pools : List Pool}
    {caches : List (IdentityCache Record)}
    {picks : List (Option Record)}
    {columns : List String}
    (expected : Nat)
    (before : List Value)
    (hCaches : List.Forall₂ Caches pools caches)
    (hOffers : List.Forall₂ Offers pools picks)
    (hColumns :
      columns.length = (before ++ slices pools picks).length) :
    ∃ answers caches',
      Nesting.resolveChildren expected
          ⟨columns, before ++ slices pools picks⟩
          before.length caches =
        .ok (answers, caches') ∧
      Resolved pools picks answers caches' := by
  induction hCaches generalizing picks before with
  | nil =>
      cases hOffers
      exact ⟨[], [], rfl, .nil, rfl, .nil, rfl⟩
  | @cons pool cache pools caches hCache hCaches ih =>
      cases hOffers with
      | @cons _ pick _ picks hOffer hOffers =>
          have hSlices :
              slices (pool :: pools) (pick :: picks) =
                pool.type.slice pick ++ slices pools picks := by
            simp [slices]
          rw [hSlices] at hColumns ⊢
          have hStop :
              before.length + (pool.type.slice pick).length =
                before.length + cache.type.width := by
            rw [length_slice hOffer, hCache.tracks.type_eq]
          rcases Row.slice?_append before (pool.type.slice pick)
            (slices pools picks) hColumns with ⟨names, hSlice⟩
          rcases resolve_pick names hCache hOffer with
            ⟨answer, cache', hResolve, hCache', hHeld, hFound⟩
          rcases ih (before ++ pool.type.slice pick) hOffers
            (by rw [List.append_assoc]; exact hColumns) with
            ⟨answers, caches', hRest, hResolved⟩
          rw [List.append_assoc, List.length_append, hStop] at hRest
          rw [hStop] at hSlice
          refine ⟨answer :: answers, cache' :: caches', ?_, ?_⟩
          · simp [Nesting.resolveChildren, hSlice, hResolve, hRest,
              Bind.bind, Except.bind]
          · constructor
            case caches_after =>
              exact .cons hCache' hResolved.caches_after
            case length_eq =>
              simp [hResolved.length_eq]
            case offers => exact .cons hHeld hResolved.offers
            case found_eq =>
              simp only [List.map_cons, List.zipWith_cons_cons,
                hResolved.found_eq, hFound]

end Pool

------------------------------------------------------------
-- Attaching children
------------------------------------------------------------

namespace Node

/- Attach a child, if there is one. -/
def attachFound
    (children : List Record) : Option Record → List Record
  | none => children
  | some r => appendChild children r

theorem attach_append
    (root r : Record)
    (before children : List (List Record))
    (first : List Record) :
    attach before.length ⟨root, before ++ first :: children⟩ r =
      ⟨root, before ++ appendChild first r :: children⟩ := by
  simp only [attach, mk.injEq, true_and]
  induction before with
  | nil => rfl
  | cons _ before ih =>
      simp only [List.cons_append, List.length_cons,
        List.modify_succ_cons, ih]

/- The slots from a position on get their children in turn. -/
theorem foldl_attach
    {types : List EntityType}
    {caches : List (IdentityCache Record)}
    {answers : List (Option Nat)}
    (root : Record)
    (before children : List (List Record))
    (hTypes : types.length = children.length)
    (hCaches : caches.length = children.length)
    (hAnswers : answers.length = children.length) :
    (((((types.zipIdx before.length).map fun (e, i) =>
        (⟨e, attach i⟩ : Slot Node)).zip caches).zip
          answers).foldl
        (fun root ((slot, cache), child) =>
          match child.bind fun i => cache.instances[i]? with
          | some r => slot.wire root r
          | none => root)
        ⟨root, before ++ children⟩) =
      ⟨root, before ++
        List.zipWith attachFound children
          (List.zipWith foundIn caches answers)⟩ := by
  induction children generalizing before types caches answers with
  | nil =>
      rw [List.eq_nil_of_length_eq_zero hTypes]
      simp
  | cons first children ih =>
      rcases types with _ | ⟨e, types⟩
      · simp at hTypes
      rcases caches with _ | ⟨cache, caches⟩
      · simp at hCaches
      rcases answers with _ | ⟨answer, answers⟩
      · simp at hAnswers
      have hRest :=
        ih (before ++ [attachFound first (foundIn cache answer)])
          (by simpa using hTypes) (by simpa using hCaches)
          (by simpa using hAnswers)
      simp only [List.append_assoc, List.singleton_append,
        List.length_append, List.length_singleton] at hRest
      simp only [List.zipIdx_cons, List.map_cons,
        List.zip_cons_cons, List.foldl_cons, List.zipWith_cons_cons]
      rw [← hRest]
      congr 1
      change (match foundIn cache answer with
        | some r =>
            attach before.length ⟨root, before ++ first :: children⟩ r
        | none => ⟨root, before ++ first :: children⟩) = _
      cases foundIn cache answer with
      | none => rfl
      | some r => exact attach_append root r before children first

/- Wiring the children of a row attaches each in its slot. -/
theorem wireChildren_eq
    {types : List EntityType}
    {caches : List (IdentityCache Record)}
    {answers : List (Option Nat)}
    (node : Node)
    (hTypes : types.length = node.children.length)
    (hCaches : caches.length = node.children.length)
    (hAnswers : answers.length = node.children.length) :
    Nesting.wireChildren (slots types) caches answers node =
      { node with
        children :=
          List.zipWith attachFound node.children
            (List.zipWith foundIn caches answers) } :=
  foldl_attach node.root [] node.children hTypes hCaches hAnswers

/- What is attached in one slot is noted by its key. -/
theorem attachFound_pick
    {pool : Pool}
    {children : List Record}
    {child pick : Option Record}
    (hChildren : ∀ r ∈ children, pool.holds r)
    (hOffer : pool.Offers child)
    (hFound :
      child.map Record.identityKey =
        pick.map Record.identityKey) :
    (∀ r ∈ attachFound children child, pool.holds r) ∧
      (attachFound children child).map Record.identityKey =
        notePick (children.map Record.identityKey) pick := by
  cases child with
  | none =>
      cases pick with
      | none => exact ⟨hChildren, rfl⟩
      | some r => cases hFound
  | some r =>
      cases pick with
      | none => cases hFound
      | some r' =>
          simp only [Option.map_some, Option.some.injEq] at hFound
          have hHolds := hOffer r rfl
          constructor
          · intro other hMem
            simp only [attachFound, appendChild] at hMem
            split at hMem
            · exact hChildren other hMem
            · rcases List.mem_append.mp hMem with hOld | hNew
              · exact hChildren other hOld
              · rw [List.mem_singleton.mp hNew]
                exact hHolds
          · rw [attachFound, notePick, ← hFound]
            exact Pool.map_identityKey_appendChild hChildren hHolds

/-
  What is attached is noted by key, and every list of children
  stays within its pool.
-/
theorem attachFound_within
    {pools : List Pool}
    {children : List (List Record)}
    {found picks : List (Option Record)}
    (hChildren :
      List.Forall₂
        (fun (pool : Pool) children =>
          ∀ r ∈ children, pool.holds r)
        pools children)
    (hOffers : List.Forall₂ Pool.Offers pools found)
    (hFound :
      found.map (Option.map Record.identityKey) =
        picks.map (Option.map Record.identityKey)) :
    List.Forall₂
        (fun (pool : Pool) children =>
          ∀ r ∈ children, pool.holds r)
        pools (List.zipWith attachFound children found) ∧
      (List.zipWith attachFound children found).map
          (List.map Record.identityKey) =
        List.zipWith notePick
          (children.map (List.map Record.identityKey)) picks := by
  induction hChildren generalizing found picks with
  | nil => exact ⟨.nil, rfl⟩
  | @cons pool first pools children hFirst hChildren ih =>
      cases hOffers with
      | @cons _ child _ found hOffer hOffers =>
          rcases picks with _ | ⟨pick, picks⟩
          · simp at hFound
          simp only [List.map_cons, List.cons.injEq] at hFound
          rcases ih hOffers hFound.2 with ⟨hHolds, hKeys⟩
          have hChild := attachFound_pick hFirst hOffer hFound.1
          simp only [List.zipWith_cons_cons, List.map_cons]
          exact ⟨.cons hChild.1 hHolds,
            congrArg₂ List.cons hChild.2 hKeys⟩

end Node

end EntitySql
