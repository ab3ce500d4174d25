import EntitySql.Proofs.Hydrate.NestedRoots
import EntitySql.Proofs.Predicate.Binding

/-
  Nested hydration cuts every row at running offsets. On rows
  that are put together from one slice per table it does what
  it would do if it were given these slices.

  Key definitions include:
    * `Row.Spans`, `Row.joined`
    * `Nesting.stepSliced`, `hydrateSliced`

  Key theorems include:
    * `Row.slice?_joined`
    * `Nesting.resolveChildren_joined`
    * `Nesting.step_joined`
    * `hydrateNested_joined`
-/

namespace EntitySql

------------------------------------------------------------
-- Rows of slices
------------------------------------------------------------

namespace Row

/- The row has this many columns, and a value for each. -/
def Spans
    (r : Row)
    (n : Nat) : Prop :=
  r.columns.length = n ∧ r.values.length = n

/- Slices one after the other. -/
def joined
    (slices : List Row) : Row :=
  ⟨slices.flatMap Row.columns, slices.flatMap Row.values⟩

theorem joined_append
    (slices slices' : List Row) :
    joined (slices ++ slices') =
      ⟨(joined slices).columns ++ (joined slices').columns,
        (joined slices).values ++ (joined slices').values⟩ := by
  simp [joined]

theorem joined_cons
    (slice : Row)
    (slices : List Row) :
    joined (slice :: slices) =
      ⟨slice.columns ++ (joined slices).columns,
        slice.values ++ (joined slices).values⟩ := by
  simp [joined]

/- One more slice makes the row longer by its width. -/
theorem Spans.concat
    {before : List Row}
    {slice : Row}
    {offset width : Nat}
    (hBefore : (joined before).Spans offset)
    (hSlice : slice.Spans width) :
    (joined (before ++ [slice])).Spans (offset + width) := by
  have hNone : joined [] = ⟨[], []⟩ := rfl
  simp [Spans, joined_append, joined_cons, hNone, hBefore.1,
    hBefore.2, hSlice.1, hSlice.2]

theorem spans_joined
    {slices : List Row}
    {widths : List Nat}
    (hSpans : List.Forall₂ Spans slices widths) :
    (joined slices).Spans widths.sum := by
  induction hSpans with
  | nil => exact ⟨rfl, rfl⟩
  | cons hFirst _ ih =>
      rw [joined_cons, List.sum_cons]
      simp [Spans, hFirst.1, hFirst.2, ih.1, ih.2]

/- What stands behind some elements is cut out by position. -/
theorem range?_append
    {α : Type}
    {n : Nat}
    {before middle after : List α}
    {width : Nat}
    (hBefore : before.length = n)
    (hMiddle : middle.length = width) :
    range? (before ++ (middle ++ after)) n (n + width) =
      some middle := by
  subst hBefore hMiddle
  have hBounds :
      before.length ≤ before.length + middle.length ∧
        before.length + middle.length ≤
          (before ++ (middle ++ after)).length := by
    simp only [List.length_append]
    omega
  rw [range?, if_pos hBounds]
  simp [List.take_append]

/- A slice is cut out where the slices before it end. -/
theorem slice?_joined
    {before after : List Row}
    {slice : Row}
    {offset width : Nat}
    (hBefore : (joined before).Spans offset)
    (hSlice : slice.Spans width) :
    (joined (before ++ slice :: after)).slice? offset
        (offset + width) =
      some slice := by
  simp [joined_append, joined_cons, slice?,
    range?_append hBefore.1 hSlice.1, range?_append hBefore.2 hSlice.2]

end Row

------------------------------------------------------------
-- Given slices
------------------------------------------------------------

namespace Nesting

variable {ρ : Type}

/- The children in given slices, one per cache. -/
def resolveSlices :
    List Row → List (IdentityCache Record) →
      Except MappingError
        (List (Option Nat) × List (IdentityCache Record))
  | slice :: slices, cache :: caches => do
      let (child, cache) ← cache.resolve id slice
      let (children, caches) ← resolveSlices slices caches
      .ok (child :: children, cache :: caches)
  | _, _ => .ok ([], [])

/- Take in a row of which the slices are given. -/
def stepSliced
    (slots : List (Slot ρ))
    (make : Record → ρ)
    (state : Nesting ρ)
    (row : Row × List Row) : Except MappingError (Nesting ρ) := do
  let (found, roots) ← state.roots.resolve make row.1
  match found with
  | none => .ok ⟨roots, state.children⟩
  | some i =>
      let (children, caches) ← resolveSlices row.2 state.children
      let wired :=
        roots.instances.modify i (wireChildren slots caches children)
      .ok ⟨{ roots with instances := wired }, caches⟩

end Nesting

/-
  The roots of a join with their children, from the slice of
  the root and the slices of the slots of every row.
-/
def hydrateSliced
    {ρ : Type}
    (root : EntityType)
    (make : Record → ρ)
    (slots : List (Slot ρ))
    (rows : List (Row × List Row)) : Except MappingError (List ρ) := do
  let roots ← IdentityCache.start root
  let children ← slots.mapM fun s => IdentityCache.start s.type
  let state ← rows.foldlM
    (Nesting.stepSliced slots make) ⟨roots, children⟩
  .ok state.roots.instances

------------------------------------------------------------
-- Cut slices
------------------------------------------------------------

namespace Nesting

variable {ρ : Type}
variable {root : EntityType}
variable {make : Record → ρ}
variable {slots : List (Slot ρ)}

/- The slices of a row are as wide as the root and the slots. -/
structure Fits
    (root : EntityType)
    (slots : List (Slot ρ))
    (row : Row × List Row) : Prop where
  root_spans : row.1.Spans root.width
  slots_span :
    List.Forall₂ (fun slice slot => slice.Spans slot.type.width)
      row.2 slots

/- The caches are those of the root and of the slots. -/
structure TypedBy
    (root : EntityType)
    (slots : List (Slot ρ))
    (state : Nesting ρ) : Prop where
  root_type : state.roots.type = root
  slot_types : state.children.map IdentityCache.type = slots.map Slot.type

/- The caches of the slots start with their types. -/
theorem types_of_start
    {children : List (IdentityCache Record)}
    (hStart :
      (slots.mapM fun s => IdentityCache.start s.type) =
        .ok children) :
    children.map IdentityCache.type = slots.map Slot.type := by
  have hStarts := mapM_eq_ok_iff.mp hStart
  clear hStart
  induction hStarts with
  | nil => rfl
  | cons hFirst _ ih =>
      simp [ih, IdentityCache.type_eq_of_start hFirst]

/-
  The offset of a child is where the slices before it end. The
  induction is on the slices, and the offset runs along.
-/
theorem resolveChildren_joined
    {before slices : List Row}
    {caches : List (IdentityCache Record)}
    {offset : Nat}
    (expected : Nat)
    (hBefore : (Row.joined before).Spans offset)
    (hSlices :
      List.Forall₂
        (fun slice (cache : IdentityCache Record) =>
          slice.Spans cache.type.width)
        slices caches) :
    resolveChildren expected (Row.joined (before ++ slices)) offset
        caches =
      resolveSlices slices caches := by
  induction hSlices generalizing before offset with
  | nil => rfl
  | @cons slice cache slices caches hSlice hRest ih =>
      have hChildren := ih (hBefore.concat hSlice)
      rw [List.append_assoc, List.singleton_append] at hChildren
      simp only [resolveChildren, resolveSlices,
        Row.slice?_joined hBefore hSlice, hChildren]

/- Caches of the slots' types take slices of their widths. -/
theorem Fits.spans_caches
    {state : Nesting ρ}
    {row : Row × List Row}
    (hFits : Fits root slots row)
    (hTyped : TypedBy root slots state) :
    List.Forall₂
      (fun slice (cache : IdentityCache Record) =>
        slice.Spans cache.type.width)
      row.2 state.children := by
  have hSlots :
      List.Forall₂ (fun slice e => Row.Spans slice e.width)
        row.2 (slots.map Slot.type) := by
    rw [List.forall₂_map_right_iff]
    exact hFits.slots_span
  rw [← hTyped.slot_types, List.forall₂_map_right_iff] at hSlots
  exact hSlots

/- The width of a row of slices is the one that is expected. -/
theorem Fits.width_eq
    {row : Row × List Row}
    (hFits : Fits root slots row) :
    (Row.joined (row.1 :: row.2)).Spans (expectedWidth root slots) := by
  have hSlots :
      List.Forall₂ Row.Spans row.2
        (slots.map fun s => s.type.width) := by
    rw [List.forall₂_map_right_iff]
    exact hFits.slots_span
  exact Row.spans_joined (.cons hFits.root_spans hSlots)

/- A row of slices is taken in as the slices are. -/
theorem step_joined
    {state : Nesting ρ}
    {row : Row × List Row}
    (hFits : Fits root slots row)
    (hTyped : TypedBy root slots state) :
    step slots make (expectedWidth root slots) state
        (Row.joined (row.1 :: row.2)) =
      stepSliced slots make state row := by
  have hWidth :
      (Row.joined (row.1 :: row.2)).width =
        expectedWidth root slots :=
    hFits.width_eq.2
  have hRoot :
      (Row.joined (row.1 :: row.2)).slice? 0 root.width =
        some row.1 := by
    have hNone : (Row.joined []).Spans 0 := ⟨rfl, rfl⟩
    simpa using
      @Row.slice?_joined [] row.2 row.1 0 root.width hNone
        hFits.root_spans
  have hFirst : (Row.joined [row.1]).Spans root.width := by
    simpa [Row.Spans, Row.joined] using hFits.root_spans
  have hChildren :
      resolveChildren (expectedWidth root slots)
          (Row.joined (row.1 :: row.2)) root.width state.children =
        resolveSlices row.2 state.children :=
    resolveChildren_joined _ hFirst (hFits.spans_caches hTyped)
  unfold step stepSliced
  cases hResolve : state.roots.resolve make row.1 with
  | error e =>
      simp [hWidth, hTyped.root_type, hRoot, hResolve, Bind.bind,
        Except.bind]
  | ok resolved =>
      rcases resolved with ⟨_ | i, roots⟩
      · simp [hWidth, hTyped.root_type, hRoot, hResolve, Bind.bind,
          Except.bind]
      · cases hSlices : resolveSlices row.2 state.children <;>
          simp [hWidth, hTyped.root_type, hRoot, hResolve,
            hChildren, hSlices, Bind.bind, Except.bind]

/- Resolving slices keeps the types of the caches. -/
theorem types_of_resolveSlices
    {slices : List Row}
    {caches caches' : List (IdentityCache Record)}
    {children : List (Option Nat)}
    (hLength : slices.length = caches.length)
    (hResolve :
      resolveSlices slices caches = .ok (children, caches')) :
    caches'.map IdentityCache.type = caches.map IdentityCache.type := by
  induction caches generalizing slices caches' children with
  | nil =>
      cases List.length_eq_zero_iff.mp hLength
      cases hResolve
      rfl
  | cons cache caches ih =>
      rcases slices with _ | ⟨slice, slices⟩
      · cases hLength
      · simp only [resolveSlices] at hResolve
        cases hFirst : cache.resolve id slice with
        | error e =>
            rw [hFirst] at hResolve
            cases hResolve
        | ok first =>
            rcases first with ⟨child, next⟩
            cases hRest : resolveSlices slices caches with
            | error e =>
                rw [hFirst, hRest] at hResolve
                cases hResolve
            | ok rest =>
                rcases rest with ⟨others, nexts⟩
                rw [hFirst, hRest] at hResolve
                cases hResolve
                have hTypes :=
                  ih (Nat.succ.inj hLength) hRest
                have hType :=
                  IdentityCache.type_eq_of_resolve hFirst
                simp [hType, hTypes]

/- A step keeps the types of the caches. -/
theorem TypedBy.stepSliced
    {state state' : Nesting ρ}
    {row : Row × List Row}
    (hTyped : TypedBy root slots state)
    (hFits : Fits root slots row)
    (hStep : Nesting.stepSliced slots make state row = .ok state') :
    TypedBy root slots state' := by
  unfold Nesting.stepSliced at hStep
  cases hResolve : state.roots.resolve make row.1 with
  | error e =>
      rw [hResolve] at hStep
      cases hStep
  | ok resolved =>
      rcases resolved with ⟨found, roots⟩
      have hType := IdentityCache.type_eq_of_resolve hResolve
      simp only [hResolve, Bind.bind, Except.bind] at hStep
      rcases found with _ | i
      · cases hStep
        exact ⟨hType.trans hTyped.root_type, hTyped.slot_types⟩
      · cases hSlices : resolveSlices row.2 state.children with
        | error e =>
            simp only [hSlices] at hStep
            cases hStep
        | ok resolved =>
            simp only [hSlices] at hStep
            cases hStep
            have hTypes :=
              types_of_resolveSlices
                (hFits.spans_caches hTyped).length_eq hSlices
            exact ⟨hType.trans hTyped.root_type,
              hTypes.trans hTyped.slot_types⟩

/- All rows of slices are taken in as the slices are. -/
theorem foldlM_step_joined
    {state : Nesting ρ}
    {rows : List (Row × List Row)}
    (hFits : ∀ row ∈ rows, Fits root slots row)
    (hTyped : TypedBy root slots state) :
    (rows.map fun row => Row.joined (row.1 :: row.2)).foldlM
        (step slots make (expectedWidth root slots)) state =
      rows.foldlM (stepSliced slots make) state := by
  induction rows generalizing state with
  | nil => rfl
  | cons row rows ih =>
      rw [List.forall_mem_cons] at hFits
      rw [List.map_cons, List.foldlM_cons, List.foldlM_cons,
        step_joined hFits.1 hTyped]
      cases hStep : stepSliced slots make state row with
      | error e => rfl
      | ok next => exact ih hFits.2 (hTyped.stepSliced hFits.1 hStep)

end Nesting

------------------------------------------------------------
-- Results
------------------------------------------------------------

/-
  On a result whose rows are put together from slices, nested
  hydration does what it would do if these were given.
-/
theorem hydrateNested_joined
    {ρ : Type}
    {root : EntityType}
    {slots : List (Slot ρ)}
    {set : ResultSet}
    {rows : List (Row × List Row)}
    (make : Record → ρ)
    (hColumns :
      set.columns.length = Nesting.expectedWidth root slots)
    (hRows :
      set.rowViews = rows.map fun row => Row.joined (row.1 :: row.2))
    (hFits : ∀ row ∈ rows, Nesting.Fits root slots row) :
    hydrateNested root make slots set =
      hydrateSliced root make slots rows := by
  unfold hydrateNested hydrateSliced
  cases hRoot : (IdentityCache.start root :
      Except MappingError (IdentityCache ρ)) with
  | error e => rfl
  | ok roots =>
      cases hSlots :
          slots.mapM fun s => (IdentityCache.start s.type :
            Except MappingError (IdentityCache Record)) with
      | error e => rfl
      | ok children =>
          have hTyped :
              Nesting.TypedBy root slots ⟨roots, children⟩ :=
            ⟨IdentityCache.type_eq_of_start hRoot,
              Nesting.types_of_start hSlots⟩
          have hRun := @Nesting.foldlM_step_joined ρ root make slots
            _ rows hFits hTyped
          simp only [hColumns, ne_eq, not_true_eq_false, if_false,
            hRows, Bind.bind, Except.bind, hRun]

end EntitySql
