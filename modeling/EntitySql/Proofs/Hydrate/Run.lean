import EntitySql.Proofs.Hydrate.Children

/-
  Runs of nested hydration over rows of an object graph: after
  any rows, the roots and their children are those that the
  rows have shown so far.

  Key definitions include:
    * `rootKeys`, `seenKeys`
    * `ObjectGraph.FoundIn`, `ObjectGraph.Reached`

  Key theorems include:
    * `ObjectGraph.reached_wired`
    * `ObjectGraph.reached_step`
-/

namespace EntitySql

------------------------------------------------------------
-- Keys in the order of appearance
------------------------------------------------------------

/- One more key is kept at the end, unless it came before. -/
theorem eraseDups_concat
    (keys : List IdentityKey)
    (key : IdentityKey) :
    (keys ++ [key]).eraseDups = note keys.eraseDups key := by
  rw [List.eraseDups_append, note]
  by_cases hMem : key ∈ keys
  · rw [if_pos (List.mem_eraseDups.mpr hMem)]
    simp [List.removeAll, hMem]
  · rw [if_neg (fun h => hMem (List.mem_eraseDups.mp h))]
    simp [List.removeAll, hMem, List.eraseDups_cons]

theorem nodup_eraseDups
    (keys : List IdentityKey) :
    keys.eraseDups.Nodup := by
  induction keys using List.reverseRecOn with
  | nil => exact List.nodup_nil
  | append_singleton keys key ih =>
      rw [eraseDups_concat, note]
      split
      · exact ih
      · rename_i hNew
        rw [← List.concat_eq_append]
        exact List.Nodup.concat hNew ih

/- The roots that rows have shown, by key. -/
def rootKeys
    (rows : List JoinedRow) : List IdentityKey :=
  (rows.map fun row => row.root.identityKey).eraseDups

/- The children that rows have shown in a slot, by key. -/
def slotKeys
    (rows : List JoinedRow)
    (i : Nat) : List IdentityKey :=
  (rows.filterMap fun row =>
    (row.picks.getD i none).map Record.identityKey).eraseDups

/- The children that rows have shown in all slots. -/
def seenKeys
    (slots : Nat)
    (rows : List JoinedRow) : List (List IdentityKey) :=
  (List.range slots).map (slotKeys rows)

theorem rootKeys_concat
    (rows : List JoinedRow)
    (row : JoinedRow) :
    rootKeys (rows ++ [row]) =
      note (rootKeys rows) row.root.identityKey := by
  rw [rootKeys, List.map_append]
  exact eraseDups_concat _ _

theorem slotKeys_concat
    (rows : List JoinedRow)
    (row : JoinedRow)
    (i : Nat) :
    slotKeys (rows ++ [row]) i =
      notePick (slotKeys rows i) (row.picks.getD i none) := by
  rw [slotKeys, List.filterMap_append]
  cases hPick : row.picks.getD i none with
  | none =>
      simp only [List.filterMap_cons, List.filterMap_nil, hPick,
        Option.map_none, List.append_nil]
      rfl
  | some r =>
      simp only [List.filterMap_cons, List.filterMap_nil, hPick,
        Option.map_some]
      exact eraseDups_concat _ _

theorem seenKeys_concat
    {slots : Nat}
    {row : JoinedRow}
    (rows : List JoinedRow)
    (hLength : row.picks.length = slots) :
    seenKeys slots (rows ++ [row]) =
      List.zipWith notePick (seenKeys slots rows) row.picks := by
  apply List.ext_getElem
  · simp [seenKeys, hLength]
  · intro i hLeft hRight
    have hBound : i < row.picks.length := by
      simpa [seenKeys, ← hLength] using hLeft
    simp [seenKeys, slotKeys_concat, hBound]

theorem mem_slotKeys_iff
    {rows : List JoinedRow}
    {i : Nat}
    {key : IdentityKey} :
    key ∈ slotKeys rows i ↔
      ∃ row ∈ rows, ∃ r, row.picks[i]? = some (some r) ∧
        r.identityKey = key := by
  simp only [slotKeys, List.mem_eraseDups, List.mem_filterMap]
  constructor
  · rintro ⟨row, hRow, hKey⟩
    rcases Option.map_eq_some_iff.mp hKey with ⟨r, hPick, hKey⟩
    refine ⟨row, hRow, r, ?_, hKey⟩
    rw [List.getD_eq_getElem?_getD] at hPick
    cases hGet : row.picks[i]? with
    | none =>
        rw [hGet] at hPick
        cases hPick
    | some pick =>
        rw [hGet] at hPick
        rw [← hPick]
        rfl
  · rintro ⟨row, hRow, r, hPick, hKey⟩
    refine ⟨row, hRow, ?_⟩
    rw [List.getD_eq_getElem?_getD, hPick]
    simp [hKey]

------------------------------------------------------------
-- What rows have shown
------------------------------------------------------------

namespace ObjectGraph

variable {root : EntityType}
variable {slots : List EntityType}

/-
  A node that was found is a root of the graph with the
  children that its rows have shown.
-/
structure FoundIn
    (graph : ObjectGraph root slots)
    (seen : List JoinedRow)
    (node : Node) : Prop where
  root_mem : ∃ own ∈ graph.nodes, node.root = own.root
  holds :
    List.Forall₂
      (fun (pool : Pool) children => ∀ r ∈ children, pool.holds r)
      graph.pools node.children
  keys_eq :
    node.children.map (List.map Record.identityKey) =
      seenKeys slots.length
        (seen.filter fun row => row.root.identityKey == node.key)

/- The state of hydration after some rows of the graph. -/
structure Reached
    (graph : ObjectGraph root slots)
    (seen : List JoinedRow)
    (state : Nesting Node) : Prop where
  tracks : state.roots.Tracks Node.key root
  keys_eq : state.roots.instances.map Node.key = rootKeys seen
  found : ∀ node ∈ state.roots.instances, graph.FoundIn seen node
  caches : List.Forall₂ Pool.Caches graph.pools state.children

/- A root has no children before its first row. -/
theorem foundIn_bare
    {graph : ObjectGraph root slots}
    {seen : List JoinedRow}
    {row : JoinedRow}
    (hRow : row ∈ graph.joined)
    (hNew : row.root.identityKey ∉ rootKeys seen) :
    graph.FoundIn seen (Node.bare slots.length row.root) := by
  have hUnseen :
      (seen.filter fun row' =>
        row'.root.identityKey == row.root.identityKey) = [] := by
    rw [List.filter_eq_nil_iff]
    intro row' hMem hSame
    apply hNew
    rw [rootKeys, List.mem_eraseDups, List.mem_map]
    exact ⟨row', hMem, by simpa using hSame⟩
  constructor
  case root_mem => exact root_mem_of_mem_joined hRow
  case holds =>
    rw [List.forall₂_iff_get]
    refine ⟨by simp [pools, Node.bare], ?_⟩
    intro i _ _ r hMem
    simp [Node.bare] at hMem
  case keys_eq =>
    have hNone : slotKeys [] = fun _ => [] := rfl
    simp only [Node.key, Node.bare, hUnseen, seenKeys, hNone]
    simp

/- A row of another root shows nothing of this one. -/
theorem FoundIn.other
    {graph : ObjectGraph root slots}
    {seen : List JoinedRow}
    {node : Node}
    {row : JoinedRow}
    (hFound : graph.FoundIn seen node)
    (hOther : node.key ≠ row.root.identityKey) :
    graph.FoundIn (seen ++ [row]) node := by
  refine ⟨hFound.root_mem, hFound.holds, ?_⟩
  rw [hFound.keys_eq, List.filter_append]
  simp [Ne.symm hOther]

/- A row of this root shows the children that it picks. -/
theorem FoundIn.wired
    {graph : ObjectGraph root slots}
    {seen : List JoinedRow}
    {node : Node}
    {row : JoinedRow}
    {found : List (Option Record)}
    (hFound : graph.FoundIn seen node)
    (hRow : row ∈ graph.joined)
    (hSame : node.key = row.root.identityKey)
    (hOffers : List.Forall₂ Pool.Offers graph.pools found)
    (hKeys :
      found.map (Option.map Record.identityKey) =
        row.picks.map (Option.map Record.identityKey)) :
    graph.FoundIn (seen ++ [row])
      { node with
        children :=
          List.zipWith Node.attachFound node.children found } := by
  rcases Node.attachFound_within hFound.holds hOffers hKeys with
    ⟨hHolds, hAttached⟩
  have hLength : row.picks.length = slots.length := by
    rw [← (picks_of_mem_joined hRow).length_eq]
    simp [pools]
  refine ⟨hFound.root_mem, hHolds, ?_⟩
  have hSeen :
      ((seen ++ [row]).filter fun row' =>
          row'.root.identityKey == node.key) =
        (seen.filter fun row' =>
          row'.root.identityKey == node.key) ++ [row] := by
    simp [List.filter_append, hSame]
  change _ = seenKeys slots.length
    ((seen ++ [row]).filter fun row' =>
      row'.root.identityKey == node.key)
  rw [hSeen, seenKeys_concat _ hLength, ← hFound.keys_eq]
  exact hAttached

------------------------------------------------------------
-- Widths
------------------------------------------------------------

theorem map_width_slots
    (types : List EntityType) :
    ((Node.slots types).map fun s => s.type.width) =
      types.map EntityType.width := by
  rw [Node.slots, List.map_map]
  change types.zipIdx.map (EntityType.width ∘ Prod.fst) = _
  rw [← List.map_map, List.zipIdx_map_fst]

/- All rows of a graph are as wide as its types together. -/
theorem length_values
    {graph : ObjectGraph root slots}
    {row : JoinedRow}
    (hRow : row ∈ graph.joined) :
    row.root.values.length = root.width ∧
      (Pool.slices graph.pools row.picks).length =
        (slots.map EntityType.width).sum := by
  rcases root_mem_of_mem_joined hRow with ⟨node, hNode, hRoot⟩
  have hListable := graph.root_listable node hNode
  have hWidths :
      (graph.pools.map fun pool => pool.type.width) =
        slots.map EntityType.width := by
    conv_rhs => rw [← graph.map_type_pools, List.map_map]
    rfl
  constructor
  · rw [hRoot, hListable.survives.length_values,
      hListable.type_eq]
  · rw [Pool.length_slices (picks_of_mem_joined hRow), hWidths]

------------------------------------------------------------
-- One row
------------------------------------------------------------

/- Wiring a node attaches what was found in every slot. -/
theorem FoundIn.wireChildren_eq
    {graph : ObjectGraph root slots}
    {seen : List JoinedRow}
    {node : Node}
    {picks : List (Option Record)}
    {answers : List (Option Nat)}
    {caches : List (IdentityCache Record)}
    (hFound : graph.FoundIn seen node)
    (hResolved : Pool.Resolved graph.pools picks answers caches) :
    Nesting.wireChildren (Node.slots slots) caches answers node =
      { node with
        children :=
          List.zipWith Node.attachFound node.children
            (List.zipWith foundIn caches answers) } := by
  have hLength := hFound.holds.length_eq
  have hTypes : graph.pools.length = slots.length := by
    simp [pools]
  apply Node.wireChildren_eq
  · omega
  · rw [← hResolved.caches_after.length_eq, hLength]
  · rw [hResolved.length_eq, hLength]

/-
  With the root of a row looked up, the roots are those that
  the row has shown as well, but none has new children yet.
-/
theorem foundIn_of_instances
    {graph : ObjectGraph root slots}
    {seen : List JoinedRow}
    {state : Nesting Node}
    {row : JoinedRow}
    {instances : List Node}
    (hReached : graph.Reached seen state)
    (hRow : row ∈ graph.joined)
    (hInstances :
      (row.root.identityKey ∈ state.roots.instances.map Node.key ∧
          instances = state.roots.instances) ∨
        (row.root.identityKey ∉
            state.roots.instances.map Node.key ∧
          instances =
            state.roots.instances ++
              [Node.bare slots.length row.root])) :
    instances.map Node.key = rootKeys (seen ++ [row]) ∧
      ∀ node ∈ instances, graph.FoundIn seen node := by
  rw [rootKeys_concat, ← hReached.keys_eq, note]
  rcases hInstances with ⟨hOld, rfl⟩ | ⟨hNew, rfl⟩
  · rw [if_pos hOld]
    exact ⟨rfl, hReached.found⟩
  · rw [if_neg hNew, List.map_append]
    refine ⟨rfl, ?_⟩
    intro node hMem
    rcases List.mem_append.mp hMem with hOld | hLast
    · exact hReached.found node hOld
    · rw [List.mem_singleton.mp hLast]
      rw [hReached.keys_eq] at hNew
      exact foundIn_bare hRow hNew

/-
  Once its root is found, a row adds the children that it picks
  to that root and changes no other.
-/
theorem reached_wired
    {graph : ObjectGraph root slots}
    {seen : List JoinedRow}
    {row : JoinedRow}
    {roots : IdentityCache Node}
    {i : Nat}
    {answers : List (Option Nat)}
    {caches : List (IdentityCache Record)}
    (hRow : row ∈ graph.joined)
    (hTracks : roots.Tracks Node.key root)
    (hKeys :
      roots.instances.map Node.key = rootKeys (seen ++ [row]))
    (hFound :
      ∀ node ∈ roots.instances, graph.FoundIn seen node)
    (hAt :
      (roots.instances.map Node.key)[i]? =
        some row.root.identityKey)
    (hResolved :
      Pool.Resolved graph.pools row.picks answers caches) :
    graph.Reached (seen ++ [row])
      ⟨{ roots with
          instances :=
            roots.instances.modify i
              (Nesting.wireChildren (Node.slots slots) caches
                answers) },
        caches⟩ := by
  have hBound : i < roots.instances.length := by
    simpa using (List.getElem?_eq_some_iff.mp hAt).1
  rcases List.exists_of_modify
      (Nesting.wireChildren (Node.slots slots) caches answers)
      hBound with
    ⟨before, node, after, hSplit, hIndex, hModify⟩
  have hSame : node.key = row.root.identityKey := by
    rw [hSplit, ← hIndex] at hAt
    simpa using hAt
  have hNode : graph.FoundIn seen node := by
    apply hFound
    rw [hSplit]
    simp
  rw [hNode.wireChildren_eq hResolved] at hModify
  have hSameKeys :
      (roots.instances.modify i
          (Nesting.wireChildren (Node.slots slots) caches
            answers)).map Node.key =
        roots.instances.map Node.key := by
    rw [hModify]
    conv_rhs => rw [hSplit]
    simp [Node.key]
  constructor
  case tracks => exact hTracks.withInstances hSameKeys
  case keys_eq => exact hSameKeys.trans hKeys
  case caches => exact hResolved.caches_after
  case found =>
    change ∀ node' ∈ roots.instances.modify i _, _
    rw [hModify]
    have hDistinct := hTracks.nodup
    rw [hSplit, List.map_append, List.map_cons,
      List.nodup_middle, List.nodup_cons,
      ← List.map_append] at hDistinct
    have hOther : ∀ node' ∈ before ++ after,
        graph.FoundIn (seen ++ [row]) node' := by
      intro node' hMem
      have hOld : node' ∈ roots.instances := by
        rw [hSplit]
        rcases List.mem_append.mp hMem with hBefore | hAfter
        · exact List.mem_append_left _ hBefore
        · exact List.mem_append_right _
            (List.mem_cons_of_mem _ hAfter)
      apply (hFound node' hOld).other
      intro hKey
      exact hDistinct.1
        (List.mem_map.mpr ⟨node', hMem, hKey.trans hSame.symm⟩)
    intro node' hMem
    rcases List.mem_append.mp hMem with hBefore | hRest
    · exact hOther node' (List.mem_append_left _ hBefore)
    · rcases List.mem_cons.mp hRest with rfl | hAfter
      · exact hNode.wired hRow hSame hResolved.offers
          hResolved.found_eq
      · exact hOther node' (List.mem_append_right _ hAfter)

/- A row of the graph is taken in. -/
theorem reached_step
    {graph : ObjectGraph root slots}
    {seen : List JoinedRow}
    {state : Nesting Node}
    {row : JoinedRow}
    {columns : List String}
    (hReached : graph.Reached seen state)
    (hRow : row ∈ graph.joined)
    (hColumns :
      columns.length =
        Nesting.expectedWidth root (Node.slots slots)) :
    ∃ state',
      Nesting.step (Node.slots slots) (Node.bare slots.length)
          (Nesting.expectedWidth root (Node.slots slots)) state
          ⟨columns, row.values slots⟩ =
        .ok state' ∧
      graph.Reached (seen ++ [row]) state' := by
  have hValues :
      row.values slots =
        row.root.values ++ Pool.slices graph.pools row.picks := by
    rw [JoinedRow.values, Pool.slices, graph.map_type_pools]
  rcases length_values hRow with ⟨hRootWidth, hSlotWidth⟩
  have hWidth :
      (row.root.values ++
          Pool.slices graph.pools row.picks).length =
        Nesting.expectedWidth root (Node.slots slots) := by
    rw [List.length_append, hRootWidth, hSlotWidth,
      Nesting.expectedWidth, map_width_slots]
  have hType := hReached.tracks.type_eq
  rcases Row.slice?_append [] row.root.values
    (Pool.slices graph.pools row.picks) (hColumns.trans hWidth.symm)
    with ⟨names, hSlice⟩
  rcases root_mem_of_mem_joined hRow with ⟨own, hOwn, hRoot⟩
  rcases IdentityCache.resolve_present (Node.bare slots.length)
    names (fun _ => rfl) hReached.tracks
    (hRoot ▸ graph.root_listable own hOwn) with
    ⟨i, roots, hResolve, hTracks, hAt, hInstances⟩
  rcases Pool.resolveChildren_of_picks
    (Nesting.expectedWidth root (Node.slots slots))
    row.root.values hReached.caches (picks_of_mem_joined hRow)
    (hColumns.trans hWidth.symm) with
    ⟨answers, caches, hChildren, hResolved⟩
  rcases foundIn_of_instances hReached hRow hInstances with
    ⟨hKeys, hFound⟩
  refine ⟨_, ?_,
    reached_wired hRow hTracks hKeys hFound hAt hResolved⟩
  have hRootSlice :
      Row.slice? ⟨columns, row.root.values ++
          Pool.slices graph.pools row.picks⟩
          0 state.roots.type.width =
        some ⟨names, row.root.values⟩ := by
    rw [hType, ← hRootWidth]
    simpa using hSlice
  have hChildren' :
      Nesting.resolveChildren
          (Nesting.expectedWidth root (Node.slots slots))
          ⟨columns, row.root.values ++
            Pool.slices graph.pools row.picks⟩
          state.roots.type.width state.children =
        .ok (answers, caches) := by
    rw [hType, ← hRootWidth]
    exact hChildren
  rw [hValues, Nesting.step, if_neg (by simpa [Row.width] using hWidth)]
  simp [hRootSlice, hResolve, hChildren', Bind.bind, Except.bind]

end ObjectGraph

end EntitySql
