import EntitySql.Proofs.Hydrate.Run

/-
  Nested hydration undoes joins: from the rows of an object
  graph, in any order, it finds every root once, with exactly
  its own children in every slot.

  Key theorems include:
    * `ObjectGraph.reached_foldlM`
    * `ObjectGraph.recovers_of_foundIn`
    * `ObjectGraph.hydrateNested_recovers`

  Key definitions include:
    * `SharedPost.graph`
-/

namespace EntitySql

namespace ObjectGraph

variable {root : EntityType}
variable {slots : List EntityType}

------------------------------------------------------------
-- All rows
------------------------------------------------------------

/- Rows of the graph are taken in one after the other. -/
theorem reached_foldlM
    {graph : ObjectGraph root slots}
    {seen rows : List JoinedRow}
    {state : Nesting Node}
    {columns : List String}
    (hReached : graph.Reached seen state)
    (hRows : ∀ row ∈ rows, row ∈ graph.joined)
    (hColumns :
      columns.length =
        Nesting.expectedWidth root (Node.slots slots)) :
    ∃ state',
      (rows.map fun row =>
          (⟨columns, row.values slots⟩ : Row)).foldlM
          (Nesting.step (Node.slots slots) (Node.bare slots.length)
            (Nesting.expectedWidth root (Node.slots slots)))
          state =
        .ok state' ∧
      graph.Reached (seen ++ rows) state' := by
  induction rows generalizing seen state with
  | nil =>
      refine ⟨state, rfl, ?_⟩
      rw [List.append_nil]
      exact hReached
  | cons row rows ih =>
      rcases reached_step hReached (hRows row List.mem_cons_self)
        hColumns with ⟨state', hStep, hReached'⟩
      rcases ih hReached' fun row' hMem =>
        hRows row' (List.mem_cons_of_mem _ hMem) with
        ⟨state'', hFold, hReached''⟩
      refine ⟨state'', ?_, ?_⟩
      · rw [List.map_cons, List.foldlM_cons, hStep]
        exact hFold
      · rw [List.append_assoc, List.singleton_append] at hReached''
        exact hReached''

/- A cache can be started for a type with an identity. -/
theorem exists_start
    {ι : Type}
    {e : EntityType}
    (hIdentity : e.identityIndex?.isSome) :
    ∃ cache : IdentityCache ι, IdentityCache.start e = .ok cache := by
  rcases Option.isSome_iff_exists.mp hIdentity with ⟨i, hIndex⟩
  refine ⟨⟨e, i, none, [], []⟩, ?_⟩
  simp [IdentityCache.start, EntityType.identityPosition, hIndex,
    Bind.bind, Except.bind]

/- Every slot starts with a cache of its own. -/
theorem exists_mapM_start
    {pools : List Pool}
    {targets : List (Slot Node)}
    (hTypes :
      targets.map (fun s => s.type) = pools.map Pool.type) :
    ∃ caches,
      targets.mapM (fun s => IdentityCache.start s.type) =
        (.ok caches : Except MappingError _) ∧
      List.Forall₂ Pool.Caches pools caches := by
  induction pools generalizing targets with
  | nil =>
      rw [List.map_nil, List.map_eq_nil_iff] at hTypes
      rw [hTypes]
      exact ⟨[], rfl, .nil⟩
  | cons pool pools ih =>
      rcases targets with _ | ⟨target, targets⟩
      · cases hTypes
      simp only [List.map_cons, List.cons.injEq] at hTypes
      rcases ih hTypes.2 with ⟨caches, hRest, hCaches⟩
      rcases exists_start (ι := Record) pool.identity with
        ⟨cache, hStart⟩
      rcases IdentityCache.tracks_start Record.identityKey hStart
        with ⟨hTracks, hEmpty⟩
      refine ⟨cache :: caches, ?_, .cons ⟨hTracks, ?_⟩ hCaches⟩
      · rw [List.mapM_cons, hTypes.1, hStart]
        change Except.bind (targets.mapM _) _ = _
        rw [hRest]
        rfl
      · rw [hEmpty]
        simp

/- Before any row nothing has been found. -/
theorem reached_start
    (graph : ObjectGraph root slots) :
    ∃ roots children,
      IdentityCache.start root = .ok roots ∧
      (Node.slots slots).mapM
          (fun s => IdentityCache.start s.type) =
        (.ok children : Except MappingError _) ∧
      graph.Reached [] ⟨roots, children⟩ := by
  have hTypes :
      (Node.slots slots).map (fun s => s.type) =
        graph.pools.map Pool.type := by
    rw [graph.map_type_pools, Node.slots, List.map_map]
    exact List.zipIdx_map_fst 0 slots
  rcases exists_start (ι := Node) graph.root_identity with
    ⟨roots, hStart⟩
  rcases IdentityCache.tracks_start Node.key hStart with
    ⟨hTracks, hEmpty⟩
  rcases exists_mapM_start hTypes with
    ⟨children, hChildren, hCaches⟩
  refine ⟨roots, children, hStart, hChildren,
    ⟨hTracks, ?_, ?_, hCaches⟩⟩
  · rw [hEmpty]
    rfl
  · rw [hEmpty]
    simp

------------------------------------------------------------
-- Nodes of the graph
------------------------------------------------------------

/- A key belongs to one node of the graph. -/
theorem eq_of_key_eq
    {graph : ObjectGraph root slots}
    {node node' : Node}
    (hNode : node ∈ graph.nodes)
    (hNode' : node' ∈ graph.nodes)
    (hKey : node.key = node'.key) :
    node = node' :=
  List.inj_on_of_nodup_map graph.roots_distinct hNode hNode' hKey

/- The rows of a root show exactly its children. -/
theorem mem_slotKeys_of_perm
    {graph : ObjectGraph root slots}
    {rows : List JoinedRow}
    {own : Node}
    {i : Nat}
    {key : IdentityKey}
    (hRows : rows.Perm graph.joined)
    (hOwn : own ∈ graph.nodes) :
    key ∈ slotKeys
        (rows.filter fun row => row.root.identityKey == own.key) i ↔
      ∃ r ∈ own.children.getD i [], r.identityKey = key := by
  rw [mem_slotKeys_iff]
  constructor
  · rintro ⟨row, hMem, r, hPick, rfl⟩
    rcases List.mem_filter.mp hMem with ⟨hRow, hKey⟩
    rcases mem_joined_iff.mp (hRows.mem_iff.mp hRow) with
      ⟨node, hNode, hRoot, hPicks⟩
    have hSame : node = own := by
      apply eq_of_key_eq hNode hOwn
      rw [Node.key, ← hRoot]
      exact eq_of_beq hKey
    subst hSame
    rcases List.getElem?_eq_some_iff.mp hPick with ⟨hBound, hAt⟩
    have hBound' : i < node.children.length := by
      rw [← hPicks.length_eq]
      exact hBound
    have hChoice :=
      (List.forall₂_iff_get.mp hPicks).2 i hBound hBound'
    simp only [List.get_eq_getElem, hAt,
      Node.some_mem_choices_iff] at hChoice
    refine ⟨r, ?_, rfl⟩
    rw [List.getD_eq_getElem _ _ hBound']
    exact hChoice
  · rintro ⟨r, hMem, rfl⟩
    rcases Node.exists_mem_rows_of_mem hMem with
      ⟨row, hRow, hPick⟩
    refine ⟨row, ?_, r, hPick, rfl⟩
    have hRoot : row.root = own.root := by
      rcases List.mem_map.mp hRow with ⟨picks, _, rfl⟩
      rfl
    apply List.mem_filter.mpr
    refine ⟨hRows.mem_iff.mpr ?_, ?_⟩
    · exact List.mem_flatMap.mpr ⟨own, hOwn, hRow⟩
    · simp [hRoot, Node.key]

/- A permutation of images is the image of a permutation. -/
theorem exists_perm_of_perm_map
    {α β : Type}
    {f : β → α}
    {images : List α}
    {elements : List β}
    (hPerm : images.Perm (elements.map f)) :
    ∃ ordered : List β,
      ordered.Perm elements ∧ images = ordered.map f := by
  have hComp :=
    congrFun (congrFun (List.eq_map_comp_perm f) images) elements
  rcases hComp.mpr hPerm with ⟨ordered, hSame, hOrdered⟩
  exact ⟨ordered, hOrdered, hSame⟩

/-
  Children of one slot with the same keys are the same, up to
  their order.
-/
theorem exists_ordered_of_keys_perm
    (pool : Pool)
    {found own : List Record}
    (hFound : ∀ r ∈ found, pool.holds r)
    (hOwn : ∀ r ∈ own, pool.holds r)
    (hPerm :
      (found.map Record.identityKey).Perm
        (own.map Record.identityKey)) :
    ∃ ordered : List Record, ordered.Perm own ∧
      List.Forall₂ Record.Alike found ordered := by
  rcases exists_perm_of_perm_map hPerm with
    ⟨ordered, hOrdered, hSame⟩
  refine ⟨ordered, hOrdered, ?_⟩
  have hLength : found.length = ordered.length := by
    simpa using congrArg List.length hSame
  rw [List.forall₂_iff_get]
  refine ⟨hLength, ?_⟩
  intro j hBound hBound'
  apply pool.alike
  · exact hFound _ (List.get_mem _ _)
  · exact hOwn _ (hOrdered.mem_iff.mp (List.get_mem _ _))
  · have hAt := congrArg (fun keys => keys[j]?) hSame
    simpa [hBound, hBound'] using hAt

/- What was found of a root after all rows is that root. -/
theorem recovers_of_foundIn
    {graph : ObjectGraph root slots}
    {rows : List JoinedRow}
    {node own : Node}
    (hRows : rows.Perm graph.joined)
    (hFound : graph.FoundIn rows node)
    (hOwn : own ∈ graph.nodes)
    (hKey : node.key = own.key) :
    node.Recovers own := by
  constructor
  case root_eq =>
    rcases hFound.root_mem with ⟨own', hOwn', hRoot⟩
    have hSame : own' = own := by
      apply eq_of_key_eq hOwn' hOwn
      rw [← hKey, Node.key, Node.key, hRoot]
    rw [hRoot, hSame]
  case children_perm =>
    have hLength : node.children.length = slots.length := by
      rw [← hFound.holds.length_eq]
      simp [pools]
    have hLength' := length_children hOwn
    rw [List.forall₂_iff_get]
    refine ⟨by omega, ?_⟩
    intro i hBound hBound'
    have hSlot : i < slots.length := by omega
    have hKeys :
        (node.children[i]).map Record.identityKey =
          slotKeys
            (rows.filter fun row =>
              row.root.identityKey == own.key) i := by
      have hAt := congrArg (fun keys => keys[i]?) hFound.keys_eq
      simpa [seenKeys, hBound, hSlot, hKey] using hAt
    apply exists_ordered_of_keys_perm (graph.pool ⟨i, hSlot⟩)
    · intro r hMem
      have hHolds :=
        (List.forall₂_iff_get.mp hFound.holds).2 i
          (by simpa [pools] using hSlot) hBound r hMem
      simpa [pools] using hHolds
    · intro r hMem
      refine ⟨own, hOwn, ?_⟩
      rw [List.getD_eq_getElem _ _ hBound']
      exact hMem
    · have hDistinct :=
        graph.children_distinct own hOwn _
          (List.getElem_mem hBound')
      simp only [List.get_eq_getElem]
      rw [hKeys]
      apply (List.perm_ext_iff_of_nodup (nodup_eraseDups _)
        hDistinct).mpr
      intro key
      change key ∈ slotKeys _ i ↔ _
      rw [mem_slotKeys_of_perm hRows hOwn,
        List.getD_eq_getElem _ _ hBound', List.mem_map]

------------------------------------------------------------
-- Recovery
------------------------------------------------------------

/- A row shows the key of its root. -/
theorem rowKey_values
    {graph : ObjectGraph root slots}
    {row : JoinedRow}
    (hRow : row ∈ graph.joined) :
    root.rowKey (row.values slots) = row.root.identityKey := by
  rcases root_mem_of_mem_joined hRow with ⟨own, hOwn, hRoot⟩
  rcases Option.isSome_iff_exists.mp graph.root_identity with
    ⟨i, hIndex⟩
  rcases Record.exists_identityValue hIndex
    (graph.root_listable own hOwn) with ⟨_, hKey, hGet⟩
  have hBound := (List.getElem?_eq_some_iff.mp hGet).1
  rw [hRoot, hKey, EntityType.rowKey, JoinedRow.values, hIndex,
    Option.bind_some, hRoot, List.getElem?_append_left hBound, hGet]

/- All rows together show every root of the graph. -/
theorem rootKeys_perm
    {graph : ObjectGraph root slots}
    {rows : List JoinedRow}
    (hRows : rows.Perm graph.joined) :
    (rootKeys rows).Perm (graph.nodes.map Node.key) := by
  apply (List.perm_ext_iff_of_nodup (nodup_eraseDups _)
    graph.roots_distinct).mpr
  intro key
  rw [List.mem_eraseDups, List.mem_map, List.mem_map]
  constructor
  · rintro ⟨row, hRow, rfl⟩
    rcases root_mem_of_mem_joined (hRows.mem_iff.mp hRow) with
      ⟨own, hOwn, hRoot⟩
    exact ⟨own, hOwn, by rw [hRoot, Node.key]⟩
  · rintro ⟨own, hOwn, rfl⟩
    rcases own.exists_mem_rows with ⟨row, hRow⟩
    refine ⟨row, hRows.mem_iff.mpr ?_, ?_⟩
    · exact List.mem_flatMap.mpr ⟨own, hOwn, hRow⟩
    · rcases List.mem_map.mp hRow with ⟨picks, _, rfl⟩
      rfl

/-
  Take the rows that outer joins of a graph answer, in any
  order. Hydration finds every root once, in the order in which
  the rows show them first, and its children in every slot are
  exactly its own.
-/
theorem hydrateNested_recovers
    (graph : ObjectGraph root slots)
    (rows : List (List Value))
    (columns : List String)
    (hRows : rows.Perm graph.rows)
    (hColumns :
      columns.length =
        root.width + (slots.map EntityType.width).sum) :
    ∃ found,
      hydrateNested root (Node.bare slots.length)
          (Node.slots slots) ⟨columns, rows⟩ =
        .ok found ∧
      found.map Node.key = (rows.map root.rowKey).eraseDups ∧
      ∃ own : List Node, own.Perm graph.nodes ∧
        List.Forall₂ Node.Recovers found own := by
  rcases exists_perm_of_perm_map hRows with
    ⟨joined, hJoined, rfl⟩
  have hMem : ∀ row ∈ joined, row ∈ graph.joined :=
    fun row hRow => hJoined.mem_iff.mp hRow
  have hExpected :
      columns.length =
        Nesting.expectedWidth root (Node.slots slots) := by
    rw [hColumns, Nesting.expectedWidth, map_width_slots]
  rcases graph.reached_start with
    ⟨roots, children, hStart, hChildren, hReached⟩
  rcases reached_foldlM hReached hMem hExpected with
    ⟨state, hFold, hReached⟩
  rw [List.nil_append] at hReached
  have hKeys := hReached.keys_eq
  rcases exists_perm_of_perm_map
    (hKeys ▸ rootKeys_perm hJoined) with ⟨own, hOwn, hSame⟩
  refine ⟨state.roots.instances, ?_, ?_, own, hOwn, ?_⟩
  · have hViews :
        ResultSet.rowViews
            ⟨columns, joined.map (JoinedRow.values slots)⟩ =
          joined.map fun row => ⟨columns, row.values slots⟩ := by
      simp [ResultSet.rowViews]
    unfold hydrateNested
    rw [hStart, hViews]
    simp [hChildren, hExpected, hFold, Bind.bind, Except.bind]
  · rw [hKeys, rootKeys, List.map_map]
    congr 1
    apply List.map_congr_left
    exact fun row hRow => (rowKey_values (hMem row hRow)).symm
  · rw [List.forall₂_iff_get]
    refine ⟨by simpa using congrArg List.length hSame, ?_⟩
    intro i hBound hBound'
    apply recovers_of_foundIn hJoined
    · exact hReached.found _ (List.get_mem _ _)
    · exact hOwn.mem_iff.mp (List.get_mem _ _)
    · have hAt := congrArg (fun keys => keys[i]?) hSame
      simpa [hBound, hBound'] using hAt

end ObjectGraph

------------------------------------------------------------
-- A shared child
------------------------------------------------------------

namespace SharedPost

/- An entity type with a key and a name that may be missing. -/
def entity
    (id : Nat)
    (name : String) : EntityType :=
  { key := ⟨id, name⟩
    table := name
    properties :=
      [ { column := "id", declaredType := "i64",
          type := ⟨.integer .int64, false⟩, identity := true },
        { column := "name", declaredType := "Option<String>",
          type := ⟨.text, true⟩, nullable := true } ] }

def blog : EntityType :=
  entity 0 "blog"

def post : EntityType :=
  entity 1 "post"

def record
    (e : EntityType)
    (id : Int64) : Record :=
  ⟨e, [.integer id, .absent]⟩

/- Two blogs that share a post, and one without posts. -/
def graph : ObjectGraph blog [post] where
  nodes :=
    [ ⟨record blog 1, [[record post 1, record post 2]]⟩,
      ⟨record blog 2, [[record post 2]]⟩,
      ⟨record blog 3, [[]]⟩ ]
  root_identity := rfl
  slot_identity := by simp; rfl
  root_listable := by
    simp only [List.forall_mem_cons]
    refine ⟨?_, ?_, ?_, nofun⟩ <;>
      exact ⟨rfl, .cons rfl (.cons rfl .nil), rfl, nofun⟩
  roots_distinct := by decide
  children_listable := by
    simp only [List.forall_mem_cons]
    refine ⟨.cons ?_ .nil, .cons ?_ .nil, .cons nofun .nil,
      nofun⟩ <;>
      simp only [List.forall_mem_cons]
    · refine ⟨?_, ?_, nofun⟩ <;>
        exact ⟨rfl, .cons rfl (.cons rfl .nil), rfl, nofun⟩
    · refine ⟨?_, nofun⟩
      exact ⟨rfl, .cons rfl (.cons rfl .nil), rfl, nofun⟩
  children_distinct := by decide
  children_alike := by
    have hPosts :
        ∀ node ∈
          ([ ⟨record blog 1, [[record post 1, record post 2]]⟩,
            ⟨record blog 2, [[record post 2]]⟩,
            ⟨record blog 3, [[]]⟩ ] : List Node),
          ∀ i, ∀ r ∈ node.children.getD i [],
            r = record post 1 ∨ r = record post 2 := by
      simp only [List.forall_mem_cons]
      refine ⟨?_, ?_, ?_, nofun⟩ <;>
        rintro (_ | i) r hMem <;>
        simp_all
    intro node hNode node' hNode' i a ha b hb hKey
    rcases hPosts node hNode i a ha with rfl | rfl <;>
      rcases hPosts node' hNode' i b hb with rfl | rfl
    · exact .cons (Or.inl rfl) (.cons (Or.inl rfl) .nil)
    · exact absurd hKey (by decide)
    · exact absurd hKey (by decide)
    · exact .cons (Or.inl rfl) (.cons (Or.inl rfl) .nil)

/- The rows of the shared post come between those of others. -/
theorem hydrateNested_recovers_shared_post :
    let columns := ["t1_id", "t1_name", "t2_id", "t2_name"]
    let rows : List (List Value) :=
      [ [.int 2, .null, .int 2, .null],
        [.int 1, .null, .int 2, .null],
        [.int 3, .null, .null, .null],
        [.int 1, .null, .int 1, .null] ]
    rows.Perm graph.rows ∧
      columns.length =
        blog.width + ([post].map EntityType.width).sum ∧
      ∃ found,
        hydrateNested blog (Node.bare 1) (Node.slots [post])
            ⟨columns, rows⟩ =
          .ok found ∧
        found.map Node.key = (rows.map blog.rowKey).eraseDups ∧
        ∃ own : List Node, own.Perm graph.nodes ∧
          List.Forall₂ Node.Recovers found own := by
  intro columns rows
  have hRows : rows.Perm graph.rows := by
    decide
  exact ⟨hRows, rfl,
    graph.hydrateNested_recovers rows columns hRows rfl⟩

end SharedPost

end EntitySql
