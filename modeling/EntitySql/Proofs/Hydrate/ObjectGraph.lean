import EntitySql.Proofs.Hydrate.Cache

/-
  Object graphs: roots with lists of children in slots, the
  rows that outer joins make of them, and what it means that
  hydration finds them again.

  Key definitions include:
    * `Node`, `Node.slots`
    * `ObjectGraph`, `ObjectGraph.rows`
    * `Node.Recovers`
    * `Pool`, `ObjectGraph.pools`

  Key theorems include:
    * `Pool.map_identityKey_appendChild`
    * `ObjectGraph.mem_joined_iff`
    * `Node.exists_mem_rows_of_mem`
-/

namespace EntitySql

------------------------------------------------------------
-- Nodes
------------------------------------------------------------

/- A root and its children, one list for every slot. -/
structure Node where
  root : Record
  children : List (List Record)

/- The identity fields hold equal values. -/
def Record.sameIdentity
    (a b : Record) : Bool :=
  match a.identityValue, b.identityValue with
  | .ok v, .ok w => v.equal w
  | _, _ => false

/- The same columns hold the same or equal values. -/
def Record.Alike
    (a b : Record) : Prop :=
  List.Forall₂ (fun v w => v = w ∨ v.equal w = true)
    a.values b.values

namespace Node

def key
    (node : Node) : IdentityKey :=
  node.root.identityKey

/- A root to which no child has been attached. -/
def bare
    (slots : Nat)
    (root : Record) : Node :=
  ⟨root, List.replicate slots []⟩

/- Append a child unless one with its identity is there. -/
def appendChild
    (children : List Record)
    (child : Record) : List Record :=
  if children.any child.sameIdentity then children
  else children ++ [child]

/- Attach a child in a slot. -/
def attach
    (i : Nat)
    (node : Node)
    (child : Record) : Node :=
  { node with
    children :=
      node.children.modify i fun children =>
        appendChild children child }

/- Joined entity types whose records are attached in turn. -/
def slots
    (types : List EntityType) : List (Slot Node) :=
  types.zipIdx.map fun (e, i) => ⟨e, attach i⟩

/-
  A node that was found is one of a graph: it has its root and
  in every slot its children, in some order.
-/
structure Recovers
    (found own : Node) : Prop where
  root_eq : found.root = own.root
  children_perm :
    List.Forall₂
      (fun foundChildren ownChildren =>
        ∃ ordered, ordered.Perm ownChildren ∧
          List.Forall₂ Record.Alike foundChildren ordered)
      found.children own.children

end Node

------------------------------------------------------------
-- Object graphs
------------------------------------------------------------

/-
  Roots with children that a join can list. A child may occur
  under several roots; it then has the same columns everywhere.
-/
structure ObjectGraph
    (root : EntityType)
    (slots : List EntityType) where
  nodes : List Node
  root_identity : root.identityIndex?.isSome
  slot_identity : ∀ e ∈ slots, e.identityIndex?.isSome
  root_listable : ∀ node ∈ nodes, node.root.Listable root
  roots_distinct : (nodes.map Node.key).Nodup
  children_listable :
    ∀ node ∈ nodes,
      List.Forall₂
        (fun e children => ∀ child ∈ children, child.Listable e)
        slots node.children
  children_distinct :
    ∀ node ∈ nodes, ∀ children ∈ node.children,
      (children.map Record.identityKey).Nodup
  children_alike :
    ∀ node ∈ nodes, ∀ node' ∈ nodes, ∀ i,
      ∀ a ∈ node.children.getD i [],
        ∀ b ∈ node'.children.getD i [],
          a.identityKey = b.identityKey → a.Alike b

------------------------------------------------------------
-- Rows
------------------------------------------------------------

/- A row of the join: a root and for every slot a child or none. -/
structure JoinedRow where
  root : Record
  picks : List (Option Record)

/- The columns of a slot; without a child they are NULL. -/
def EntityType.slice
    (e : EntityType) : Option Record → List Value
  | some r => r.values
  | none => List.replicate e.width .null

def JoinedRow.values
    (slots : List EntityType)
    (row : JoinedRow) : List Value :=
  row.root.values ++
    (List.zipWith EntityType.slice slots row.picks).flatten

namespace Node

/- A slot without children still takes part in the product. -/
def choices
    (children : List Record) : List (Option Record) :=
  if children.isEmpty then [none] else children.map some

theorem some_mem_choices_iff
    {children : List Record}
    {r : Record} :
    some r ∈ choices children ↔ r ∈ children := by
  cases children with
  | nil => simp [choices]
  | cons _ _ => simp [choices]

/- One row for every way to pick from each of the slots. -/
def rows
    (node : Node) : List JoinedRow :=
  (node.children.map choices).sections.map fun picks =>
    ⟨node.root, picks⟩

end Node

/- The key of the root in a row. -/
def EntityType.rowKey
    (e : EntityType)
    (values : List Value) : IdentityKey :=
  match e.identityIndex?.bind fun i => values[i]? with
  | some v => v.identityKey
  | none => .null

namespace ObjectGraph

variable {root : EntityType}
variable {slots : List EntityType}

def joined
    (graph : ObjectGraph root slots) : List JoinedRow :=
  graph.nodes.flatMap Node.rows

/- The rows that outer joins of the graph's tables answer. -/
def rows
    (graph : ObjectGraph root slots) : List (List Value) :=
  graph.joined.map (JoinedRow.values slots)

end ObjectGraph

------------------------------------------------------------
-- Pools
------------------------------------------------------------

/-
  The children that occur in one slot of a graph, whatever
  their root.
-/
structure Pool where
  type : EntityType
  holds : Record → Prop
  identity : type.identityIndex?.isSome
  listable : ∀ {r}, holds r → r.Listable type
  alike :
    ∀ {a b}, holds a → holds b →
      a.identityKey = b.identityKey → a.Alike b

namespace Record

/- The identity value of a record, as a member of its values. -/
theorem exists_identityValue
    {e : EntityType}
    {r : Record}
    {i : Nat}
    (hIndex : e.identityIndex? = some i)
    (hListable : r.Listable e) :
    r.identityValue = .ok (r.value i) ∧
      r.identityKey = (r.value i).identityKey ∧
      r.values[i]? = some (r.value i) := by
  have hType := hListable.type_eq
  have hBound : i < r.fields.length := by
    rw [← hListable.survives.length_eq, hType]
    exact (List.findIdx?_eq_some_iff_findIdx_eq.mp hIndex).1
  refine ⟨?_, ?_, ?_⟩
  · simp [identityValue, EntityType.identityPosition, hType,
      hIndex, Bind.bind, Except.bind]
  · simp [identityKey, hType, hIndex]
  · simp [values, value, hBound]

end Record

/- A value that has a key and is no float equals itself. -/
theorem Value.equal_self
    {v : Value}
    (hFloat : ∀ bits, v.identityKey ≠ .float bits) :
    v.equal v = true := by
  cases v <;> simp [Value.equal, Value.identityKey] at hFloat ⊢

namespace Pool

/- Within a pool the same identity is the same key. -/
theorem sameIdentity_iff
    {pool : Pool}
    {a b : Record}
    (ha : pool.holds a)
    (hb : pool.holds b) :
    a.sameIdentity b = true ↔ a.identityKey = b.identityKey := by
  rcases Option.isSome_iff_exists.mp pool.identity with
    ⟨i, hIndex⟩
  rcases Record.exists_identityValue hIndex (pool.listable ha) with
    ⟨hValue, hKey, hGet⟩
  rcases Record.exists_identityValue hIndex (pool.listable hb) with
    ⟨hValue', hKey', hGet'⟩
  have hFloat := (pool.listable hb).not_float
  rw [hKey'] at hFloat
  simp only [Record.sameIdentity, hValue, hValue']
  constructor
  · intro hEqual
    rw [hKey, hKey']
    exact Value.identityKey_eq_of_equal hEqual hFloat
  · intro hSame
    rcases List.getElem?_eq_some_iff.mp hGet with ⟨hBound, hAt⟩
    rcases List.getElem?_eq_some_iff.mp hGet' with
      ⟨hBound', hAt'⟩
    have hAlike :=
      (List.forall₂_iff_get.mp (pool.alike ha hb hSame)).2 i
        hBound hBound'
    simp only [List.get_eq_getElem, hAt, hAt'] at hAlike
    rcases hAlike with hSame | hEqual
    · rw [hSame]
      exact Value.equal_self hFloat
    · exact hEqual

end Pool

/- Keep a key unless it is there. -/
def note
    (keys : List IdentityKey)
    (key : IdentityKey) : List IdentityKey :=
  if key ∈ keys then keys else keys ++ [key]

/- Attaching a child keeps its key, unless it is there. -/
theorem Pool.map_identityKey_appendChild
    {pool : Pool}
    {children : List Record}
    {child : Record}
    (hChildren : ∀ r ∈ children, pool.holds r)
    (hChild : pool.holds child) :
    (Node.appendChild children child).map Record.identityKey =
      note (children.map Record.identityKey)
        child.identityKey := by
  have hAttached :
      children.any child.sameIdentity = true ↔
        child.identityKey ∈ children.map Record.identityKey := by
    rw [List.any_eq_true, List.mem_map]
    constructor
    · rintro ⟨r, hMem, hSame⟩
      exact ⟨r, hMem,
        ((sameIdentity_iff hChild (hChildren r hMem)).mp
          hSame).symm⟩
    · rintro ⟨r, hMem, hKey⟩
      exact ⟨r, hMem,
        (sameIdentity_iff hChild (hChildren r hMem)).mpr
          hKey.symm⟩
  unfold Node.appendChild note
  by_cases hThere : children.any child.sameIdentity = true
  · rw [if_pos hThere, if_pos (hAttached.mp hThere)]
  · rw [if_neg hThere, if_neg (fun h => hThere (hAttached.mpr h)),
      List.map_append]
    rfl

namespace ObjectGraph

variable {root : EntityType}
variable {slots : List EntityType}

theorem length_children
    {graph : ObjectGraph root slots}
    {node : Node}
    (hNode : node ∈ graph.nodes) :
    node.children.length = slots.length :=
  (graph.children_listable node hNode).length_eq.symm

/- The children in one slot of a graph. -/
def pool
    (graph : ObjectGraph root slots)
    (i : Fin slots.length) : Pool where
  type := slots[i]
  holds r := ∃ node ∈ graph.nodes, r ∈ node.children.getD i []
  identity := graph.slot_identity _ (List.getElem_mem i.isLt)
  listable := by
    rintro r ⟨node, hNode, hMem⟩
    have hBound : i < node.children.length := by
      rw [length_children hNode]
      exact i.isLt
    have hListable :=
      (List.forall₂_iff_get.mp
        (graph.children_listable node hNode)).2 i i.isLt hBound
    apply hListable
    simpa [hBound] using hMem
  alike := by
    rintro a b ⟨node, hNode, ha⟩ ⟨node', hNode', hb⟩ hSame
    exact graph.children_alike node hNode node' hNode' i a ha b hb
      hSame

def pools
    (graph : ObjectGraph root slots) : List Pool :=
  List.ofFn graph.pool

@[simp] theorem map_type_pools
    (graph : ObjectGraph root slots) :
    graph.pools.map Pool.type = slots := by
  simp [pools, Function.comp_def, pool, List.ofFn_getElem]

/- Every row is that of a node, with children of its slots. -/
theorem mem_joined_iff
    {graph : ObjectGraph root slots}
    {row : JoinedRow} :
    row ∈ graph.joined ↔
      ∃ node ∈ graph.nodes, row.root = node.root ∧
        List.Forall₂ (fun pick children => pick ∈ Node.choices children)
          row.picks node.children := by
  rcases row with ⟨r, picks⟩
  simp only [joined, List.mem_flatMap, Node.rows, List.mem_map,
    List.mem_sections, List.forall₂_map_right_iff,
    JoinedRow.mk.injEq]
  constructor
  · rintro ⟨node, hNode, picks', hPicks, rfl, rfl⟩
    exact ⟨node, hNode, rfl, hPicks⟩
  · rintro ⟨node, hNode, rfl, hPicks⟩
    exact ⟨node, hNode, picks, hPicks, rfl, rfl⟩

/- The root of a row is a root of the graph. -/
theorem root_mem_of_mem_joined
    {graph : ObjectGraph root slots}
    {row : JoinedRow}
    (hRow : row ∈ graph.joined) :
    ∃ node ∈ graph.nodes, row.root = node.root := by
  rcases mem_joined_iff.mp hRow with ⟨node, hNode, hRoot, _⟩
  exact ⟨node, hNode, hRoot⟩

/- The children in a row are children of its slots. -/
theorem picks_of_mem_joined
    {graph : ObjectGraph root slots}
    {row : JoinedRow}
    (hRow : row ∈ graph.joined) :
    List.Forall₂
      (fun (pool : Pool) pick => ∀ r, pick = some r → pool.holds r)
      graph.pools row.picks := by
  rcases mem_joined_iff.mp hRow with ⟨node, hNode, _, hPicks⟩
  rw [List.forall₂_iff_get] at hPicks ⊢
  have hLength := length_children hNode
  refine ⟨by simp [pools, hPicks.1, hLength], ?_⟩
  intro i hPool hPick r hSome
  have hBound : i < node.children.length := by
    rw [← hPicks.1]
    exact hPick
  have hChoice := hPicks.2 i hPick hBound
  simp only [List.get_eq_getElem] at hSome hChoice
  rw [hSome, Node.some_mem_choices_iff] at hChoice
  simp only [List.get_eq_getElem, pools, List.getElem_ofFn]
  refine ⟨node, hNode, ?_⟩
  rw [List.getD_eq_getElem _ _ hBound]
  exact hChoice

end ObjectGraph

------------------------------------------------------------
-- Products
------------------------------------------------------------

/- A product of lists that are not empty is not empty. -/
theorem exists_mem_sections
    {α : Type}
    {lists : List (List α)}
    (hNonempty : ∀ l ∈ lists, l ≠ []) :
    ∃ picks, picks ∈ lists.sections := by
  induction lists with
  | nil => exact ⟨[], by simp [List.sections]⟩
  | cons l lists ih =>
      rcases ih fun l hMem =>
        hNonempty l (List.mem_cons_of_mem _ hMem) with
        ⟨picks, hPicks⟩
      rcases List.exists_mem_of_ne_nil l
        (hNonempty l List.mem_cons_self) with ⟨x, hx⟩
      exact ⟨x :: picks,
        List.mem_sections.mpr
          (.cons hx (List.mem_sections.mp hPicks))⟩

/- Every element of every list occurs somewhere in the product. -/
theorem exists_mem_sections_of_mem
    {α : Type}
    {lists : List (List α)}
    {i : Nat}
    {l : List α}
    {x : α}
    (hNonempty : ∀ l ∈ lists, l ≠ [])
    (hList : lists[i]? = some l)
    (hMem : x ∈ l) :
    ∃ picks ∈ lists.sections, picks[i]? = some x := by
  induction lists generalizing i with
  | nil => simp at hList
  | cons l' lists ih =>
      have hRest : ∀ l ∈ lists, l ≠ [] := fun l hMem =>
        hNonempty l (List.mem_cons_of_mem _ hMem)
      cases i with
      | zero =>
          rcases exists_mem_sections hRest with ⟨picks, hPicks⟩
          simp only [List.getElem?_cons_zero,
            Option.some.injEq] at hList
          subst hList
          exact ⟨x :: picks,
            List.mem_sections.mpr
              (.cons hMem (List.mem_sections.mp hPicks)), rfl⟩
      | succ i =>
          rcases ih hRest (by simpa using hList) with
            ⟨picks, hPicks, hGet⟩
          rcases List.exists_mem_of_ne_nil l'
            (hNonempty l' List.mem_cons_self) with ⟨y, hy⟩
          exact ⟨y :: picks,
            List.mem_sections.mpr
              (.cons hy (List.mem_sections.mp hPicks)), hGet⟩

namespace Node

theorem choices_ne_nil
    (children : List Record) :
    choices children ≠ [] := by
  unfold choices
  split <;> simp_all

/- Every root has a row, whatever its slots hold. -/
theorem exists_mem_rows
    (node : Node) :
    ∃ row, row ∈ node.rows := by
  have hNonempty : ∀ l ∈ node.children.map choices, l ≠ [] := by
    simp [choices_ne_nil]
  rcases exists_mem_sections hNonempty with ⟨picks, hPicks⟩
  exact ⟨_, List.mem_map_of_mem hPicks⟩

/- Every child of a root is in one of its rows. -/
theorem exists_mem_rows_of_mem
    {node : Node}
    {i : Nat}
    {r : Record}
    (hMem : r ∈ node.children.getD i []) :
    ∃ row ∈ node.rows, row.picks[i]? = some (some r) := by
  have hNonempty : ∀ l ∈ node.children.map choices, l ≠ [] := by
    simp [choices_ne_nil]
  rcases hGet : node.children[i]? with _ | children
  · simp [List.getD, hGet] at hMem
  · have hMem : r ∈ children := by
      simpa [List.getD, hGet] using hMem
    have hChoice : some r ∈ choices children :=
      some_mem_choices_iff.mpr hMem
    have hList :
        (node.children.map choices)[i]? =
          some (choices children) := by
      simp [hGet]
    rcases exists_mem_sections_of_mem hNonempty hList hChoice with
      ⟨picks, hPicks, hPick⟩
    exact ⟨_, List.mem_map_of_mem hPicks, hPick⟩

end Node

end EntitySql
