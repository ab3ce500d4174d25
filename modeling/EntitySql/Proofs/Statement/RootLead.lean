import EntitySql.Proofs.Statement.JoinPaging

/-
  When the rows of a join start with the root that ranks first.
  They do if the order of rows does not part with the order of
  the roots, so that the rows of this root come first.

  Key definitions include:
    * `SelectPlan.Follows`
    * `Query.RootsLead`

  Key theorems include:
    * `RootRanking.exists_least_of_filter`
    * `SelectPlan.Follows.filter_isPrefix`
    * `Query.PlansJoin.follows_of_rootsLead`
    * `Query.PlansJoin.follows_of_keyLeads`
-/

namespace EntitySql

open Std (OrientedCmp TransCmp)

------------------------------------------------------------
-- Roots in the order of their rows
------------------------------------------------------------

/- A test that holds for a row and all before it keeps a front. -/
theorem filter_isPrefix
    {α : Type}
    {p : α → Bool}
    {xs : List α}
    (hBefore : xs.Pairwise fun x y => p y = true → p x = true) :
    xs.filter p <+: xs := by
  induction hBefore with
  | nil => exact List.prefix_rfl
  | @cons x xs hFirst _ ih =>
      by_cases hp : p x = true
      · rw [List.filter_cons_of_pos hp]
        exact (List.prefix_cons_inj x).mpr ih
      · rw [List.filter_cons_of_neg hp,
          List.filter_eq_nil_iff.mpr fun y hy hY => hp (hFirst y hy hY)]
        exact List.nil_prefix

/- Rows in the order of a plan have their roots in order too. -/
def SelectPlan.Follows
    (κ : Collation)
    (plan : SelectPlan)
    (ranking : RootRanking)
    (rows : List SelectRow) : Prop :=
  ∀ r ∈ rows, ∀ s ∈ rows,
    (compareRows κ plan.order r s).isLE →
      (compareRows κ ranking.order r s).isLE

section follows

variable {κ : Collation}
variable {plan : SelectPlan}
variable {ranking : RootRanking}
variable {rows sorted : List SelectRow}
variable {r : SelectRow}

/- A root ranks first if it is not after any other one. -/
theorem RootRanking.rank_eq_one_iff :
    ranking.rank κ rows r = 1 ↔
      ∀ s ∈ rows, (compareRows κ ranking.order r s).isLE := by
  rw [rank, denseRank_eq_one_iff]
  apply forall₂_congr
  intro s _
  rw [@OrientedCmp.eq_swap _ (compareRows κ ranking.order) _ r s]
  cases compareRows κ ranking.order s r <;> decide

/- The rows of the first root come first. -/
theorem SelectPlan.Follows.filter_isPrefix
    (hFollows : plan.Follows κ ranking rows)
    (hPerm : sorted.Perm rows)
    (hSorted : SortedBy κ plan.order sorted) :
    (sorted.filter fun r => ranking.rank κ rows r == 1) <+:
      sorted := by
  apply EntitySql.filter_isPrefix
  apply hSorted.imp_of_mem
  intro r s hr hs hLE hFirst
  have hr := hPerm.mem_iff.mp hr
  have hs := hPerm.mem_iff.mp hs
  rw [beq_iff_eq, RootRanking.rank_eq_one_iff] at hFirst
  rw [beq_iff_eq, RootRanking.rank_eq_one_iff]
  intro t ht
  exact TransCmp.isLE_trans (hFollows r hr s hs hLE) (hFirst t ht)

/- The first row has the first root. -/
theorem SelectPlan.Follows.rank_eq_one
    (hFollows : plan.Follows κ ranking rows)
    (hPerm : (r :: sorted).Perm rows)
    (hSorted : SortedBy κ plan.order (r :: sorted)) :
    ranking.rank κ rows r = 1 := by
  have hr := hPerm.mem_iff.mp List.mem_cons_self
  rw [RootRanking.rank_eq_one_iff]
  intro s hs
  exact hFollows r hr s hs
    (isLE_of_sortedBy_cons hSorted (hPerm.mem_iff.mpr hs))

/-
  Of sorted rows, those of the first root start with the least
  row, by the ranking of roots before the order of rows.
-/
theorem RootRanking.exists_least_of_filter
    (hPerm : sorted.Perm rows)
    (hSorted : SortedBy κ plan.order sorted)
    (hSome : rows ≠ []) :
    ∃ r rest,
      sorted.filter (fun r => ranking.rank κ rows r == 1) =
        r :: rest ∧
      r ∈ rows ∧
      ∀ s ∈ rows,
        (compareRows κ (ranking.order ++ plan.order) r s).isLE := by
  have hFirst {s : SelectRow} (hs : s ∈ rows)
      (hRank : ranking.rank κ rows s = 1) :
      s ∈ sorted.filter fun r => ranking.rank κ rows r == 1 :=
    List.mem_filter.mpr
      ⟨hPerm.mem_iff.mpr hs, beq_iff_eq.mpr hRank⟩
  rcases exists_denseRank_eq_one (compareRows κ ranking.order) hSome
    with ⟨t, ht, hRank⟩
  have hMem := hFirst ht hRank
  rcases hFilter :
      sorted.filter fun r => ranking.rank κ rows r == 1 with
    _ | ⟨r, rest⟩
  · rw [hFilter] at hMem
    cases hMem
  · have hOrdered := hSorted.filter
      fun r => ranking.rank κ rows r == 1
    rw [hFilter] at hOrdered
    have hr :
        r ∈ sorted.filter fun r => ranking.rank κ rows r == 1 := by
      rw [hFilter]
      exact List.mem_cons_self
    rw [List.mem_filter, beq_iff_eq] at hr
    refine ⟨r, rest, rfl, hPerm.mem_iff.mp hr.1, ?_⟩
    intro s hs
    have hLE := RootRanking.rank_eq_one_iff.mp hr.2 s hs
    rw [compareRows_append, Ordering.isLE_then_iff_and]
    refine ⟨hLE, ?_⟩
    cases hOrder : compareRows κ ranking.order r s with
    | gt =>
        rw [hOrder] at hLE
        cases hLE
    | lt => exact .inl rfl
    | eq =>
        right
        have hSame : ranking.rank κ rows r = ranking.rank κ rows s :=
          denseRank_congr rows hOrder
        have hIn := hFirst hs (hSame ▸ hr.2)
        rw [hFilter] at hIn
        exact isLE_of_sortedBy_cons hOrdered hIn

end follows

namespace Query

/-
  A query is ordered by root columns at first, and by none of
  them behind a column of another table.
-/
def RootsLead
    (q : Query) : Prop :=
  q.leadingItems ≠ [] ∧ q.laterItems.any q.ordersRoot = false

variable {q : Query}
variable {naming : TableNaming}
variable {plan : SelectPlan}
variable {ranking : RootRanking}
variable {column : String}
variable {items : List OrderItem}
variable {κ : Collation}
variable {rows : List SelectRow}

/- The items on root columns are the leading and later ones. -/
theorem filter_ordersRoot
    (q : Query) :
    q.ordering.filter q.ordersRoot =
      q.leadingItems ++ q.laterItems.filter q.ordersRoot := by
  have hParts : q.ordering = q.leadingItems ++ q.laterItems :=
    List.takeWhile_append_dropWhile.symm
  have hLeading : q.leadingItems.filter q.ordersRoot = q.leadingItems :=
    List.filter_eq_self.mpr fun _ hMem => List.mem_takeWhile_imp hMem
  conv_lhs => rw [hParts, List.filter_append, hLeading]

/- Rows follow their roots if the front decides the roots. -/
theorem PlansJoin.follows_of_rootsLead
    (hPlans : q.PlansJoin naming plan column items)
    (hRanking : plan.ranking = some ranking)
    (hLead : q.RootsLead) :
    plan.Follows κ ranking rows := by
  cases hPlans.ranking.symm.trans hRanking
  have hLater : q.laterItems.filter q.ordersRoot = [] := by
    rw [List.filter_eq_nil_iff, ← List.any_eq_false]
    exact hLead.2
  intro r _ s _ hLE
  rw [hPlans.order,
    joinedOrder_eq hPlans.resolved column (.inr hLead.1),
    compareRows_append, Ordering.isLE_then_iff_and] at hLE
  rw [rootOrder_eq hPlans.resolved, filter_ordersRoot, hLater,
    List.append_nil]
  exact hLE.1

/-
  So they do if the key is among the leading items, and the
  other root columns with it.
-/
theorem PlansJoin.follows_of_keyLeads
    (hPlans : q.PlansJoin naming plan column items)
    (hRanking : plan.ranking = some ranking)
    (hKey : q.leadingItems.any (q.ordersKey column) = true)
    (hDetermines : ranking.Determines κ rows) :
    plan.Follows κ ranking rows := by
  have hOrders := hPlans.ordersRoots hRanking
  cases hPlans.ranking.symm.trans hRanking
  have hStart : q.leadingItems ≠ [] := by
    intro hEmpty
    rw [hEmpty] at hKey
    cases hKey
  intro r hr s hs hLE
  rw [hPlans.order,
    joinedOrder_eq hPlans.resolved column (.inr hStart),
    rootFront, List.append_assoc, compareRows_append,
    Ordering.isLE_then_iff_and] at hLE
  cases hLeading :
      compareRows κ (q.leadingItems.map OrderBy.rootItem) r s with
  | gt =>
      rw [hLeading] at hLE
      exact absurd hLE.1 (by decide)
  | lt =>
      rw [rootOrder_eq hPlans.resolved, filter_ordersRoot,
        List.map_append, List.append_assoc, compareRows_append,
        hLeading]
      rfl
  | eq =>
      have hSame : κ.compareAt (.ofRoot column) r s = .eq := by
        rcases List.any_eq_true.mp hKey with ⟨o, hMem, hOrdersKey⟩
        rw [ordersKey, Bool.and_eq_true, beq_iff_eq] at hOrdersKey
        have hTie := (compareRows_eq_eq_iff κ _ r s).mp hLeading
          o.rootItem (List.mem_map_of_mem hMem)
        rwa [OrderBy.rootItem, hOrdersKey.2] at hTie
      rw [(RootRanking.compareRows_order_eq_iff hOrders hDetermines
        hr hs).mpr hSame]
      rfl

end Query

end EntitySql
