import Mathlib
import EntitySql.Statement.Plan

/-
  This file says in what order a database returns rows that
  are ordered by the items of a plan, and how it ranks them.

  Key definitions include:
    * `SelectRow`, `Collation`
    * `compareRows`, `SortedBy`, `Total`
    * `tieClasses`, `denseRank`

  Key theorems include:
    * `compareRows_append`
    * `compareRows_eq_eq_iff`
    * `Total.eq_of_sortedBy`
    * `denseRank_eq_iff`
    * `map_denseRank_perm`

  A database may take different values for equal, such as
  texts in a collation without case. So rows tie when they
  compare as equal, and not only when they are the same.
-/

namespace EntitySql

open Std (OrientedCmp TransCmp)

------------------------------------------------------------
-- Rows and their order
------------------------------------------------------------

/- What every column is on a row of the tables of a select. -/
abbrev SelectRow :=
  ColumnExpr → Value

/-
  How a database orders the values of each column. NULL has a
  place among them like any other value.
-/
structure Collation where
  compare : ColumnExpr → Value → Value → Ordering
  lawful : ∀ column, TransCmp (compare column)

instance
    (κ : Collation)
    (column : ColumnExpr) :
    TransCmp (κ.compare column) :=
  κ.lawful column

/- The values of a column on two rows, in their order. -/
def Collation.compareAt
    (κ : Collation)
    (column : ColumnExpr)
    (r s : SelectRow) : Ordering :=
  κ.compare column (r column) (s column)

instance
    (κ : Collation)
    (column : ColumnExpr) :
    TransCmp (κ.compareAt column) where
  eq_swap := (κ.lawful column).eq_swap
  isLE_trans := (κ.lawful column).isLE_trans

/- Rows with one value in a column tie there. -/
theorem Collation.compareAt_of_eq
    {κ : Collation}
    {column : ColumnExpr}
    {r s : SelectRow}
    (hSame : r column = s column) :
    κ.compareAt column r s = .eq := by
  rw [compareAt, hSame]
  exact @Std.ReflCmp.compare_self _ (κ.compare column) _ _

/- Two rows by one item of ORDER BY. -/
def OrderItem.compare
    (κ : Collation)
    (item : OrderItem) : SelectRow → SelectRow → Ordering :=
  match item.direction with
  | .asc => fun r s => κ.compareAt item.column r s
  | .desc => fun r s => κ.compareAt item.column s r

instance
    (κ : Collation)
    (item : OrderItem) :
    TransCmp (item.compare κ) := by
  unfold OrderItem.compare
  split
  · exact inferInstanceAs (TransCmp (κ.compareAt item.column))
  · exact TransCmp.opposite

/- Two rows tie by an item if they tie in its column. -/
theorem OrderItem.compare_eq_eq_iff
    (κ : Collation)
    (item : OrderItem)
    (r s : SelectRow) :
    item.compare κ r s = .eq ↔ κ.compareAt item.column r s = .eq := by
  rcases item with ⟨column, direction⟩
  cases direction with
  | asc => rfl
  | desc => exact @OrientedCmp.eq_comm _ (κ.compareAt column) _ _ _

/- Two rows by the items of ORDER BY, the first one first. -/
def compareRows
    (κ : Collation) : List OrderItem → SelectRow → SelectRow → Ordering
  | [] => fun _ _ => .eq
  | item :: items => compareLex (item.compare κ) (compareRows κ items)

instance
    (κ : Collation)
    (items : List OrderItem) :
    TransCmp (compareRows κ items) := by
  induction items with
  | nil =>
      exact
        { eq_swap := rfl
          isLE_trans := fun _ _ => rfl }
  | cons item items ih =>
      exact inferInstanceAs
        (TransCmp (compareLex (item.compare κ) (compareRows κ items)))

/- Later items decide where all earlier ones tie. -/
theorem compareRows_append
    (κ : Collation)
    (items items' : List OrderItem)
    (r s : SelectRow) :
    compareRows κ (items ++ items') r s =
      (compareRows κ items r s).then (compareRows κ items' r s) := by
  induction items with
  | nil => rfl
  | cons item items ih =>
      simp only [List.cons_append, compareRows, compareLex, ih,
        Ordering.then_assoc]

theorem compareRows_eq_eq_iff
    (κ : Collation)
    (items : List OrderItem)
    (r s : SelectRow) :
    compareRows κ items r s = .eq ↔
      ∀ item ∈ items, κ.compareAt item.column r s = .eq := by
  induction items with
  | nil => simp [compareRows]
  | cons item items ih =>
      rw [compareRows, compareLex_eq_eq, ih,
        OrderItem.compare_eq_eq_iff, List.forall_mem_cons]

/- The rows stand in the order that the items ask for. -/
def SortedBy
    (κ : Collation)
    (items : List OrderItem)
    (rows : List SelectRow) : Prop :=
  rows.Pairwise fun r s => (compareRows κ items r s).isLE

------------------------------------------------------------
-- Sorted rows
------------------------------------------------------------

/- Among elements that do not tie only the same one ties. -/
theorem eq_of_pairwise_of_tie
    {α : Type}
    {cmp : α → α → Ordering}
    [OrientedCmp cmp]
    {xs : List α}
    {x y : α}
    (hApart : xs.Pairwise fun x y => cmp x y ≠ .eq)
    (hx : x ∈ xs)
    (hy : y ∈ xs)
    (hTie : cmp x y = .eq) :
    x = y := by
  have hSymm : Std.Symm fun x y => cmp x y ≠ .eq :=
    ⟨fun _ _ hDiffer hTie => hDiffer (OrientedCmp.eq_symm hTie)⟩
  by_contra hDiffer
  exact hApart.forall hx hy hDiffer hTie

section sorted

variable {κ : Collation}
variable {items items' : List OrderItem}
variable {rows sorted sorted' : List SelectRow}
variable {r s : SelectRow}

/- No two rows tie. -/
def Total
    (κ : Collation)
    (items : List OrderItem)
    (rows : List SelectRow) : Prop :=
  rows.Pairwise fun r s => compareRows κ items r s ≠ .eq

theorem Total.eq_of_tie
    (hTotal : Total κ items rows)
    (hr : r ∈ rows)
    (hs : s ∈ rows)
    (hTie : compareRows κ items r s = .eq) :
    r = s :=
  eq_of_pairwise_of_tie hTotal hr hs hTie

/- Rows that do not tie can be sorted in one way only. -/
theorem Total.eq_of_sortedBy
    (hTotal : Total κ items rows)
    (hPerm : sorted.Perm rows)
    (hPerm' : sorted'.Perm rows)
    (hSorted : SortedBy κ items sorted)
    (hSorted' : SortedBy κ items sorted') :
    sorted = sorted' := by
  apply List.Perm.eq_of_pairwise _ hSorted hSorted'
    (hPerm.trans hPerm'.symm)
  intro r s hr hs hLE hGE
  exact hTotal.eq_of_tie (hPerm.mem_iff.mp hr) (hPerm'.mem_iff.mp hs)
    (OrientedCmp.isLE_antisymm hLE hGE)

/- The first of sorted rows is not after any other one. -/
theorem isLE_of_sortedBy_cons
    (hSorted : SortedBy κ items (r :: sorted))
    (hs : s ∈ r :: sorted) :
    (compareRows κ items r s).isLE := by
  rcases List.mem_cons.mp hs with rfl | hRest
  · exact Std.ReflCmp.isLE_rfl
  · exact (List.pairwise_cons.mp hSorted).1 s hRest

end sorted

------------------------------------------------------------
-- Ties
------------------------------------------------------------

section rank

variable {α : Type}
variable (cmp : α → α → Ordering)

/- One row for every class of rows that tie. -/
def tieClasses
    (rows : List α) : List α :=
  rows.pwFilter fun r s => cmp r s ≠ .eq

/-
  The rank of a row: one more than the number of different
  places before it. Rows that tie share their rank, and no
  rank is left out.
-/
def denseRank
    (rows : List α)
    (r : α) : Nat :=
  (tieClasses cmp rows).countP (fun s => cmp s r == .lt) + 1

variable {cmp}
variable {rows : List α}
variable {r s : α}

theorem mem_of_mem_tieClasses
    (hMem : r ∈ tieClasses cmp rows) :
    r ∈ rows :=
  (List.pwFilter_sublist rows).mem hMem

theorem tieClasses_pairwise
    (cmp : α → α → Ordering)
    (rows : List α) :
    (tieClasses cmp rows).Pairwise fun r s => cmp r s ≠ .eq :=
  List.pairwise_pwFilter rows

variable [TransCmp cmp]

/- Every row ties with the one that stands for its class. -/
theorem exists_mem_tieClasses
    (cmp : α → α → Ordering)
    [TransCmp cmp]
    (hMem : r ∈ rows) :
    ∃ s ∈ tieClasses cmp rows, cmp r s = .eq := by
  by_contra hNone
  push Not at hNone
  have hSplit {x y z : α} (hDiffer : cmp x z ≠ .eq) :
      cmp x y ≠ .eq ∨ cmp y z ≠ .eq := by
    by_contra hBoth
    push Not at hBoth
    exact hDiffer (TransCmp.eq_trans hBoth.1 hBoth.2)
  have hAll :=
    (List.forall_mem_pwFilter (R := fun r s => cmp r s ≠ .eq)
      hSplit r rows).mp hNone
  exact hAll r hMem Std.ReflCmp.compare_self

/- Of two rows in one class only one stands for it. -/
theorem eq_of_mem_tieClasses
    (hr : r ∈ tieClasses cmp rows)
    (hs : s ∈ tieClasses cmp rows)
    (hTie : cmp r s = .eq) :
    r = s :=
  eq_of_pairwise_of_tie (tieClasses_pairwise cmp rows) hr hs hTie

theorem nodup_tieClasses
    (cmp : α → α → Ordering)
    [TransCmp cmp]
    (rows : List α) :
    (tieClasses cmp rows).Nodup := by
  apply (tieClasses_pairwise cmp rows).imp
  rintro r _ hTies rfl
  exact hTies Std.ReflCmp.compare_self

------------------------------------------------------------
-- Ranks
------------------------------------------------------------

theorem denseRank_congr
    (rows : List α)
    (hTie : cmp r s = .eq) :
    denseRank cmp rows r = denseRank cmp rows s := by
  unfold denseRank
  simp only [TransCmp.congr_right hTie]

/-
  The class of a row is counted for every later row, and not
  for the row itself.
-/
theorem denseRank_lt
    (hMem : r ∈ rows)
    (hLess : cmp r s = .lt) :
    denseRank cmp rows r < denseRank cmp rows s := by
  rcases exists_mem_tieClasses cmp hMem with ⟨own, hOwn, hTie⟩
  have hSelf : cmp own r = .eq := OrientedCmp.eq_symm hTie
  have hBefore : cmp own s = .lt :=
    TransCmp.lt_of_eq_of_lt hSelf hLess
  rcases List.append_of_mem hOwn with ⟨before, after, hSplit⟩
  have hCount (xs : List α) :
      xs.countP (fun x => cmp x r == .lt) ≤
        xs.countP (fun x => cmp x s == .lt) := by
    apply List.countP_mono_left
    intro x _ hx
    rw [beq_iff_eq] at hx ⊢
    exact TransCmp.lt_trans hx hLess
  have hFirst := hCount before
  have hLast := hCount after
  simp only [denseRank, hSplit, List.countP_append,
    List.countP_cons, hSelf, hBefore, beq_self_eq_true, if_true]
  simp only [beq_iff_eq, reduceCtorEq, if_false]
  omega

/- Rows share a rank if and only if they tie. -/
theorem denseRank_eq_iff
    (hr : r ∈ rows)
    (hs : s ∈ rows) :
    denseRank cmp rows r = denseRank cmp rows s ↔ cmp r s = .eq := by
  constructor
  · intro hSame
    cases hOrder : cmp r s with
    | eq => rfl
    | lt =>
        have hLess := denseRank_lt hr hOrder
        omega
    | gt =>
        have hLess := denseRank_lt hs (OrientedCmp.lt_of_gt hOrder)
        omega
  · exact denseRank_congr rows

/- The first rank is that of the rows with none before them. -/
theorem denseRank_eq_one_iff :
    denseRank cmp rows r = 1 ↔ ∀ s ∈ rows, cmp s r ≠ .lt := by
  rw [denseRank, Nat.add_eq_right, List.countP_eq_zero]
  constructor
  · intro hNone s hMem hLess
    rcases exists_mem_tieClasses cmp hMem with ⟨own, hOwn, hTie⟩
    apply hNone own hOwn
    rw [beq_iff_eq]
    exact TransCmp.lt_of_eq_of_lt (OrientedCmp.eq_symm hTie) hLess
  · intro hLeast s hMem hLess
    exact hLeast s (mem_of_mem_tieClasses hMem) (beq_iff_eq.mp hLess)

/- There are no more ranks than places. -/
theorem denseRank_le
    (hMem : r ∈ rows) :
    denseRank cmp rows r ≤ (tieClasses cmp rows).length := by
  rcases exists_mem_tieClasses cmp hMem with ⟨own, hOwn, hTie⟩
  unfold denseRank
  apply Nat.succ_le_of_lt
  apply Nat.lt_of_le_of_ne List.countP_le_length
  intro hAll
  have hLess := List.countP_eq_length.mp hAll own hOwn
  rw [OrientedCmp.eq_symm hTie] at hLess
  cases hLess

theorem length_tieClasses_le
    (cmp : α → α → Ordering)
    (rows : List α) :
    (tieClasses cmp rows).length ≤ rows.length :=
  (List.pwFilter_sublist rows).length_le

/- The ranks are consecutive, and every class has its own. -/
theorem map_denseRank_perm
    (cmp : α → α → Ordering)
    [TransCmp cmp]
    (rows : List α) :
    ((tieClasses cmp rows).map (denseRank cmp rows)).Perm
      (List.range' 1 (tieClasses cmp rows).length) := by
  have hNodup :
      ((tieClasses cmp rows).map (denseRank cmp rows)).Nodup := by
    apply List.Nodup.map_on _ (nodup_tieClasses cmp rows)
    intro r hr s hs hSame
    apply eq_of_mem_tieClasses hr hs
    exact (denseRank_eq_iff (mem_of_mem_tieClasses hr)
      (mem_of_mem_tieClasses hs)).mp hSame
  apply (List.subperm_of_subset hNodup _).perm_of_length_le
  · rw [List.length_map, List.length_range']
  · intro k hk
    rcases List.mem_map.mp hk with ⟨r, hr, rfl⟩
    have hBound : denseRank cmp rows r ≤ _ :=
      denseRank_le (mem_of_mem_tieClasses hr)
    rw [List.mem_range'_1]
    unfold denseRank at hBound ⊢
    omega

/- If there are rows, one of them is in the first place. -/
theorem exists_denseRank_eq_one
    (cmp : α → α → Ordering)
    [TransCmp cmp]
    (hRows : rows ≠ []) :
    ∃ r ∈ rows, denseRank cmp rows r = 1 := by
  rcases List.exists_mem_of_ne_nil rows hRows with ⟨s, hs⟩
  rcases exists_mem_tieClasses cmp hs with ⟨own, hOwn, _⟩
  have hFirst :
      1 ∈ (tieClasses cmp rows).map (denseRank cmp rows) := by
    rw [(map_denseRank_perm cmp rows).mem_iff, List.mem_range'_1]
    have hSome := List.length_pos_of_mem hOwn
    omega
  rcases List.mem_map.mp hFirst with ⟨r, hr, hRank⟩
  exact ⟨r, mem_of_mem_tieClasses hr, hRank⟩

end rank

end EntitySql
