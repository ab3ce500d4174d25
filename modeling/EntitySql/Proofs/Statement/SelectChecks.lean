import EntitySql.Proofs.Predicate.Checks
import EntitySql.Proofs.Statement.RootOrder

/-
  The checks of a select over several tables, in the order in
  which planning makes them, and the error of the first one
  that does not hold.

  Key definitions include:
    * `Query.tableKeys`
    * `Join.checks`, `Query.checks`
    * `Query.Names`

  Key theorems include:
    * `joinClauses_ends`
    * `Query.select_ends`
    * `Query.Names.mem_checks`

  A join is planned among the tables up to its own, a filter or
  an order among all of them.
-/

namespace EntitySql

open Binding

------------------------------------------------------------
-- Checks of lists
------------------------------------------------------------

namespace Check

variable {α β : Type}

/- Elements are checked one after the other. -/
theorem ends_mapM
    {f : α → Binding β}
    {checks : α → List Check}
    (hEach : ∀ x, (f x).Ends (firstFault (checks x)))
    (xs : List α) :
    (xs.mapM f).Ends (firstFault (xs.flatMap checks)) := by
  induction xs with
  | nil => exact .pure _
  | cons x xs ih =>
      rw [List.mapM_cons, List.flatMap_cons, firstFault_append]
      exact (hEach x).bind fun _ => ih.last fun _ => .pure _

theorem faultOf_mapM
    {f : α → Except MappingError β}
    {check : α → Check}
    (hEach : ∀ x, faultOf (f x) = (check x).fault)
    (xs : List α) :
    faultOf (xs.mapM f) = firstFault (xs.map check) := by
  induction xs with
  | nil => rfl
  | cons x xs ih =>
      rw [List.mapM_cons, List.map_cons, firstFault_cons, ← hEach x,
        ← ih]
      cases f x with
      | error cause => rfl
      | ok y => cases xs.mapM f <;> rfl

/- With a check that does not hold it or an earlier one fails. -/
theorem exists_firstFault_append
    {check : Check}
    {cause : MappingError}
    (before after : List Check)
    (hFault : check.fault = some cause) :
    ∃ first,
      firstFault (before ++ check :: after) = some first ∧
      (first = cause ∨
        ∃ earlier ∈ before, earlier.fault = some first) := by
  rw [firstFault_append, firstFault_cons, hFault, Option.some_or]
  cases hBefore : firstFault before with
  | none => exact ⟨cause, rfl, .inl rfl⟩
  | some first =>
      exact ⟨first, rfl,
        .inr (List.exists_of_findSome?_eq_some hBefore)⟩

end Check

------------------------------------------------------------
-- Checks of joins
------------------------------------------------------------

namespace Join

/- The table that a join starts from, if it is named. -/
def sourceChecks
    (j : Join)
    (tables : List EntityKey) : List Check :=
  match j.source with
  | .nth entity n => [.occurrence tables entity n]
  | _ => []

/- The predicate of a join, among some tables. -/
def conditionChecks
    (j : Join)
    (tables : List EntityKey) : List Check :=
  match j.condition with
  | some p => p.checks tables
  | none => []

/- A join is checked behind some tables. -/
def checks
    (j : Join)
    (tables : List EntityKey) : List Check :=
  j.sourceChecks tables ++
    j.conditionChecks (tables ++ [j.target.key])

end Join

def joinChecks : List EntityKey → List Join → List Check
  | _, [] => []
  | tables, j :: js =>
      j.checks tables ++ joinChecks (tables ++ [j.target.key]) js

namespace Join

theorem faultOf_sourceAlias
    (j : Join)
    (tables : List EntityKey) :
    faultOf (j.sourceAlias ⟨tables⟩) =
      Check.firstFault (j.sourceChecks tables) := by
  unfold sourceAlias sourceChecks
  cases j.source with
  | previous => rfl
  | root => rfl
  | nth entity n =>
      dsimp only
      rw [Scope.faultOf_resolve, Check.firstFault_cons,
        Check.firstFault_nil, Option.or_none, Option.getD_some]

theorem clause_ends
    (j : Join)
    (naming : TableNaming)
    (tables : List EntityKey) :
    (j.clause naming ⟨tables⟩).Ends
      (Check.firstFault (j.checks tables)) := by
  rw [checks, Check.firstFault_append, ← faultOf_sourceAlias]
  refine .bind (.liftM _) fun source => ?_
  unfold conditionChecks
  cases j.condition with
  | none => exact .pure _
  | some p =>
      simp only [map_eq_pure_bind]
      refine .last ?_ fun _ => .pure _
      exact .last (Scope.compile_ends _ p) fun _ => .pure _

end Join

/-
  Joins are checked one after the other, each behind the
  tables of those before it.
-/
theorem joinClauses_ends
    (naming : TableNaming)
    (tables : List EntityKey)
    (joins : List Join) :
    (joinClauses naming ⟨tables⟩ joins).Ends
      (Check.firstFault (joinChecks tables joins)) := by
  induction joins generalizing tables with
  | nil => exact .pure _
  | cons j joins ih =>
      rw [joinChecks, Check.firstFault_append]
      refine .bind_of_yields (j.clause_ends naming tables) ?_
      rintro s ⟨clause, aliases⟩ t hYields
      have hTables : aliases = ⟨tables ++ [j.target.key]⟩ :=
        congrArg AliasMap.mk (Join.clause_spec hYields).2.2
      rw [hTables]
      exact .last (ih _) fun _ => .pure _

------------------------------------------------------------
-- Checks of selects
------------------------------------------------------------

namespace Query

/- The entity types of the tables, the root first. -/
def tableKeys
    (q : Query) : List EntityKey :=
  q.root.key :: q.joins.map fun j => j.target.key

/-
  The checks of a select over several tables: its page, the key
  of its root, its joins, its filters and its order.
-/
def checks
    (q : Query) : List Check :=
  [.form (faultOf q.checkedPage),
      .form (faultOf q.root.identityColumn)] ++
    joinChecks [q.root.key] q.joins ++
    q.filters.flatMap (Predicate.checks q.tableKeys) ++
    q.ordering.map fun o => o.column.check q.tableKeys

theorem orderItems_ends
    (tables : List EntityKey)
    (ordering : List OrderBy) :
    Ends
      (MonadLiftT.monadLift
        ((Scope.aliased ⟨tables⟩).orderItems ordering))
      (Check.firstFault
        (ordering.map fun o => o.column.check tables)) := by
  have hItem (o : OrderBy) :
      faultOf (do
        let column ← (Scope.aliased ⟨tables⟩).column o.column
        pure (⟨column, o.direction⟩ : OrderItem)) =
        (o.column.check tables).fault := by
    rw [← Scope.faultOf_column]
    cases (Scope.aliased ⟨tables⟩).column o.column <;> rfl
  rw [← Check.faultOf_mapM hItem]
  exact .liftM _

/-
  A select over several tables fails with the error of its
  first check that does not hold, or succeeds.
-/
theorem select_ends
    {q : Query}
    (hJoined : q.isJoined = true)
    (naming : TableNaming) :
    ((Request.select q).command naming).Ends
      (Check.firstFault q.checks) := by
  simp only [checks, Check.firstFault_append, Check.firstFault_cons,
    Check.firstFault_nil, Check.fault_form, Option.or_none,
    Option.or_assoc]
  refine .bind (.liftM _) fun page => ?_
  refine .last ?_ fun _ => .pure _
  rw [plan, if_pos hJoined]
  refine .bind (.liftM _) fun key => ?_
  refine .bind_of_yields (joinClauses_ends naming _ q.joins) ?_
  rintro s ⟨clauses, aliases⟩ t hYields
  have hTables : aliases = ⟨q.tableKeys⟩ :=
    congrArg AliasMap.mk (joinClauses_spec hYields).2.2
  rw [hTables]
  exact .bind (Check.ends_mapM (Scope.compile_ends _) _) fun _ =>
    .last (orderItems_ends _ _) fun _ => .pure _

/- The statement is refused with the error of the first check. -/
theorem faultOf_select
    {q : Query}
    (hJoined : q.isJoined = true)
    (naming : TableNaming)
    (d : Dialect) :
    faultOf ((Request.select q).statement naming d) =
      Check.firstFault q.checks := by
  rw [← select_ends hJoined naming .empty, Request.statement,
    Request.draft]
  rcases ((Request.select q).command naming).run.run .empty with
    ⟨cause | command, params⟩ <;> rfl

------------------------------------------------------------
-- Where tables are named
------------------------------------------------------------

/-
  Somewhere in a query the n-th table of an entity is named,
  and these are the tables that are known there.
-/
inductive Names
    (q : Query) : List EntityKey → EntityKey → Nat → Prop
  | source
      {k : Nat} {j : Join} {entity : EntityKey} {n : Nat}
      (hJoin : q.joins[k]? = some j)
      (hSource : j.source = .nth entity n) :
      Names q (q.tableKeys.take (k + 1)) entity n
  | condition
      {k : Nat} {j : Join} {p : Predicate} {c : ColumnRef}
      (hJoin : q.joins[k]? = some j)
      (hCondition : j.condition = some p)
      (hReference : c ∈ p.references) :
      Names q (q.tableKeys.take (k + 2)) c.entity
        (c.occurrence.getD 1)
  | filter
      {p : Predicate} {c : ColumnRef}
      (hFilter : p ∈ q.filters)
      (hReference : c ∈ p.references) :
      Names q q.tableKeys c.entity (c.occurrence.getD 1)
  | order
      {o : OrderBy}
      (hOrder : o ∈ q.ordering) :
      Names q q.tableKeys o.column.entity
        (o.column.occurrence.getD 1)

end Query

/- All references of a predicate are checked. -/
theorem Predicate.check_mem_checks
    {p : Predicate}
    {c : ColumnRef}
    (hMem : c ∈ p.references)
    (tables : List EntityKey) :
    c.check tables ∈ p.checks tables := by
  induction p with
  | comparison left op right =>
      exact List.mem_append_left _
        (List.mem_append_right _ (List.mem_map_of_mem hMem))
  | membership column values =>
      exact List.mem_cons_of_mem _ (List.mem_map_of_mem hMem)
  | pattern column kind value =>
      exact List.mem_cons_of_mem _ (List.mem_map_of_mem hMem)
  | and left right ihLeft ihRight
  | or left right ihLeft ihRight =>
      rcases List.mem_append.mp hMem with hLeft | hRight
      · exact List.mem_append_left _ (ihLeft hLeft)
      · exact List.mem_append_right _ (ihRight hRight)
  | not inner ih => exact ih hMem
  | literal value => cases hMem

/-
  A join is checked behind the tables of those before it. The
  induction is on the joins while the tables before them grow.
-/
theorem mem_joinChecks
    {tables : List EntityKey}
    {joins : List Join}
    {k : Nat}
    {j : Join}
    {check : Check}
    (hJoin : joins[k]? = some j)
    (hMem :
      check ∈ j.checks
        (tables ++ (joins.take k).map fun j => j.target.key)) :
    check ∈ joinChecks tables joins := by
  induction joins generalizing tables k with
  | nil => cases hJoin
  | cons first joins ih =>
      rw [joinChecks]
      rcases k with _ | k
      · cases hJoin
        rw [List.take_zero, List.map_nil, List.append_nil] at hMem
        exact List.mem_append_left _ hMem
      · refine List.mem_append_right _ (ih hJoin ?_)
        rwa [List.append_assoc]

namespace Query

variable {q : Query}
variable {k : Nat}
variable {j : Join}

/- The checks of a join are among those of the query. -/
theorem mem_checks_of_join
    {check : Check}
    (hJoin : q.joins[k]? = some j)
    (hMem : check ∈ j.checks (q.tableKeys.take (k + 1))) :
    check ∈ q.checks := by
  refine List.mem_append_left _ (List.mem_append_left _
    (List.mem_append_right _ (mem_joinChecks hJoin ?_)))
  rwa [List.map_take]

/- Up to the table of a join there is one more. -/
theorem take_tableKeys
    (hJoin : q.joins[k]? = some j) :
    q.tableKeys.take (k + 2) =
      q.tableKeys.take (k + 1) ++ [j.target.key] := by
  rw [List.take_add_one (i := k + 1), tableKeys,
    List.getElem?_cons_succ, List.getElem?_map, hJoin]
  rfl

/- Wherever a table is named, there is a check for it. -/
theorem Names.mem_checks
    {tables : List EntityKey}
    {entity : EntityKey}
    {n : Nat}
    (hNames : q.Names tables entity n) :
    .occurrence tables entity n ∈ q.checks := by
  cases hNames with
  | source hJoin hSource =>
      apply mem_checks_of_join hJoin
      apply List.mem_append_left
      rw [Join.sourceChecks, hSource]
      exact List.mem_singleton_self _
  | condition hJoin hCondition hReference =>
      apply mem_checks_of_join hJoin
      apply List.mem_append_right
      rw [Join.conditionChecks, hCondition, ← take_tableKeys hJoin]
      exact Predicate.check_mem_checks hReference _
  | filter hFilter hReference =>
      refine List.mem_append_left _ (List.mem_append_right _ ?_)
      exact List.mem_flatMap.mpr ⟨_, hFilter,
        Predicate.check_mem_checks hReference _⟩
  | order hOrder =>
      exact List.mem_append_right _
        (List.mem_map.mpr ⟨_, hOrder, rfl⟩)

end Query

end EntitySql
