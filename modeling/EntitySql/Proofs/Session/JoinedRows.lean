import EntitySql.Proofs.Session.SelectAnswers
import EntitySql.Proofs.Session.StoredRows

/-
  This file says what rows the joined tables of a plan have,
  and which of them have a row of the first table.

  Key definitions include:
    * `Database`, `Database.rowsOf`, `Database.view`
    * `JoinClause.joined`
    * `SelectRow.RootIn`, `SelectRow.Rootless`

  Key theorems include:
    * `JoinClause.mem_joined`
    * `Database.root_of_mem_rowsOf`

  A join keeps the root of every row that it extends. Only
  right and full joins add rows of their own, without a root.
-/

namespace EntitySql

------------------------------------------------------------
-- Joins
------------------------------------------------------------

namespace SelectRow

/- The row of no table. -/
def blank : SelectRow :=
  fun _ => .null

/- A row extended by a stored row under an alias. -/
def beside
    (r : SelectRow)
    (a : TableAlias)
    (stored : StoredRow) : SelectRow
  | .qualified b column =>
      if b = a then stored column else r (.qualified b column)
  | other => r other

/- A row of one table that stands alone. -/
def ofStored
    (stored : StoredRow) : SelectRow
  | .bare column => stored column
  | _ => .null

/- The root of a row is one of the stored rows. -/
def RootIn
    (stored : List StoredRow)
    (r : SelectRow) : Prop :=
  ∃ s ∈ stored, ∀ column, r (.ofRoot column) = s column

/- All columns of the root are NULL on a row. -/
def Rootless
    (r : SelectRow) : Prop :=
  ∀ column, r (.ofRoot column) = .null

theorem beside_qualified
    (r : SelectRow)
    (a : TableAlias)
    (stored : StoredRow)
    (column : String) :
    r.beside a stored (.qualified a column) = stored column :=
  if_pos rfl

theorem beside_ofRoot
    {a : TableAlias}
    (hAlias : a ≠ .root)
    (r : SelectRow)
    (stored : StoredRow)
    (column : String) :
    r.beside a stored (.ofRoot column) = r (.ofRoot column) :=
  if_neg (Ne.symm hAlias)

end SelectRow

namespace JoinClause

/-
  The rows of some tables joined with a further one. Matching
  rows are put side by side. By the kind of the join, rows
  without a match stay alone on the left, on the right, or on
  both sides.
-/
def joined
    (clause : JoinClause)
    (isMatch : SelectRow → Bool)
    (stored : List StoredRow)
    (rows : List SelectRow) : List SelectRow :=
  let extended r := stored.map fun s => r.beside clause.tableAlias s
  let pairs := rows.flatMap fun r => (extended r).filter isMatch
  let left := rows.filter fun r => !(extended r).any isMatch
  let right :=
    (stored.filter fun s =>
      !rows.any fun r => isMatch (r.beside clause.tableAlias s)).map
        fun s => SelectRow.blank.beside clause.tableAlias s
  match clause.kind with
  | .inner => pairs
  | .left => pairs ++ left
  | .right => pairs ++ right
  | .full => pairs ++ left ++ right

/- A row extends an earlier one, or a kind of join added it. -/
theorem mem_joined
    {clause : JoinClause}
    {isMatch : SelectRow → Bool}
    {stored : List StoredRow}
    {rows : List SelectRow}
    {r : SelectRow}
    (hAlias : clause.tableAlias ≠ .root)
    (hMem : r ∈ clause.joined isMatch stored rows) :
    (∃ earlier ∈ rows,
      ∀ column, r (.ofRoot column) = earlier (.ofRoot column)) ∨
    ((clause.kind = .right ∨ clause.kind = .full) ∧ r.Rootless) := by
  have hPair
      (hPair :
        r ∈ rows.flatMap fun r =>
          (stored.map fun s => r.beside clause.tableAlias s).filter
            isMatch) :
      ∃ earlier ∈ rows,
        ∀ column, r (.ofRoot column) = earlier (.ofRoot column) := by
    rcases List.mem_flatMap.mp hPair with ⟨earlier, hEarlier, hIn⟩
    rcases List.mem_map.mp (List.mem_of_mem_filter hIn) with
      ⟨s, _, rfl⟩
    exact ⟨earlier, hEarlier, earlier.beside_ofRoot hAlias s⟩
  have hLeft {keep : SelectRow → Bool}
      (hLeft : r ∈ rows.filter keep) :
      ∃ earlier ∈ rows,
        ∀ column, r (.ofRoot column) = earlier (.ofRoot column) :=
    ⟨r, List.mem_of_mem_filter hLeft, fun _ => rfl⟩
  have hRight {keep : StoredRow → Bool}
      (hRight :
        r ∈ (stored.filter keep).map fun s =>
          SelectRow.blank.beside clause.tableAlias s) :
      r.Rootless := by
    rcases List.mem_map.mp hRight with ⟨s, _, rfl⟩
    exact SelectRow.blank.beside_ofRoot hAlias s
  unfold joined at hMem
  cases hKind : clause.kind
  all_goals
    simp only [hKind, List.mem_append] at hMem
  case inner => exact .inl (hPair hMem)
  case left => exact .inl (hMem.elim hPair hLeft)
  case right => exact hMem.imp hPair fun h => ⟨.inl rfl, hRight h⟩
  case full =>
    exact hMem.imp (fun h => h.elim hPair hLeft)
      fun h => ⟨.inr rfl, hRight h⟩

end JoinClause

------------------------------------------------------------
-- Databases
------------------------------------------------------------

/-
  The rows of every table, and what conditions say of joined
  rows: which ones a join matches, and which pass a filter.
-/
structure Database where
  rows : TableName → List StoredRow
  isMatch : List Parameter → JoinClause → SelectRow → Bool
  passes : List Parameter → CompiledPredicate → SelectRow → Bool

namespace Database

/- The rows of the first table, under its alias if it has one. -/
def rootRows
    (db : Database)
    (plan : SelectPlan) : List SelectRow :=
  (db.rows plan.table).map fun stored =>
    match plan.ranking with
    | some ranking => SelectRow.blank.beside ranking.tableAlias stored
    | none => .ofStored stored

/- Rows joined with the tables of some clauses in order. -/
def joinAll
    (db : Database)
    (params : List Parameter)
    (clauses : List JoinClause)
    (rows : List SelectRow) : List SelectRow :=
  clauses.foldl
    (fun rows clause =>
      clause.joined (db.isMatch params clause) (db.rows clause.table)
        rows) rows

/- The rows of a plan, before they are sorted. -/
def rowsOf
    (db : Database)
    (plan : SelectPlan)
    (params : List Parameter) : List SelectRow :=
  (db.joinAll params plan.joins (db.rootRows plan)).filter fun r =>
    plan.filters.all fun p => db.passes params p r

/- What a database answers, by the tables of its world. -/
def view
    {ω : Type}
    (db : ω → Database)
    (κ : Collation) : SelectView ω where
  collation := κ
  rows plan params w := (db w).rowsOf plan params

variable {db : Database}
variable {params : List Parameter}
variable {clauses : List JoinClause}
variable {stored : List StoredRow}
variable {rows : List SelectRow}
variable {r : SelectRow}

/-
  Joined rows have their roots from the rows before, and the
  rows without a root come from right and full joins.
-/
theorem root_of_mem_joinAll
    {outer : Prop}
    (hFresh : ∀ clause ∈ clauses, clause.tableAlias ≠ .root)
    (hOuter :
      ∀ clause ∈ clauses,
        clause.kind = .right ∨ clause.kind = .full → outer)
    (hRows : ∀ r ∈ rows, r.RootIn stored ∨ outer ∧ r.Rootless)
    (hMem : r ∈ db.joinAll params clauses rows) :
    r.RootIn stored ∨ outer ∧ r.Rootless := by
  induction clauses generalizing rows with
  | nil => exact hRows r hMem
  | cons clause clauses ih =>
      rw [List.forall_mem_cons] at hFresh hOuter
      apply ih hFresh.2 hOuter.2 _ hMem
      intro r hJoined
      rcases JoinClause.mem_joined hFresh.1 hJoined with
        ⟨earlier, hEarlier, hSame⟩ | ⟨hKind, hRootless⟩
      · unfold SelectRow.RootIn SelectRow.Rootless
        simp only [hSame]
        exact hRows earlier hEarlier
      · exact .inr ⟨hOuter.1 hKind, hRootless⟩

variable {q : Query}
variable {naming : TableNaming}
variable {plan : SelectPlan}
variable {column : String}
variable {items : List OrderItem}

theorem rootIn_of_mem_rootRows
    (hPlans : q.PlansJoin naming plan column items)
    (hMem : r ∈ db.rootRows plan) :
    r.RootIn (db.rows plan.table) := by
  rcases List.mem_map.mp hMem with ⟨stored, hStored, rfl⟩
  refine ⟨stored, hStored, ?_⟩
  intro column
  rw [hPlans.ranking]
  exact SelectRow.blank.beside_qualified .root stored column

/- The same of all rows that a query joins. -/
theorem root_of_mem_rowsOf
    (hPlans : q.PlansJoin naming plan column items)
    (hMem : r ∈ db.rowsOf plan params) :
    r.RootIn (db.rows plan.table) ∨
      (∃ j ∈ q.joins, j.kind = .right ∨ j.kind = .full) ∧
        r.Rootless := by
  apply root_of_mem_joinAll hPlans.fresh _ _
    (List.mem_of_mem_filter hMem)
  · intro clause hClause hKind
    have hKinds : clause.kind ∈ q.joins.map Join.kind := by
      rw [← hPlans.kinds]
      exact List.mem_map_of_mem hClause
    rcases List.mem_map.mp hKinds with ⟨j, hJoin, hSame⟩
    rw [← hSame] at hKind
    exact ⟨j, hJoin, hKind⟩
  · intro r hRoot
    exact .inl (rootIn_of_mem_rootRows hPlans hRoot)

end Database

------------------------------------------------------------
-- Blogs and posts
------------------------------------------------------------

namespace BlogPosts

/- A stored row with some columns, and NULL in all others. -/
def stored
    (cells : List (String × Value)) : StoredRow :=
  fun column => (cells.lookup column).getD .null

/- Two blogs, a post of each, and a post of none. -/
def database : Database where
  rows table :=
    if table.name = "blogs" then
      [ stored [("id", .int 1), ("rating", .int 5)],
        stored [("id", .int 2), ("rating", .int 5)] ]
    else
      [ stored [("id", .int 10), ("blog_id", .int 1)],
        stored [("id", .int 20), ("blog_id", .int 2)],
        stored [("id", .int 30)] ]
  isMatch _ clause r :=
    (r clause.source).equalTruth (r clause.dest) == .holds
  passes _ _ _ := true

/- The row of a blog, alone or with a post. -/
def blogRow
    (id : Int64) : SelectRow :=
  SelectRow.blank.beside ⟨1⟩
    (stored [("id", .int id), ("rating", .int 5)])

def pairRow
    (id post : Int64) : SelectRow :=
  (blogRow id).beside ⟨2⟩
    (stored [("id", .int post), ("blog_id", .int id)])

/- A database that answers selects in some way. -/
def answering
    (answer : Statement → List ResultSet) : Provider Unit Unit where
  openConnection := pure ()
  call _ c s :=
    match c with
    | .scalar => pure .null
    | .nonQuery => pure 0
    | .reader => pure (answer s)
  control _ _ := pure ()
  close _ w := w

end BlogPosts

end EntitySql
