import EntitySql.Proofs.Predicate.ParameterNames
import EntitySql.Proofs.Predicate.Tests
import EntitySql.Proofs.Statement.Places
import EntitySql.Statement.Request

/-
  What a request supplies: the values for the places of its
  command, each with the column that it is for.

  Key definitions include:
    * `Predicate.supplied`, `Request.supplied`
    * `Cell.FilledBy`
    * `ParameterSet.Fills`

  Key theorems include:
    * `ParameterSet.Fills.trans`
    * `ParameterSet.fills_bind`, `ParameterSet.fills_bindList`
    * `ParameterSet.fills_mapM`
    * `Scope.compile_fills`
-/

namespace EntitySql

------------------------------------------------------------
-- Values of predicates
------------------------------------------------------------

namespace Settled

/- The constant beside a column, unless it is NULL. -/
def comparisonSupplied : Settled → Settled → List (String × Value)
  | .column c, .value v | .value v, .column c =>
      if v.isNull then [] else [(c.column, v)]
  | _, _ => []

/- The elements of the list that a column is looked up in. -/
def membershipSupplied : Settled → Settled → List (String × Value)
  | .column c, values =>
      ((Scope.listed? values).getD []).map fun v => (c.column, v)
  | _, _ => []

/- The pattern that a column is matched with. -/
def patternSupplied
    (kind : PatternKind) :
    Settled → Settled → List (String × Value)
  | .column c, .value (.text text) =>
      [(c.column, .text (kind.likePattern text))]
  | _, _ => []

end Settled

/- The values of a predicate's tests, from left to right. -/
def Predicate.supplied : Predicate → List (String × Value)
  | .comparison left _ right =>
      left.settled.comparisonSupplied right.settled
  | .membership column values =>
      column.settled.membershipSupplied values.settled
  | .pattern column kind value =>
      column.settled.patternSupplied kind value.settled
  | .and left right | .or left right =>
      left.supplied ++ right.supplied
  | .not inner => inner.supplied
  | .literal _ => []

------------------------------------------------------------
-- Values of requests
------------------------------------------------------------

namespace Record

/- The fields other than the identity, in property order. -/
def suppliedFields
    (r : Record) : List (String × Value) :=
  ((r.type.columns.zipIdx).filter fun (_, i) =>
      r.type.identityIndex? != some i).map
    fun (column, i) => (column, r.value i)

/- The identity. -/
def suppliedKey
    (r : Record) : List (String × Value) :=
  r.type.identityIndex?.toList.map fun i =>
    (r.type.columns.getD i "", r.value i)

end Record

/- The values of the joins come before those of the filters. -/
def Query.supplied
    (q : Query) : List (String × Value) :=
  (q.joins.flatMap fun j =>
      j.condition.toList.flatMap Predicate.supplied) ++
    q.filters.flatMap Predicate.supplied

/-
  The values that a request supplies, in the order in which
  its command needs them. A query that is also counted needs
  its values twice.
-/
def Request.supplied : Request → List (String × Value)
  | .insert r => r.suppliedFields
  | .update r => r.suppliedFields ++ r.suppliedKey
  | .updateWhere _ patch p => patch.assignments ++ p.supplied
  | .delete r => r.suppliedKey
  | .deleteWhere _ p => p.supplied
  | .selectByKey e key =>
      if key.isNull then []
      else e.identityIndex?.toList.map fun i =>
        (e.columns.getD i "", key)
  | .select q => q.supplied
  | .count q => q.supplied
  | .selectWithCount q => q.supplied ++ q.supplied

------------------------------------------------------------
-- Filled places
------------------------------------------------------------

/-
  The place takes a value for the column it belongs to: its
  parameter holds that value, or one that equals it.
-/
def Cell.FilledBy
    (params : List Parameter)
    (place : Cell)
    (supply : String × Value) : Prop :=
  place.column = supply.1 ∧
    ∃ p ∈ params, p.name = place.parameter ∧
      (p.value = supply.2 ∨ p.value.equal supply.2 = true)

theorem Cell.FilledBy.mono
    {params params' : List Parameter}
    {place : Cell}
    {supply : String × Value}
    (hFilled : place.FilledBy params supply)
    (hKeeps : ∀ p ∈ params, p ∈ params') :
    place.FilledBy params' supply := by
  rcases hFilled with ⟨hColumn, p, hMem, hName, hValue⟩
  exact ⟨hColumn, p, hKeeps p hMem, hName, hValue⟩

namespace ParameterSet

/-
  From one parameter set to a later one places were filled
  with values, in order. Nothing was lost on the way, and what
  is new stands at one of the places.
-/
structure Fills
    (s t : ParameterSet)
    (places : List Cell)
    (supplies : List (String × Value)) : Prop where
  keeps : ∀ p ∈ s.params, p ∈ t.params
  distinct : s.names.Nodup → t.names.Nodup
  filled : List.Forall₂ (Cell.FilledBy t.params) places supplies
  placed :
    ∀ p ∈ t.params,
      p ∈ s.params ∨ p.name ∈ places.map Cell.parameter

namespace Fills

variable {s t u : ParameterSet}
variable {places places' : List Cell}
variable {supplies supplies' : List (String × Value)}

theorem refl
    (s : ParameterSet) :
    Fills s s [] [] :=
  ⟨fun _ hMem => hMem, fun hNodup => hNodup, .nil,
    fun _ hMem => Or.inl hMem⟩

theorem trans
    (hFirst : Fills s t places supplies)
    (hNext : Fills t u places' supplies') :
    Fills s u (places ++ places') (supplies ++ supplies') := by
  constructor
  case keeps =>
    exact fun p hMem => hNext.keeps p (hFirst.keeps p hMem)
  case distinct =>
    exact fun hNodup => hNext.distinct (hFirst.distinct hNodup)
  case filled =>
    apply List.rel_append
    · exact hFirst.filled.imp fun _ _ hFilled =>
        hFilled.mono hNext.keeps
    · exact hNext.filled
  case placed =>
    intro p hMem
    rw [List.map_append, List.mem_append]
    rcases hNext.placed p hMem with hOld | hNew
    · rcases hFirst.placed p hOld with hOlder | hPlaced
      · exact Or.inl hOlder
      · exact Or.inr (Or.inl hPlaced)
    · exact Or.inr (Or.inr hNew)

/- The same values fill the same places a second time. -/
theorem twice
    (hFills : Fills s t places supplies) :
    Fills s t (places ++ places) (supplies ++ supplies) := by
  constructor
  case keeps => exact hFills.keeps
  case distinct => exact hFills.distinct
  case filled => exact List.rel_append hFills.filled hFills.filled
  case placed =>
    intro p hMem
    rw [List.map_append, List.mem_append]
    rcases hFills.placed p hMem with hOld | hPlaced
    · exact Or.inl hOld
    · exact Or.inr (Or.inl hPlaced)

/- Only names of parameters stand at filled places. -/
theorem mem_names
    {name : String}
    (hFills : Fills s t places supplies)
    (hPlaced : name ∈ places.map Cell.parameter) :
    name ∈ t.names := by
  have hFilled := hFills.filled
  clear hFills
  induction hFilled with
  | nil => cases hPlaced
  | cons hFirst _ ih =>
      rcases List.mem_cons.mp hPlaced with rfl | hRest
      · rcases hFirst with ⟨_, p, hMem, hName, _⟩
        rw [← hName]
        exact List.mem_map_of_mem hMem
      · exact ih hRest

end Fills

------------------------------------------------------------
-- Binding
------------------------------------------------------------

/- Binding a value fills one place. -/
theorem fills_bind
    (s : ParameterSet)
    (base : String)
    (v : Value) :
    Fills s (s.bind base v).2 [⟨base, (s.bind base v).1⟩]
      [(base, v)] := by
  rcases s.bind_cases base v with
    ⟨p, hMem, hEqual, hBind⟩ | ⟨name, hFresh, hBind⟩
  · rw [hBind]
    constructor
    case keeps => exact fun _ hMem => hMem
    case distinct => exact fun hNodup => hNodup
    case filled =>
      exact .cons ⟨rfl, p, hMem, rfl, Or.inr hEqual⟩ .nil
    case placed => exact fun _ hMem => Or.inl hMem
  · rw [hBind]
    constructor
    case keeps =>
      exact fun p hMem => List.mem_append_left _ hMem
    case distinct =>
      exact fun hNodup => nodup_push hNodup hFresh
    case filled =>
      refine .cons ⟨rfl, ⟨name, v⟩, ?_, rfl, Or.inl rfl⟩ .nil
      exact List.mem_append_right _ (List.mem_singleton_self _)
    case placed =>
      intro p hMem
      rcases List.mem_append.mp hMem with hOld | hNew
      · exact Or.inl hOld
      · rw [List.mem_singleton.mp hNew]
        exact Or.inr (List.mem_singleton_self _)

/- Binding a list fills a place for each of its elements. -/
theorem fills_bindList
    (s : ParameterSet)
    (base : String)
    (vs : List Value) :
    Fills s (s.bindList base vs).2
      ((s.bindList base vs).1.map fun p => ⟨base, p.name⟩)
      (vs.map fun v => (base, v)) := by
  have hParams := bindList_params s base vs
  have hValues := bindList_values s base vs
  have hDistinct := bindList_nodup s base vs
  rcases hBind : s.bindList base vs with ⟨bound, t⟩
  rw [hBind] at hParams hValues hDistinct
  have hBound : ∀ p ∈ bound, p ∈ t.params := by
    intro p hMem
    rw [hParams]
    exact List.mem_append_right _ hMem
  constructor
  case keeps =>
    intro p hMem
    rw [hParams]
    exact List.mem_append_left _ hMem
  case distinct => exact hDistinct
  case filled =>
    rw [← hValues, List.map_map, List.forall₂_map_left_iff,
      List.forall₂_map_right_iff, List.forall₂_same]
    intro p hMem
    exact ⟨rfl, p, hBound p hMem, rfl, Or.inl rfl⟩
  case placed =>
    intro p hMem
    rw [hParams] at hMem
    rcases List.mem_append.mp hMem with hOld | hNew
    · exact Or.inl hOld
    · rw [List.map_map]
      exact Or.inr (List.mem_map_of_mem hNew)

/- Steps that each fill their places fill all of them in turn. -/
theorem fills_mapM
    {α β : Type}
    {f : α → Binding β}
    (places : β → List Cell)
    (supplies : α → List (String × Value))
    (hStep : ∀ {x s y t},
      (f x).Yields s y t → Fills s t (places y) (supplies x))
    {xs : List α}
    {ys : List β}
    {s t : ParameterSet}
    (hYields : (xs.mapM f).Yields s ys t) :
    Fills s t (ys.flatMap places) (xs.flatMap supplies) := by
  induction xs generalizing s ys with
  | nil =>
      simp only [List.mapM_nil, Binding.yields_pure_iff] at hYields
      rcases hYields with ⟨rfl, rfl⟩
      exact .refl s
  | cons x xs ih =>
      simp only [List.mapM_cons, Binding.yields_bind_iff,
        Binding.yields_pure_iff] at hYields
      rcases hYields with ⟨y, u, hFirst, ys, _, hRest, rfl, rfl⟩
      exact (hStep hFirst).trans (ih hRest)

end ParameterSet

------------------------------------------------------------
-- Tests
------------------------------------------------------------

namespace Scope

open ParameterSet

variable {scope : Scope}
variable {s t : ParameterSet}
variable {fragment : Fragment}
variable {negated : Bool}

/- A resolved column still has the name of the reference. -/
theorem column_column
    {c : ColumnRef}
    {e : ColumnExpr}
    (hColumn : scope.column c = .ok e) :
    e.column = c.column := by
  cases scope with
  | table entity =>
      simp only [column] at hColumn
      split at hColumn
      · cases hColumn
        rfl
      · cases hColumn
  | aliased aliases =>
      simp only [column] at hColumn
      cases hAlias : aliases.resolve c.entity c.occurrence with
      | ok a =>
          rw [hAlias] at hColumn
          cases hColumn
          rfl
      | error e =>
          rw [hAlias] at hColumn
          cases hColumn

theorem valueCondition_fills
    {c : ColumnRef}
    {op : CompareOp}
    {v : Value}
    (hYields :
      (scope.valueCondition c op v negated).Yields s fragment t) :
    Fills s t fragment.places
      (if v.isNull then [] else [(c.column, v)]) := by
  rcases valueCondition_cases hYields with
    ⟨e, hColumn,
      ⟨rfl, _, rfl, rfl⟩ | ⟨rfl, _, rfl, rfl⟩ | ⟨hNull, rfl, rfl⟩⟩
  · exact .refl _
  · exact .refl _
  · simp only [Fragment.places, Condition.places,
      column_column hColumn, hNull]
    exact fills_bind s c.column v

theorem comparison_fills
    {left right : Settled}
    {op : CompareOp}
    (hYields :
      (scope.comparison left op right negated).Yields
        s fragment t) :
    Fills s t fragment.places
      (left.comparisonSupplied right) := by
  cases left with
  | list vs => exact absurd hYields comparison_list_left
  | column l =>
      cases right with
      | list vs => exact absurd hYields comparison_list_right
      | value v => exact valueCondition_fills hYields
      | column r =>
          rcases columnComparison_cases hYields with
            ⟨e, other, _, _, rfl, rfl⟩
          exact .refl _
  | value v =>
      cases right with
      | list vs => exact absurd hYields comparison_list_right
      | column r => exact valueCondition_fills hYields
      | value w =>
          rcases valueComparison_cases hYields with
            ⟨holds, _, rfl, rfl⟩
          exact .refl _

theorem membership_fills
    {column values : Settled}
    (hYields :
      (scope.membership column values negated).Yields
        s fragment t) :
    Fills s t fragment.places
      (column.membershipSupplied values) := by
  rcases membership_cases hYields with
    ⟨vs, hListed,
      ⟨c, rfl, rfl, rfl, rfl⟩ | ⟨c, e, rfl, _, hColumn, rfl, rfl⟩ |
        ⟨v, rfl, rfl, rfl⟩⟩
  · simp only [Settled.membershipSupplied, hListed]
    exact .refl _
  · simp only [Settled.membershipSupplied, hListed,
      Fragment.places, Condition.places, column_column hColumn]
    exact fills_bindList s c.column vs
  · exact .refl _

theorem pattern_fills
    {column value : Settled}
    {kind : PatternKind}
    (hYields :
      (scope.pattern column kind value negated).Yields
        s fragment t) :
    Fills s t fragment.places
      (column.patternSupplied kind value) := by
  rcases pattern_cases hYields with
    ⟨text, rfl,
      ⟨c, e, rfl, hColumn, rfl, rfl⟩ | ⟨subject, rfl, rfl, rfl⟩⟩
  · simp only [Settled.patternSupplied, Fragment.places,
      Condition.places, column_column hColumn]
    exact fills_bind s c.column _
  · exact .refl _

------------------------------------------------------------
-- Predicates
------------------------------------------------------------

theorem places_combine
    (c : Combinator)
    (left right : List Fragment) :
    (combine c left right).flatMap Fragment.places =
      left.flatMap Fragment.places ++
        right.flatMap Fragment.places := by
  simp [combine, Fragment.places]

/- Negations bind nothing and move no test. -/
theorem fragments_fills
    {p : Predicate}
    {fs : List Fragment}
    (hYields : (scope.fragments negated p).Yields s fs t) :
    Fills s t (fs.flatMap Fragment.places) p.supplied := by
  induction p generalizing negated s fs t with
  | literal value =>
      simp only [fragments, Binding.yields_pure_iff] at hYields
      rcases hYields with ⟨rfl, rfl⟩
      exact .refl s
  | not inner ih => exact ih hYields
  | and left right ihLeft ihRight
  | or left right ihLeft ihRight =>
      simp only [fragments, Binding.yields_bind_iff,
        Binding.yields_pure_iff] at hYields
      rcases hYields with ⟨l, u, hLeft, r, _, hRight, rfl, rfl⟩
      rw [places_combine]
      exact (ihLeft hLeft).trans (ihRight hRight)
  | comparison left op right =>
      simp only [fragments, Binding.yields_bind_iff,
        Binding.yields_pure_iff] at hYields
      rcases hYields with ⟨fragment, _, hTest, rfl, rfl⟩
      rw [List.flatMap_singleton]
      exact comparison_fills hTest
  | membership column values =>
      simp only [fragments, Binding.yields_bind_iff,
        Binding.yields_pure_iff] at hYields
      rcases hYields with ⟨fragment, _, hTest, rfl, rfl⟩
      rw [List.flatMap_singleton]
      exact membership_fills hTest
  | pattern column kind value =>
      simp only [fragments, Binding.yields_bind_iff,
        Binding.yields_pure_iff] at hYields
      rcases hYields with ⟨fragment, _, hTest, rfl, rfl⟩
      rw [List.flatMap_singleton]
      exact pattern_fills hTest

theorem compile_fills
    {p : Predicate}
    {compiled : CompiledPredicate}
    (hYields : (scope.compile p).Yields s compiled t) :
    Fills s t compiled.places p.supplied := by
  simp only [compile, Binding.yields_bind_iff,
    Binding.yields_pure_iff] at hYields
  rcases hYields with ⟨fs, _, hFragments, rfl, rfl⟩
  exact fragments_fills hFragments

theorem compileList_fills
    {ps : List Predicate}
    {compiled : List CompiledPredicate}
    (hYields : (scope.compileList ps).Yields s compiled t) :
    Fills s t (compiled.flatMap CompiledPredicate.places)
      (ps.flatMap Predicate.supplied) :=
  fills_mapM _ _ compile_fills hYields

end Scope

end EntitySql
