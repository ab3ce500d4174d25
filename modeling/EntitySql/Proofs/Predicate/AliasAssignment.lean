import EntitySql.Proofs.Predicate.References
import Mathlib

/-
  The aliases that a run of assignments gives, and what their
  references resolve to.

  Key definitions include:
    * `assignEach`
    * `AliasMap.assigned`
    * `AliasIndex`, `AliasIndex.assign`, `AliasIndex.resolve`
    * `AliasIndex.Agrees`

  Key theorems include:
    * `AliasMap.aliases_assign`, `AliasMap.assigned_assign`
    * `AliasMap.resolve_eq_error_iff`
    * `AliasIndex.Agrees.assign`
    * `AliasMap.assigned_aliases_resolve`

  An alias map keeps the tables in one list, and reads the
  aliases of an entity off their positions. An alias index
  keeps the aliases twice, all in one list and each with those
  of its entity, and looks them up there. The two agree after
  any assignments, since each adds the same alias at the end of
  the same lists.
-/

namespace EntitySql

/- The aliases given to some entities in turn, and the end. -/
def assignEach
    {R : Type}
    (assign : R → EntityKey → TableAlias × R) :
    R → List EntityKey → List TableAlias × R
  | r, [] => ([], r)
  | r, e :: es =>
      let (a, r) := assign r e
      let (given, r) := assignEach assign r es
      (a :: given, r)

theorem TableAlias.text_injective :
    Function.Injective TableAlias.text := by
  intro a b hText
  unfold text at hText
  rw [String.append_right_inj] at hText
  rcases a with ⟨n⟩
  rcases b with ⟨m⟩
  exact congrArg TableAlias.mk (Nat.repr_inj.mp hText)

------------------------------------------------------------
-- One list of tables
------------------------------------------------------------

namespace AliasMap

variable {m : AliasMap}
variable {e : EntityKey}
variable {a : TableAlias}

/- All aliases that were given, in order. -/
def assigned
    (m : AliasMap) : List TableAlias :=
  (List.range m.size).map .ofPosition

theorem getElem?_assigned_iff
    {i : Nat} :
    m.assigned[i]? = some a ↔ i < m.size ∧ a = .ofPosition i := by
  unfold assigned
  rw [List.getElem?_map, Option.map_eq_some_iff]
  constructor
  · rintro ⟨j, hIndex, rfl⟩
    rcases List.getElem?_eq_some_iff.mp hIndex with ⟨hLess, hEq⟩
    rw [List.length_range] at hLess
    rw [List.getElem_range] at hEq
    exact ⟨hLess, by rw [hEq]⟩
  · rintro ⟨hLess, rfl⟩
    exact ⟨i, List.getElem?_range hLess, rfl⟩

theorem texts_assigned
    (m : AliasMap) :
    m.assigned.map TableAlias.text =
      (List.range m.size).map fun i => "t" ++ toString (i + 1) := by
  rw [assigned, List.map_map]
  rfl

theorem nodup_assigned
    (m : AliasMap) :
    m.assigned.Nodup :=
  List.nodup_range.map fun _ _ => TableAlias.ofPosition_inj

theorem root?_eq_head?
    (m : AliasMap) :
    m.root? = m.assigned.head? := by
  unfold root? assigned
  rcases m.size with _ | n
  · rfl
  · rw [if_neg n.succ_ne_zero, List.range_succ_eq_map]
    rfl

theorem last?_eq_getLast?
    (m : AliasMap) :
    m.last? = m.assigned.getLast? := by
  unfold last? assigned
  rcases m.size with _ | n
  · rfl
  · rw [if_neg n.succ_ne_zero, List.range_succ, List.map_append]
    exact List.getLast?_concat.symm

/- An entity has the aliases of the positions of its tables. -/
theorem mem_aliases_iff :
    a ∈ m.aliases e ↔
      ∃ i, m.tables[i]? = some e ∧ a = .ofPosition i := by
  rw [List.mem_iff_getElem?]
  constructor
  · rintro ⟨k, hFound⟩
    rcases getElem?_aliases_iff.mp hFound with ⟨i, hOccurs, rfl⟩
    exact ⟨i, hOccurs.table, (TableAlias.ofPosition_eq i).symm⟩
  · rintro ⟨i, hTable, rfl⟩
    exact ⟨(m.tables.take i).count e,
      getElem?_aliases_iff.mpr
        ⟨i, ⟨hTable, rfl⟩, TableAlias.ofPosition_eq i⟩⟩

/- An alias belongs to the entity of its table alone. -/
theorem existsUnique_mem_aliases
    (hMem : a ∈ m.assigned) :
    ∃! e, a ∈ m.aliases e := by
  rcases List.mem_iff_getElem?.mp hMem with ⟨i, hFound⟩
  rcases getElem?_assigned_iff.mp hFound with ⟨hLess, rfl⟩
  have hTable : m.tables[i]? = some m.tables[i] :=
    List.getElem?_eq_getElem hLess
  refine ⟨m.tables[i], mem_aliases_iff.mpr ⟨i, hTable, rfl⟩, ?_⟩
  intro other hOther
  rcases mem_aliases_iff.mp hOther with ⟨j, hAt, hSame⟩
  cases TableAlias.ofPosition_inj hSame
  exact Option.some.inj (hAt.symm.trans hTable)

------------------------------------------------------------
-- References
------------------------------------------------------------

variable {occurrence : Option Nat}

/- A reference gives the alias of the n-th table of its entity. -/
theorem resolve_eq_ok_iff_assigned :
    m.resolve e occurrence = .ok a ↔
      ∃ i,
        IsOccurrence m.tables e (occurrence.getD 1) i ∧
        m.assigned[i]? = some a := by
  rcases m with ⟨tables⟩
  rw [resolve_eq_ok_iff]
  refine exists_congr fun i => and_congr_right fun hOccurs => ?_
  rw [getElem?_assigned_iff]
  exact (and_iff_right hOccurs.lt_length).symm

/-
  The number zero and numbers without a table are refused, and
  nothing else is.
-/
theorem resolve_eq_error_iff
    {cause : MappingError} :
    m.resolve e occurrence = .error cause ↔
      cause =
          .unresolvedAlias
            (.noOccurrence e (occurrence.getD 1)) ∧
        (occurrence.getD 1 = 0 ∨
          m.tables.count e < occurrence.getD 1) := by
  rcases m with ⟨tables⟩
  by_cases hSome :
      ∃ i, IsOccurrence tables e (occurrence.getD 1) i
  · have hRange := exists_isOccurrence_iff.mp hSome
    rcases hSome with ⟨i, hOccurs⟩
    rw [resolve_eq_ok_iff.mpr ⟨i, hOccurs, rfl⟩]
    constructor
    · nofun
    · rintro ⟨_, hZero | hFewer⟩
      · omega
      · exact absurd hRange.2 (Nat.not_le_of_lt hFewer)
  · rw [resolve_eq_error hSome, Except.error.injEq, eq_comm]
    rw [exists_isOccurrence_iff] at hSome
    have hOut :
        occurrence.getD 1 = 0 ∨
          tables.count e < occurrence.getD 1 := by
      omega
    exact (and_iff_left hOut).symm

------------------------------------------------------------
-- Assignments
------------------------------------------------------------

/- Assigning adds the alias to all of them. -/
theorem assigned_assign
    (m : AliasMap)
    (e : EntityKey) :
    (m.assign e).2.assigned = m.assigned ++ [(m.assign e).1] := by
  simp [assigned, assign, size, List.range_succ, TableAlias.ofPosition]

/- Assigning adds the alias to those of its entity. -/
theorem aliases_assign
    (m : AliasMap)
    (e other : EntityKey) :
    (m.assign e).2.aliases other =
      if e = other then m.aliases other ++ [(m.assign e).1]
      else m.aliases other := by
  by_cases hSame : e = other
  · simp [aliases, assign, size, List.zipIdx_append, hSame, Nat.add_comm]
  · simp [aliases, assign, List.zipIdx_append, hSame]

/-
  The induction is on the assignments, from the last one back:
  each adds its alias to all of them, and to those of the entity
  or to none of these.
-/
theorem aliases_sublist
    (m : AliasMap)
    (e : EntityKey) :
    (m.aliases e).Sublist m.assigned := by
  rcases m with ⟨tables⟩
  induction tables using List.reverseRecOn with
  | nil => exact List.nil_sublist _
  | append_singleton tables last ih =>
      let m : AliasMap := ⟨tables⟩
      change ((m.assign last).2.aliases e).Sublist
        (m.assign last).2.assigned
      rw [assigned_assign, aliases_assign]
      split
      · exact ih.append (List.Sublist.refl _)
      · exact ih.trans (List.sublist_append_left _ _)

/- The tables are added in the order of the assignments. -/
theorem assignEach_snd
    (m : AliasMap)
    (es : List EntityKey) :
    (assignEach assign m es).2 = ⟨m.tables ++ es⟩ := by
  induction es generalizing m with
  | nil => rw [List.append_nil]; rfl
  | cons e es ih =>
      simp only [assignEach]
      rw [ih, assign, List.append_assoc]
      rfl

theorem assigned_assignEach
    (m : AliasMap)
    (es : List EntityKey) :
    (assignEach assign m es).2.assigned =
      m.assigned ++ (assignEach assign m es).1 := by
  induction es generalizing m with
  | nil => exact (List.append_nil _).symm
  | cons e es ih =>
      simp only [assignEach]
      rw [ih, assigned_assign, List.append_assoc]
      rfl

/- What a reference resolves to it resolves to ever after. -/
theorem resolve_assignEach
    (hResolve : m.resolve e occurrence = .ok a)
    (later : List EntityKey) :
    (assignEach assign m later).2.resolve e occurrence = .ok a := by
  rcases m with ⟨tables⟩
  rcases resolve_eq_ok_iff.mp hResolve with ⟨i, hOccurs, rfl⟩
  rw [assignEach_snd, resolve_eq_ok_iff]
  exact ⟨i, hOccurs.append later, rfl⟩

end AliasMap

------------------------------------------------------------
-- Two records of the aliases
------------------------------------------------------------

instance : Hashable EntityKey :=
  ⟨fun key => hash key.id⟩

/- All aliases in order, and for each entity its own. -/
structure AliasIndex where
  assigned : List TableAlias := []
  byEntity : Std.HashMap EntityKey (List TableAlias) := ∅

namespace AliasIndex

def empty : AliasIndex :=
  {}

def aliases
    (x : AliasIndex)
    (entity : EntityKey) : List TableAlias :=
  x.byEntity.getD entity []

/- Add the next alias to all, and to those of the entity. -/
def assign
    (x : AliasIndex)
    (entity : EntityKey) : TableAlias × AliasIndex :=
  let a : TableAlias := ⟨x.assigned.length + 1⟩
  (a,
    { assigned := x.assigned ++ [a]
      byEntity :=
        x.byEntity.insert entity (x.aliases entity ++ [a]) })

/- Look a reference up among the aliases of its entity. -/
def resolve
    (x : AliasIndex)
    (entity : EntityKey)
    (occurrence : Option Nat) : Except MappingError TableAlias :=
  let n := occurrence.getD 1
  let found :=
    if n = 0 then none else (x.aliases entity)[n - 1]?
  match found with
  | some a => .ok a
  | none => .error (.unresolvedAlias (.noOccurrence entity n))

/- Both records hold what an alias map says. -/
structure Agrees
    (x : AliasIndex)
    (m : AliasMap) : Prop where
  assigned : x.assigned = m.assigned
  aliases : ∀ e, x.aliases e = m.aliases e

theorem agrees_empty :
    empty.Agrees .empty where
  assigned := rfl
  aliases _ := Std.HashMap.getD_empty

variable {x : AliasIndex}
variable {m : AliasMap}

theorem Agrees.resolve
    (hAgrees : x.Agrees m)
    (e : EntityKey)
    (occurrence : Option Nat) :
    x.resolve e occurrence = m.resolve e occurrence := by
  rw [AliasIndex.resolve, hAgrees.aliases]
  rfl

/- An assignment gives the same alias and keeps both in step. -/
theorem Agrees.assign
    (hAgrees : x.Agrees m)
    (e : EntityKey) :
    (x.assign e).1 = (m.assign e).1 ∧
      (x.assign e).2.Agrees (m.assign e).2 := by
  have hLength : x.assigned.length = m.size := by
    rw [hAgrees.assigned, AliasMap.assigned, List.length_map,
      List.length_range]
  have hAlias : (x.assign e).1 = (m.assign e).1 :=
    congrArg (fun n => TableAlias.mk (n + 1)) hLength
  refine ⟨hAlias, ?_, ?_⟩
  · rw [AliasMap.assigned_assign, ← hAlias, ← hAgrees.assigned]
    rfl
  · intro other
    rw [AliasMap.aliases_assign, ← hAlias, ← hAgrees.aliases]
    by_cases hSame : e = other
    · subst hSame
      rw [if_pos rfl]
      exact Std.HashMap.getD_insert_self
    · rw [if_neg hSame]
      exact Std.HashMap.getD_insert.trans
        (if_neg fun hKeys => hSame (beq_iff_eq.mp hKeys))

/- The induction is on the assignments that are left. -/
theorem Agrees.assignEach
    (hAgrees : x.Agrees m)
    (es : List EntityKey) :
    (assignEach AliasIndex.assign x es).1 =
        (assignEach AliasMap.assign m es).1 ∧
      (assignEach AliasIndex.assign x es).2.Agrees
        (assignEach AliasMap.assign m es).2 := by
  induction es generalizing x m with
  | nil => exact ⟨rfl, hAgrees⟩
  | cons e es ih =>
      rcases hAgrees.assign e with ⟨hAlias, hNext⟩
      rcases ih hNext with ⟨hGiven, hEnd⟩
      exact ⟨congrArg₂ List.cons hAlias hGiven, hEnd⟩

end AliasIndex

------------------------------------------------------------
-- Runs of assignments
------------------------------------------------------------

/-
  After assignments to any entities in turn, the aliases given
  are t1, t2 and so on, all different. The root is the first of
  them, and the last is the last one given. Each belongs to one
  entity, in whose list they keep their order. The n-th
  reference to an entity resolves to the alias of its n-th
  assignment, and is refused just if the number is zero or
  there are fewer; later assignments do not change it. An index
  that keeps all aliases and those of every entity gives the
  same aliases and the same answers.
-/
theorem AliasMap.assigned_aliases_resolve
    (es : List EntityKey) :
    ∃ (given : List TableAlias) (m : AliasMap) (x : AliasIndex),
      assignEach AliasMap.assign .empty es = (given, m) ∧
      assignEach AliasIndex.assign .empty es = (given, x) ∧
      given.map TableAlias.text =
        (List.range es.length).map
          (fun i => "t" ++ toString (i + 1)) ∧
      (given.map TableAlias.text).Nodup ∧
      m.root? = given.head? ∧
      m.last? = given.getLast? ∧
      (∀ e, (m.aliases e).Sublist given) ∧
      (∀ a ∈ given, ∃! e, a ∈ m.aliases e) ∧
      (∀ e occurrence a,
        m.resolve e occurrence = .ok a ↔
          ∃ i,
            IsOccurrence es e (occurrence.getD 1) i ∧
            given[i]? = some a) ∧
      (∀ e occurrence cause,
        m.resolve e occurrence = .error cause ↔
          cause =
              .unresolvedAlias
                (.noOccurrence e (occurrence.getD 1)) ∧
            (occurrence.getD 1 = 0 ∨
              es.count e < occurrence.getD 1)) ∧
      (∀ later e occurrence a,
        m.resolve e occurrence = .ok a →
        (assignEach AliasMap.assign m later).2.resolve
          e occurrence = .ok a) ∧
      x.assigned = given ∧
      (∀ e, x.aliases e = m.aliases e) ∧
      (∀ e occurrence,
        x.resolve e occurrence = m.resolve e occurrence) := by
  rcases hRun : assignEach AliasMap.assign .empty es with ⟨given, m⟩
  rcases hIndex : assignEach AliasIndex.assign .empty es with
    ⟨given', x⟩
  have hAgrees := AliasIndex.agrees_empty.assignEach es
  have hMap := AliasMap.assignEach_snd .empty es
  have hGiven := AliasMap.assigned_assignEach .empty es
  rw [hRun] at hAgrees hMap hGiven
  rw [hIndex] at hAgrees
  rcases hAgrees with ⟨hSame, hAgrees⟩
  -- Nothing was assigned before, so nothing else is held.
  obtain rfl : m = ⟨es⟩ := hMap
  obtain rfl : AliasMap.assigned ⟨es⟩ = given := hGiven
  obtain rfl : given' = AliasMap.assigned ⟨es⟩ := hSame
  refine ⟨_, _, x, rfl, rfl, AliasMap.texts_assigned ⟨es⟩,
    (AliasMap.nodup_assigned _).map TableAlias.text_injective,
    AliasMap.root?_eq_head? _, AliasMap.last?_eq_getLast? _,
    AliasMap.aliases_sublist _,
    fun a hMem => AliasMap.existsUnique_mem_aliases hMem,
    fun e occurrence a => AliasMap.resolve_eq_ok_iff_assigned,
    fun e occurrence cause => AliasMap.resolve_eq_error_iff,
    fun later e occurrence a hResolve =>
      AliasMap.resolve_assignEach hResolve later,
    hAgrees.assigned, hAgrees.aliases, hAgrees.resolve⟩

/- A table that is joined with itself has two references. -/
example :
    let folder : EntityKey := ⟨0, "Folder"⟩
    let file : EntityKey := ⟨1, "File"⟩
    let m :=
      (assignEach AliasMap.assign .empty [folder, file, folder]).2
    m.aliases folder = [⟨1⟩, ⟨3⟩] ∧
      m.resolve folder (some 2) = .ok ⟨3⟩ ∧
      m.resolve file (some 2) =
        .error (.unresolvedAlias (.noOccurrence file 2)) :=
  ⟨rfl, rfl, rfl⟩

end EntitySql
