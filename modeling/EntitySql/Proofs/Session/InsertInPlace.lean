import EntitySql.Proofs.Session.InsertGet

/-
  An insert changes the identity of a record or nothing at all.

  Key definitions include:
    * `Record.held`, `Record.write`, `Record.store`
    * `Mapper.insertInPlace`
    * `Record.InsertEnds`, `Record.Inserted`

  Key theorems include:
    * `Mapper.runOn_insertInPlace`
    * `Mapper.insert_ends`
    * `Mapper.insert_sets_identity_or_nothing`

  A caller hands its own record to an insert, which writes to
  it while it runs. Such a record stands in front of the world:
  what has been written to it stays when a later step fails.
-/

namespace EntitySql

open Operation

variable {ω κ : Type}

------------------------------------------------------------
-- Records in front of the world
------------------------------------------------------------

/- The record in front of the world. -/
def Record.held : Action (Record × ω) Record :=
  Action.ofFunction fun (r, w) => (.ok r, (r, w))

/- Write a field of the record in front of the world. -/
def Record.write
    (i : Nat)
    (field : FieldValue) : Action (Record × ω) Unit :=
  Action.ofFunction fun (r, w) =>
    (.ok (), (⟨r.type, r.fields.set i field⟩, w))

/-
  Assign a value to a field of the record in front of the
  world.
-/
def Record.store
    (i : Nat)
    (v : Value) : Action (Record × ω) Unit := do
  let r ← Record.held
  match r.type.properties[i]? with
  | none => pure ()
  | some property =>
      match property.type.read v with
      | .ok field => Record.write i field
      | .error cause =>
          throw (.mapping (.conversion property.column cause))

/-
  Insert the record in front of the world and set its identity
  to the generated one.
-/
def Mapper.insertInPlace
    (m : Mapper)
    (p : Provider ω κ)
    (conn : κ) : Action (Record × Registry × ω) Unit := do
  let r ← Record.held
  let key ←
    Provider.onSecond
      ((m.callFor .scalar (.insert r)).runOn p conn)
  if Value.isNull key then
    throw (.unexpected (.noIdentity r.type.table))
  else do
    Provider.onSecond ((Operation.use r.type).runOn p conn)
    let i ←
      Provider.onSecond
        ((Operation.ofMapping r.type.identityPosition).runOn p conn)
    Record.store i key

/-
  What the provider answers to the insert of a record, if it is
  asked.
-/
def Mapper.insertAnswer?
    (m : Mapper)
    (p : Provider ω κ)
    (conn : κ)
    (r : Record)
    (w : ω) : Option (Except SessionError Value) :=
  match (Request.insert r).statement m.naming m.dialect with
  | .ok s => some ((p.call conn .scalar s).runOn w).1
  | .error _ => none

theorem Record.runOn_held
    (r : Record)
    (w : ω) :
    Record.held.runOn (r, w) = (.ok r, (r, w)) :=
  rfl

/- A value is converted before anything is written. -/
theorem Record.runOn_store
    (i : Nat)
    (v : Value)
    (r : Record)
    (w : ω) :
    (Record.store i v).runOn (r, w) =
      (match r.assign i v with
        | .ok r' => (.ok (), (r', w))
        | .error e => (.error (.mapping e), (r, w))) := by
  rw [store, Action.runOn_bind, runOn_held]
  dsimp only
  unfold assign
  cases r.type.properties[i]? with
  | none => rfl
  | some property =>
      dsimp only
      cases property.type.read v <;> rfl

/-
  The record in front of the world becomes the record that the
  insert gives, and stays what it is if the insert fails.
-/
theorem Mapper.runOn_insertInPlace
    (m : Mapper)
    (p : Provider ω κ)
    (conn : κ)
    (r : Record)
    (registry : Registry)
    (w : ω) :
    (m.insertInPlace p conn).runOn (r, registry, w) =
      (match ((m.insert r).runOn p conn).runOn (registry, w) with
        | (.ok r', rest) => (.ok (), (r', rest))
        | (.error e, rest) => (.error e, (r, rest))) := by
  rw [insertInPlace, insert, Action.runOn_bind, Record.runOn_held]
  dsimp only
  rw [Action.runOn_bind, Action.runOn_onSecond,
    Operation.runOn_bind]
  rcases ((m.callFor .scalar (.insert r)).runOn p conn).runOn
    (registry, w) with ⟨e | key, registry', w'⟩
  · rfl
  · dsimp only
    cases hNull : Value.isNull key with
    | true => rfl
    | false =>
        simp only [Bool.false_eq_true, if_false]
        rw [Action.runOn_bind, Action.runOn_onSecond,
          Operation.runOn_bind]
        have hUse :
            ((use r.type).runOn p conn).runOn (registry', w') =
              (.ok (), (registry'.use r.type, w')) :=
          rfl
        rw [hUse]
        dsimp only
        rw [Action.runOn_bind, Action.runOn_onSecond,
          Operation.runOn_ofMapping, Operation.runOn_ofMapping]
        cases r.type.identityPosition with
        | error e => rfl
        | ok i =>
            have hAssign :
                (do
                    let i ← (Except.ok i : Except MappingError Nat)
                    r.assign i key) = r.assign i key :=
              rfl
            rw [hAssign]
            simp only [Except.mapError, Record.runOn_store]
            cases r.assign i key <;> rfl

------------------------------------------------------------
-- How inserts end
------------------------------------------------------------

/- The identity of the type stands at the place `i`. -/
def EntityType.IsIdentity
    (e : EntityType)
    (i : Nat)
    (property : Property) : Prop :=
  e.identityIndex? = some i ∧ e.properties[i]? = some property

theorem EntityType.exists_isIdentity
    {e : EntityType}
    {i : Nat}
    (hIdentity : e.identityIndex? = some i) :
    ∃ property, e.IsIdentity i property := by
  have hFound := hIdentity
  unfold identityIndex? at hFound
  rcases List.findIdx?_eq_some_iff_getElem.mp hFound with
    ⟨hBound, _⟩
  exact ⟨_, hIdentity, List.getElem?_eq_getElem hBound⟩

/-
  What an insert gives when its call was answered so. A call
  that is missing was not made.
-/
inductive Record.InsertEnds
    (r : Record) :
    Option (Except SessionError Value) →
      Except SessionError Record → Prop where
  | noIdentity
      (missing : r.type.identityIndex? = none) :
      InsertEnds r none
        (.error (.mapping (.missingIdentity r.type.key)))
  | callFails {i property e}
      (identity : r.type.IsIdentity i property) :
      InsertEnds r (some (.error e)) (.error e)
  | nullKey {i property}
      (identity : r.type.IsIdentity i property) :
      InsertEnds r (some (.ok .null))
        (.error (.unexpected (.noIdentity r.type.table)))
  | unfitKey {i property key cause}
      (identity : r.type.IsIdentity i property)
      (notNull : key ≠ .null)
      (unfit : property.type.read key = .error cause) :
      InsertEnds r (some (.ok key))
        (.error (.mapping (.conversion property.column cause)))
  | stored {i property key field}
      (identity : r.type.IsIdentity i property)
      (notNull : key ≠ .null)
      (fits : property.type.read key = .ok field) :
      InsertEnds r (some (.ok key))
        (.ok ⟨r.type, r.fields.set i field⟩)

/- An insert needs nothing of a record but an identity. -/
theorem Request.statement_insert
    (r : Record)
    (naming : TableNaming)
    (d : Dialect) :
    (r.type.identityIndex? = none ∧
        (Request.insert r).statement naming d =
          .error (.missingIdentity r.type.key)) ∨
      (∃ i property s, r.type.IsIdentity i property ∧
        (Request.insert r).statement naming d = .ok s) := by
  cases hIdentity : r.type.identityIndex? with
  | none =>
      have hPosition :
          r.type.identityPosition =
            .error (.missingIdentity r.type.key) := by
        rw [EntityType.identityPosition, hIdentity]
      have hLookup :
          (liftM r.type.identityPosition : Binding Nat).run.run
              .empty =
            (.error (.missingIdentity r.type.key), .empty) := by
        rw [hPosition]
        rfl
      refine .inl ⟨rfl, ?_⟩
      unfold statement draft
      simp only [command, Binding.run_bind_of_error _ hLookup]
      rfl
  | some i =>
      rcases EntityType.exists_isIdentity hIdentity with
        ⟨property, hProperty⟩
      rcases exists_draft_insert hIdentity naming with
        ⟨cells, params, hDraft, _⟩
      exact .inr ⟨i, property, _, hProperty,
        statement_of_yields (draft_eq_ok_iff.mp hDraft) d⟩

/- An insert ends as the answer to its call decides. -/
theorem Mapper.insert_ends
    (m : Mapper)
    (p : Provider ω κ)
    (conn : κ)
    (r : Record)
    (registry : Registry)
    (w : ω) :
    r.InsertEnds (m.insertAnswer? p conn r w)
      (((m.insert r).runOn p conn).runOn (registry, w)).1 := by
  rw [insert, Operation.runOn_bind, runOn_callFor, insertAnswer?]
  rcases Request.statement_insert r m.naming m.dialect with
    ⟨hNone, hStatement⟩ | ⟨i, property, s, hIdentity, hStatement⟩
  · rw [hStatement]
    exact .noIdentity hNone
  · rw [hStatement]
    dsimp only
    rcases ((p.call conn .scalar s).runOn w).1 with e | key
    · exact .callFails hIdentity
    · dsimp only
      cases hNull : Value.isNull key with
      | true =>
          rw [Value.isNull_eq_true_iff.mp hNull]
          exact .nullKey hIdentity
      | false =>
          have hNotNull : key ≠ .null := by
            rintro rfl
            cases hNull
          have hPosition : r.type.identityPosition = .ok i :=
            EntityType.identityPosition_eq_ok_iff.mpr hIdentity.1
          simp only [Bool.false_eq_true, if_false]
          rw [Operation.runOn_bind]
          have hUse (registry' : Registry) (w' : ω) :
              ((use r.type).runOn p conn).runOn (registry', w') =
                (.ok (), (registry'.use r.type, w')) :=
            rfl
          rw [hUse]
          have hAssign :
              (do
                  let i ← r.type.identityPosition
                  r.assign i key) = r.assign i key := by
            rw [hPosition]
            rfl
          dsimp only
          rw [Operation.runOn_ofMapping, hAssign, Record.assign,
            hIdentity.2]
          dsimp only
          cases hRead : property.type.read key with
          | error cause => exact .unfitKey hIdentity hNotNull hRead
          | ok field => exact .stored hIdentity hNotNull hRead

------------------------------------------------------------
-- What an insert changes
------------------------------------------------------------

/-
  What an insert does to the record of its caller, and when it
  fails. A call that is missing was not made.
-/
structure Record.Inserted
    (r : Record)
    (answer? : Option (Except SessionError Value))
    (result : Except SessionError Unit)
    (r' : Record) : Prop where
  called_iff :
    answer?.isSome ↔ ∃ i, r.type.identityIndex? = some i
  fails_iff :
    (∃ e, result = .error e) ↔
      r.type.identityIndex? = none ∨
      (∃ e, answer? = some (.error e)) ∨
      answer? = some (.ok .null) ∨
      ∃ i property key cause,
        r.type.IsIdentity i property ∧
        answer? = some (.ok key) ∧
        property.type.read key = .error cause
  unchanged : ∀ e, result = .error e → r' = r
  type_eq : r'.type = r.type
  others_eq :
    ∀ j, r.type.identityIndex? ≠ some j →
      r'.fields[j]? = r.fields[j]?
  identity_eq :
    result = .ok () →
      ∃ i property key field,
        r.type.IsIdentity i property ∧
        answer? = some (.ok key) ∧
        property.type.read key = .ok field ∧
        r'.fields[i]? = some field

theorem EntityType.IsIdentity.eq
    {e : EntityType}
    {i j : Nat}
    {property other : Property}
    (hProperty : e.IsIdentity i property)
    (hOther : e.IsIdentity j other) :
    property = other := by
  have hPlace : i = j :=
    Option.some.inj (hProperty.1.symm.trans hOther.1)
  subst hPlace
  exact Option.some.inj (hProperty.2.symm.trans hOther.2)

/- The end of an insert says what has become of the record. -/
theorem Record.InsertEnds.inserted
    {r : Record}
    {answer? : Option (Except SessionError Value)}
    {result : Except SessionError Record}
    (hFields : r.fields.length = r.type.width)
    (hEnds : r.InsertEnds answer? result) :
    r.Inserted answer? (result.map fun _ => ())
      (result.toOption.getD r) := by
  cases hEnds with
  | noIdentity hMissing =>
      constructor <;> simp [Except.map, Except.toOption, hMissing]
  | @callFails i property e hIdentity =>
      constructor <;> simp [Except.map, Except.toOption, hIdentity.1]
  | @nullKey i property hIdentity =>
      constructor <;> simp [Except.map, Except.toOption, hIdentity.1]
  | @unfitKey i property key cause hIdentity hNotNull hUnfit =>
      constructor
      case fails_iff =>
        refine iff_of_true ⟨_, rfl⟩ (.inr (.inr (.inr ?_)))
        exact ⟨i, property, key, cause, hIdentity, rfl, hUnfit⟩
      all_goals simp [Except.map, Except.toOption, hIdentity.1]
  | @stored i property key field hIdentity hNotNull hFits =>
      have hBound : i < r.fields.length := by
        rcases List.getElem?_eq_some_iff.mp hIdentity.2 with ⟨h, _⟩
        rw [hFields]
        exact h
      constructor
      case fails_iff =>
        refine iff_of_false (by simp [Except.map]) ?_
        rintro (hMissing | ⟨e, hAnswer⟩ | hAnswer |
          ⟨j, other, key', cause, hOther, hAnswer, hUnfit⟩)
        · simp [hIdentity.1] at hMissing
        · simp at hAnswer
        · simp [hNotNull] at hAnswer
        · cases hAnswer
          rw [← hIdentity.eq hOther, hFits] at hUnfit
          cases hUnfit
      case others_eq =>
        intro j hOther
        have hPlace : i ≠ j := by
          rintro rfl
          exact hOther hIdentity.1
        exact List.getElem?_set_ne hPlace
      case identity_eq =>
        intro _
        exact ⟨i, property, key, field, hIdentity, rfl, hFits,
          List.getElem?_set_self hBound⟩
      all_goals simp [Except.map, Except.toOption, hIdentity.1]

/-
  An insert that fails leaves the record of its caller as it
  was. One that succeeds changes the identity alone, which is
  read from the answer to the call. It fails iff the type has
  no identity, the call fails, or the answer is NULL or does
  not fit the identity.
-/
theorem Mapper.insert_sets_identity_or_nothing
    (m : Mapper)
    (p : Provider ω κ)
    (conn : κ)
    {r : Record}
    (registry : Registry)
    (w : ω)
    (hFields : r.fields.length = r.type.width) :
    ∃ (result : Except SessionError Unit)
      (r' : Record) (rest : Registry × ω),
      (m.insertInPlace p conn).runOn (r, registry, w) =
        (result, (r', rest)) ∧
      r.Inserted (m.insertAnswer? p conn r w) result r' ∧
      ((m.insert r).runOn p conn).runOn (registry, w) =
        (result.map fun _ => r', rest) := by
  have hEnds := m.insert_ends p conn r registry w
  rw [runOn_insertInPlace]
  rcases hRun : ((m.insert r).runOn p conn).runOn (registry, w) with
    ⟨e | r', rest⟩
  · rw [hRun] at hEnds
    exact ⟨.error e, r, rest, rfl, hEnds.inserted hFields, rfl⟩
  · rw [hRun] at hEnds
    exact ⟨.ok (), r', rest, rfl, hEnds.inserted hFields, rfl⟩

------------------------------------------------------------
-- Keys that do not fit
------------------------------------------------------------

namespace Tickets

def ticket : EntityType :=
  { key := ⟨0, "Ticket"⟩
    table := "tickets"
    properties :=
      [ { column := "no", declaredType := "u8",
          type := ⟨.integer .uint8, false⟩, identity := true },
        { column := "seat", declaredType := "String",
          type := ⟨.text, false⟩ } ] }

/- A database that counts its rows and numbers them from 300 on. -/
def database : Provider Nat Unit where
  openConnection := pure ()
  call _ c _ :=
    match c with
    | .scalar =>
        Action.ofFunction fun rows =>
          (.ok (.int (Int64.ofNat (300 + rows))), rows + 1)
    | .nonQuery => pure 0
    | .reader => pure []
  control _ _ := pure ()
  close _ rows := rows

/-
  The row is stored under the number 300, which is no number
  of a ticket: the ticket keeps the number that it has.
-/
theorem unfit_number_leaves_ticket :
    let m : Mapper := ⟨{}, .postgres⟩
    let r : Record := ⟨ticket, [.integer 7, .text "A1"]⟩
    r.fields.length = r.type.width ∧
      ∃ e registry,
        (m.insertInPlace database ()).runOn (r, {}, 0) =
          (.error e, (r, registry, 1)) := by
  intro m r
  have hFields : r.fields.length = r.type.width := rfl
  have hAnswer :
      m.insertAnswer? database () r 0 =
        some (.ok (.int 300)) := by
    decide +kernel
  have hRows :
      ((m.insertInPlace database ()).runOn (r, {}, 0)).2.2.2 = 1 := by
    decide +kernel
  rcases
      m.insert_sets_identity_or_nothing database () {} 0 hFields with
    ⟨result, r', ⟨registry, rows⟩, hRun, hInserted, _⟩
  have hUnfit :
      (ticket.properties[0]).type.read (.int 300) =
        .error (.outOfRange .uint8 300) :=
    rfl
  rcases
      hInserted.fails_iff.mpr
        (.inr (.inr (.inr
          ⟨0, ticket.properties[0], .int 300, _, ⟨rfl, rfl⟩,
            hAnswer, hUnfit⟩))) with
    ⟨e, rfl⟩
  have hSame : r' = r := hInserted.unchanged e rfl
  subst hSame
  refine ⟨hFields, e, registry, ?_⟩
  rw [hRun] at hRows ⊢
  cases hRows
  rfl

end Tickets

end EntitySql
