import EntitySql.Catalog.Scope

/-!
# What the catalogue remembers

Every name is answered from the memory, or worked out and stored.  Each question
changes one table of the memory only, and there only the answer to itself.
-/

namespace EntitySql

namespace Memo

variable {κ α : Type} [DecidableEq κ] {memo : Memo κ α} {key : κ} {answer stored : α}

theorem findD_of_find? (found : memo.find? key = some stored) :
    memo.findD key answer = stored := by
  rw [findD, found]
  rfl

theorem findD_of_not_found (notFound : memo.find? key = none) :
    memo.findD key answer = answer := by
  rw [findD, notFound]
  rfl

theorem insertIfNew_of_find? (found : memo.find? key = some stored) :
    memo.insertIfNew key answer = memo := by
  rw [insertIfNew, found]

theorem insertIfNew_of_not_found (notFound : memo.find? key = none) :
    memo.insertIfNew key answer = ⟨(key, answer) :: memo.entries⟩ := by
  rw [insertIfNew, notFound]

theorem find?_insertIfNew_self (memo : Memo κ α) (key : κ) (answer : α) :
    (memo.insertIfNew key answer).find? key = some (memo.findD key answer) := by
  cases found : memo.find? key with
  | some stored => rw [insertIfNew_of_find? found, found, findD_of_find? found]
  | none =>
      rw [insertIfNew_of_not_found found, findD_of_not_found found]
      simp [find?]

theorem find?_insertIfNew_of_ne (memo : Memo κ α) {other : κ} (answer : α)
    (differs : other ≠ key) : (memo.insertIfNew key answer).find? other = memo.find? other := by
  cases found : memo.find? key with
  | some stored => rw [insertIfNew_of_find? found]
  | none =>
      have notSame : (other == key) = false := beq_eq_false_iff_ne.mpr differs
      rw [insertIfNew_of_not_found found]
      simp [find?, List.lookup_cons, notSame]

/-- A further answer leaves every answer as it was found or was to be found. -/
theorem findD_insertIfNew (memo : Memo κ α) (key other : κ) (answer otherAnswer : α) :
    (memo.insertIfNew key (memo.findD key answer)).findD other otherAnswer =
      if other = key then memo.findD key answer else memo.findD other otherAnswer := by
  split
  · next same =>
      subst same
      rw [findD_of_find? (find?_insertIfNew_self memo other _)]
      cases found : memo.find? other with
      | some stored => rw [findD_of_find? found, findD_of_find? found]
      | none => rw [findD_of_not_found found]
  · next differs => rw [findD, find?_insertIfNew_of_ne memo _ differs, findD]

/-- The stored answer, or else the outcome of working it out. -/
def findOr {ε : Type} (memo : Memo κ α) (key : κ) (outcome : Except ε α) : Except ε α :=
  match memo.find? key with
  | some stored => .ok stored
  | none => outcome

/-- Stores an answer that was worked out.  A failure is not stored. -/
def insertOk {ε : Type} (memo : Memo κ α) (key : κ) : Except ε α → Memo κ α
  | .ok answer => memo.insertIfNew key answer
  | .error _ => memo

theorem findOr_insertOk {ε : Type} (memo : Memo κ α) (key : κ) (outcome : Except ε α) :
    (memo.insertOk key (memo.findOr key outcome)).findOr key outcome =
      memo.findOr key outcome := by
  cases answered : memo.findOr key outcome with
  | error failure => rw [insertOk, answered]
  | ok answer =>
      have kept : memo.findD key answer = answer := by
        unfold findOr at answered
        cases found : memo.find? key with
        | some stored =>
            rw [found] at answered
            cases answered
            exact findD_of_find? found
        | none => exact findD_of_not_found found
      rw [insertOk, findOr, find?_insertIfNew_self, kept]

end Memo

namespace MemoSlot

variable {σ κ α ε : Type} [DecidableEq κ] {slot : MemoSlot σ κ α} {key : κ} {state after : σ}
  {answer stored : α}

theorem store_run (slot : MemoSlot σ κ α) (key : κ) (answer : α) (state : σ) :
    (slot.store key answer).run state =
      ((slot.read state).findD key answer,
        slot.write state ((slot.read state).insertIfNew key answer)) := by
  have answerEq : ((slot.read state).insertIfNew key answer).findD key answer =
      (slot.read state).findD key answer :=
    Memo.findD_of_find? (Memo.find?_insertIfNew_self _ key answer)
  change (((slot.read state).insertIfNew key answer).findD key answer, _) = _
  rw [answerEq]

theorem findOrCompute_run_of_find? (found : (slot.read state).find? key = some stored)
    (compute : StateM σ α) :
    (slot.findOrCompute key compute).run state = (stored, state) := by
  simp only [findOrCompute, StateT.run_bind, StateT.run_get, pure_bind, found]
  rfl

theorem findOrCompute_run_of_not_found (notFound : (slot.read state).find? key = none)
    {compute : StateM σ α} (computes : compute.run state = (answer, after)) :
    (slot.findOrCompute key compute).run state = (slot.store key answer).run after := by
  simp only [findOrCompute, StateT.run_bind, StateT.run_get, pure_bind, notFound, computes]
  rfl

/-- Reading a table and writing it back changes nothing. -/
def Lawful (slot : MemoSlot σ κ α) : Prop :=
  ∀ state, slot.write state (slot.read state) = state

/-- A computation that leaves the table alone is answered and stored. -/
theorem findOrCompute_run (lawful : slot.Lawful) (key : κ) {compute : StateM σ α}
    (computes : compute.run state = (answer, after))
    (unread : slot.read after = slot.read state) :
    ∃ middle, (middle = state ∨ middle = after) ∧
      (slot.findOrCompute key compute).run state =
        ((slot.read state).findD key answer,
          slot.write middle
            ((slot.read state).insertIfNew key ((slot.read state).findD key answer))) := by
  cases found : (slot.read state).find? key with
  | some stored =>
      refine ⟨state, .inl rfl, ?_⟩
      rw [findOrCompute_run_of_find? found, Memo.findD_of_find? found,
        Memo.insertIfNew_of_find? found, lawful]
  | none =>
      refine ⟨after, .inr rfl, ?_⟩
      rw [findOrCompute_run_of_not_found found computes, store_run, unread,
        Memo.findD_of_not_found found]

theorem findOrTryCompute_run_of_find? (found : (slot.read state).find? key = some stored)
    (compute : ExceptT ε (StateM σ) α) :
    (slot.findOrTryCompute key compute).run.run state = (.ok stored, state) := by
  change (match (slot.read state).find? key with
    | some answer => (pure answer : ExceptT ε (StateM σ) α)
    | none => _).run.run state = _
  rw [found]
  rfl

theorem findOrTryCompute_run_of_not_found (notFound : (slot.read state).find? key = none)
    {compute : ExceptT ε (StateM σ) α} {outcome : Except ε α}
    (computes : compute.run.run state = (outcome, after)) :
    (slot.findOrTryCompute key compute).run.run state =
      match outcome with
      | .ok answer =>
          (.ok ((slot.store key answer).run after).1, ((slot.store key answer).run after).2)
      | .error failure => (.error failure, after) := by
  change (match (slot.read state).find? key with
    | some answer => (pure answer : ExceptT ε (StateM σ) α)
    | none => _).run.run state = _
  rw [notFound]
  simp only [ExceptT.run_bind, StateT.run_bind, computes]
  cases outcome <;> rfl

/-- So is one that may fail, unless it does. -/
theorem findOrTryCompute_run (lawful : slot.Lawful) (key : κ) {compute : ExceptT ε (StateM σ) α}
    {outcome : Except ε α} (computes : compute.run.run state = (outcome, after))
    (unread : slot.read after = slot.read state) :
    ∃ middle, (middle = state ∨ middle = after) ∧
      (slot.findOrTryCompute key compute).run.run state =
        ((slot.read state).findOr key outcome,
          slot.write middle
            ((slot.read state).insertOk key ((slot.read state).findOr key outcome))) := by
  cases found : (slot.read state).find? key with
  | some stored =>
      refine ⟨state, .inl rfl, ?_⟩
      simp only [findOrTryCompute_run_of_find? found, Memo.findOr, found, Memo.insertOk,
        Memo.insertIfNew_of_find? found, lawful state]
  | none =>
      refine ⟨after, .inr rfl, ?_⟩
      rw [findOrTryCompute_run_of_not_found found computes]
      cases outcome with
      | ok answer =>
          simp only [store_run, unread, Memo.findOr, found, Memo.insertOk,
            Memo.findD_of_not_found found]
      | error failure =>
          have kept := lawful after
          rw [unread] at kept
          simp only [Memo.findOr, found, Memo.insertOk, kept]

end MemoSlot

namespace Memory

theorem tableSlot_lawful : tableSlot.Lawful :=
  fun _ => rfl

theorem columnSlot_lawful : columnSlot.Lawful :=
  fun _ => rfl

theorem keySlot_lawful : keySlot.Lawful :=
  fun _ => rfl

theorem mappedSlot_lawful : mappedSlot.Lawful :=
  fun _ => rfl

theorem foreignKeySlot_lawful : foreignKeySlot.Lawful :=
  fun _ => rfl

theorem statementSlot_lawful : statementSlot.Lawful :=
  fun _ => rfl

end Memory

namespace Catalog

variable (catalog : Catalog) (entity related : Entity) (dialect : Dialect) (property : Property)
  (memory : Memory)

/-- The table of an entity where none is remembered. -/
def spelledTable : String :=
  if catalog.quoting then dialect.quoteQualified (catalog.conventions.table entity)
  else catalog.conventions.table entity

/-- The column of a property where none is remembered. -/
def spelledColumn : String :=
  if catalog.quoting then dialect.quoteIdentifier (catalog.conventions.column property)
  else catalog.conventions.column property

/-- The name that the memory has for a table, or the one it would get. -/
def tableName : String :=
  memory.tables.findD (dialect.name, entity.path) (catalog.spelledTable entity dialect)

/-- The key of a column in the memory. -/
def columnKey : ColumnKey :=
  ⟨dialect.name, entity.path, property.name⟩

theorem table_run : ∃ events, (catalog.table entity dialect).run memory =
    (catalog.tableName entity dialect memory,
      { memory with
        tables := memory.tables.insertIfNew (dialect.name, entity.path)
          (catalog.tableName entity dialect memory)
        events }) := by
  let event := Event.tableResolved entity.path dialect.name (catalog.conventions.table entity)
  have ran : ∃ middle, (middle = memory ∨ middle = memory.record event) ∧
      (catalog.table entity dialect).run memory =
        (catalog.tableName entity dialect memory,
          Memory.tableSlot.write middle (memory.tables.insertIfNew (dialect.name, entity.path)
            (catalog.tableName entity dialect memory))) :=
    MemoSlot.findOrCompute_run Memory.tableSlot_lawful _ rfl rfl
  obtain ⟨middle, rfl | rfl, ran⟩ := ran
  · exact ⟨_, ran⟩
  · exact ⟨_, ran⟩

theorem column_run_findD : ∃ events, (catalog.column entity dialect property).run memory =
    (memory.columns.findD (columnKey entity dialect property)
        (catalog.spelledColumn dialect property),
      { memory with
        columns := memory.columns.insertIfNew (columnKey entity dialect property)
          (memory.columns.findD (columnKey entity dialect property)
            (catalog.spelledColumn dialect property))
        events }) := by
  let event := Event.columnResolved entity.path property.name
    (catalog.conventions.column property)
  have ran : ∃ middle, (middle = memory ∨ middle = memory.record event) ∧
      (catalog.column entity dialect property).run memory =
        (memory.columns.findD (columnKey entity dialect property)
            (catalog.spelledColumn dialect property),
          Memory.columnSlot.write middle
            (memory.columns.insertIfNew (columnKey entity dialect property)
              (memory.columns.findD (columnKey entity dialect property)
                (catalog.spelledColumn dialect property)))) :=
    MemoSlot.findOrCompute_run Memory.columnSlot_lawful _ rfl rfl
  obtain ⟨middle, rfl | rfl, ran⟩ := ran
  · exact ⟨_, ran⟩
  · exact ⟨_, ran⟩

theorem columnName_eq_findD : catalog.columnName entity dialect memory property =
    memory.columns.findD (columnKey entity dialect property)
      (catalog.spelledColumn dialect property) := by
  obtain ⟨events, ran⟩ := catalog.column_run_findD entity dialect property memory
  rw [columnName, ran]

theorem column_run : ∃ events, (catalog.column entity dialect property).run memory =
    (catalog.columnName entity dialect memory property,
      { memory with
        columns := memory.columns.insertIfNew (columnKey entity dialect property)
          (catalog.columnName entity dialect memory property)
        events }) := by
  rw [columnName_eq_findD]
  exact catalog.column_run_findD entity dialect property memory

/-- After a column was asked for, the columns with its key have its name. -/
theorem columnName_after_column (events : List Event) (other : Property) :
    catalog.columnName entity dialect
        { memory with
          columns := memory.columns.insertIfNew (columnKey entity dialect property)
            (catalog.columnName entity dialect memory property)
          events } other =
      if columnKey entity dialect other = columnKey entity dialect property then
        catalog.columnName entity dialect memory property
      else catalog.columnName entity dialect memory other := by
  simp only [columnName_eq_findD, Memo.findD_insertIfNew]

/-- The key by the conventions, which must not be empty. -/
def resolvedKeys : Except Failure (List KeyProperty) :=
  match catalog.conventions.keys entity with
  | .error failure => .error failure
  | .ok [] => .error (.keyNotFound entity.name)
  | .ok keys => .ok keys

theorem resolvedKeys_eq_ok_iff {keys : List KeyProperty} :
    catalog.resolvedKeys entity = .ok keys ↔
      catalog.conventions.keys entity = .ok keys ∧ keys ≠ [] := by
  unfold resolvedKeys
  split
  · next failed => simp [failed]
  · next empty => simp [empty, eq_comm]
  · next others notEmpty resolved =>
      simp only [resolved, Except.ok.injEq, iff_self_and]
      rintro rfl rfl
      exact notEmpty rfl

variable {catalog entity} in
theorem exists_cons_of_resolvedKeys {keys : List KeyProperty}
    (resolved : catalog.resolvedKeys entity = .ok keys) :
    ∃ first rest, catalog.conventions.keys entity = .ok (first :: rest) ∧
      keys = first :: rest := by
  obtain ⟨assigned, notEmpty⟩ := (catalog.resolvedKeys_eq_ok_iff entity).mp resolved
  obtain ⟨first, rest, rfl⟩ := List.exists_cons_of_ne_nil notEmpty
  exact ⟨first, rest, assigned, rfl⟩

/-- The key that the memory has for an entity, or what resolving it gives. -/
def keyAnswer : Except Failure (List KeyProperty) :=
  memory.keys.findOr entity.path (catalog.resolvedKeys entity)

theorem keys_run : ∃ events, (catalog.keys entity).run.run memory =
    (catalog.keyAnswer entity memory,
      { memory with
        keys := memory.keys.insertOk entity.path (catalog.keyAnswer entity memory)
        events }) := by
  have computes : ∃ after, after.keys = memory.keys ∧
      (∃ events, after = { memory with events }) ∧
      (match catalog.conventions.keys entity with
        | .error failure => throw failure
        | .ok [] => throw (.keyNotFound entity.name)
        | .ok keys => do
            Recall.emit (.keysResolved entity.path keys.length)
            return keys : Attempt (List KeyProperty)).run.run memory =
        (catalog.resolvedKeys entity, after) := by
    unfold resolvedKeys
    split
    · exact ⟨memory, rfl, ⟨_, rfl⟩, rfl⟩
    · exact ⟨memory, rfl, ⟨_, rfl⟩, rfl⟩
    · next keys _ _ =>
        exact ⟨memory.record (.keysResolved entity.path keys.length), rfl, ⟨_, rfl⟩, rfl⟩
  obtain ⟨after, unread, ⟨events, rfl⟩, computes⟩ := computes
  obtain ⟨middle, rfl | rfl, ran⟩ :=
    MemoSlot.findOrTryCompute_run Memory.keySlot_lawful entity.path computes unread
  · exact ⟨_, ran⟩
  · exact ⟨_, ran⟩

/-- The mapped properties that the memory has for an entity, or those by convention. -/
def mappedAnswer : List Property :=
  memory.mapped.findD entity.path (catalog.conventions.mapped entity)

theorem mapped_run : (catalog.mapped entity).run memory =
    (catalog.mappedAnswer entity memory,
      { memory with
        mapped := memory.mapped.insertIfNew entity.path
          (catalog.mappedAnswer entity memory) }) := by
  obtain ⟨middle, rfl | rfl, ran⟩ : ∃ middle, (middle = memory ∨ middle = memory) ∧
      (catalog.mapped entity).run memory =
        (catalog.mappedAnswer entity memory,
          Memory.mappedSlot.write middle (memory.mapped.insertIfNew entity.path
            (catalog.mappedAnswer entity memory))) :=
    MemoSlot.findOrCompute_run Memory.mappedSlot_lawful _ rfl rfl
  · exact ran
  · exact ran

/-- The link that the memory has between two entities, or what resolving it gives. -/
def foreignKeyAnswer : Except Failure ForeignKey :=
  memory.foreignKeys.findOr (entity.path, related.path)
    (catalog.conventions.foreignKey entity related)

theorem foreignKey_run : (catalog.foreignKey entity related).run.run memory =
    (catalog.foreignKeyAnswer entity related memory,
      { memory with
        foreignKeys := memory.foreignKeys.insertOk (entity.path, related.path)
          (catalog.foreignKeyAnswer entity related memory) }) := by
  have computes : (MonadExcept.ofExcept (catalog.conventions.foreignKey entity related) :
      Attempt ForeignKey).run.run memory =
        (catalog.conventions.foreignKey entity related, memory) := by
    cases catalog.conventions.foreignKey entity related <;> rfl
  obtain ⟨middle, rfl | rfl, ran⟩ :=
    MemoSlot.findOrTryCompute_run Memory.foreignKeySlot_lawful (entity.path, related.path)
      computes rfl
  · exact ran
  · exact ran

end Catalog

end EntitySql
