import EntitySql.Proofs.Memory.Reliable
import EntitySql.Proofs.Statement.Remembered

/-!
# What the metadata say of a statement

A statement on the metadata can be written down without any memory, given the names of
the columns.  Built with a memory, it is the one that the names in the memory give, when it
is built and ever after.
-/

namespace EntitySql

namespace Scope

variable (scope : Scope) (memory : Memory)

/-- The table of the entity by the conventions. -/
def spelledTable : String :=
  scope.catalog.spelledTable scope.entity scope.dialect

/-- The column of a property as the memory names it. -/
def columnIn (property : Property) : String :=
  scope.catalog.columnName scope.entity scope.dialect memory property

/-- The columns of properties with their markers. -/
def equationsIn (properties : List Property) : List Equation :=
  properties.map fun property =>
    ⟨scope.columnIn memory property, scope.dialect.marker property.name⟩

@[simp] theorem left_equationsIn (properties : List Property) :
    (scope.equationsIn memory properties).map (·.left) =
      properties.map (scope.columnIn memory) := by
  simp [equationsIn, Function.comp_def]

@[simp] theorem right_equationsIn (properties : List Property) :
    (scope.equationsIn memory properties).map (·.right) =
      properties.map fun property => scope.dialect.marker property.name := by
  simp [equationsIn, Function.comp_def]

/-- The equations that a row with the key satisfies. -/
def keyEquationsIn : Except Failure (List Equation) := do
  let keys ← scope.catalog.resolvedKeys scope.entity
  return scope.equationsIn memory (keys.map (·.property))

/-- The same equations, with their columns qualified by a table. -/
def qualifiedKeyEquationsIn (table : String) : Except Failure (List Equation) := do
  let equations ← scope.keyEquationsIn memory
  return equations.map fun equation =>
    { equation with left := qualified table equation.left }

/-- The columns of the key. -/
def keyColumnsIn : Except Failure (List String) := do
  let keys ← scope.catalog.resolvedKeys scope.entity
  return (keys.map (·.property)).map (scope.columnIn memory)

/-- The first column of the key. -/
def firstKeyColumnIn : Except Failure String := do
  let columns ← scope.keyColumnsIn memory
  return columns.head?.getD ""

/-- The join with a related entity. -/
def joinIn (related : Entity) : Except Failure Join := do
  let link ← scope.catalog.conventions.foreignKey scope.entity related
  let relatedScope : Scope := { scope with entity := related }
  let (table, relatedTable) := (scope.spelledTable, relatedScope.spelledTable)
  match link.relation with
  | .oneToOne => do
      let key ← relatedScope.firstKeyColumnIn memory
      return ⟨table, relatedTable,
        qualified table (scope.columnIn memory link.property), qualified relatedTable key⟩
  | .oneToMany => do
      let key ← scope.firstKeyColumnIn memory
      return ⟨table, relatedTable, qualified table key,
        qualified relatedTable (relatedScope.columnIn memory link.property)⟩

/-- The statement that the metadata describe, with the names of columns in the memory. -/
def described : FixedStatement → Except Failure Statement
  | .get => do return .select scope.spelledTable (some (← scope.keyEquationsIn memory))
  | .getAll => return .select scope.spelledTable none
  | .insert => do
      let keys ← scope.catalog.resolvedKeys scope.entity
      let inserted := (scope.catalog.conventions.mapped scope.entity).filter (isInserted keys)
      let generated := (keys.filter (·.generated)).map (·.property)
      if inserted = [] then
        throw (.noWritableColumns scope.entity.name "insert")
      return .insert
        ⟨scope.spelledTable, inserted.map (scope.columnIn memory),
          inserted.map fun property => scope.dialect.marker property.name,
          generated.map (scope.columnIn memory)⟩
  | .update => do
      let keys ← scope.catalog.resolvedKeys scope.entity
      let updated := (scope.catalog.conventions.mapped scope.entity).filter (isUpdated keys)
      if updated = [] then
        throw (.noWritableColumns scope.entity.name "update")
      return .update scope.spelledTable (scope.equationsIn memory updated)
        (← scope.keyEquationsIn memory)
  | .delete => do return .delete scope.spelledTable (some (← scope.keyEquationsIn memory))
  | .deleteAll => return .delete scope.spelledTable none
  | .count => return .count scope.spelledTable
  | .any => return .any scope.spelledTable
  | .projectAll =>
      return .project scope.spelledTable
        ((scope.catalog.conventions.mapped scope.entity).map (scope.columnIn memory))
  | .getWith related => do
      let join ← scope.joinIn memory related
      return .selectJoined join (some (← scope.qualifiedKeyEquationsIn memory scope.spelledTable))
  | .getAllWith related => do return .selectJoined (← scope.joinIn memory related) none

section Resolved

variable {scope memory} {keys : List KeyProperty}

theorem described_insert (resolved : scope.catalog.resolvedKeys scope.entity = .ok keys)
    {inserted : List Property}
    (written : (scope.catalog.conventions.mapped scope.entity).filter (isInserted keys) =
      inserted) :
    scope.described memory .insert =
      if inserted = [] then .error (.noWritableColumns scope.entity.name "insert")
      else .ok (.insert
        ⟨scope.spelledTable, inserted.map (scope.columnIn memory),
          inserted.map fun property => scope.dialect.marker property.name,
          ((keys.filter (·.generated)).map (·.property)).map (scope.columnIn memory)⟩) := by
  rw [described, resolved, ← written]
  change (if _ = [] then _ else _) = _
  split <;> rfl

theorem described_update (resolved : scope.catalog.resolvedKeys scope.entity = .ok keys)
    {updated : List Property}
    (written : (scope.catalog.conventions.mapped scope.entity).filter (isUpdated keys) =
      updated) :
    scope.described memory .update =
      if updated = [] then .error (.noWritableColumns scope.entity.name "update")
      else .ok (.update scope.spelledTable (scope.equationsIn memory updated)
        (scope.equationsIn memory (keys.map (·.property)))) := by
  rw [described, resolved, keyEquationsIn, resolved, ← written]
  change (if _ = [] then _ else _) = _
  split <;> rfl

end Resolved

end Scope

/-- A scope whose entity and dialect the vocabulary tells apart. -/
structure Scope.SpokenOf (scope : Scope) (vocabulary : Vocabulary) : Prop where
  apart : vocabulary.ToldApart
  known : scope.entity ∈ vocabulary.entities
  spoken : scope.dialect ∈ vocabulary.dialects

namespace Scope

open Recall

variable {scope : Scope} {vocabulary : Vocabulary} {fact : Memory → Prop} {related : Entity}

theorem SpokenOf.withEntity (spokenOf : scope.SpokenOf vocabulary)
    (relatedKnown : related ∈ vocabulary.entities) :
    { scope with entity := related : Scope }.SpokenOf vocabulary :=
  ⟨spokenOf.apart, relatedKnown, spokenOf.spoken⟩

section Persistent

variable (persistent : Memory.Persistent fact)

include persistent

theorem follows_columns (properties : List Property) :
    Follows (scope.catalog.Relies vocabulary fact) (scope.columns properties)
      fun later => properties.map (scope.columnIn later) :=
  follows_mapM fun property _ => Catalog.follows_column persistent _ _ property

theorem follows_assignments (properties : List Property) :
    Follows (scope.catalog.Relies vocabulary fact) (scope.assignments properties)
      fun later => scope.equationsIn later properties :=
  follows_mapM fun property _ =>
    (Catalog.follows_column persistent _ _ property).bind fun column =>
      follows_pure (Equation.mk column (scope.dialect.marker property.name))

variable (spokenOf : scope.SpokenOf vocabulary)

include spokenOf

theorem SpokenOf.follows_table :
    Attempt.Follows (scope.catalog.Relies vocabulary fact) scope.table
      fun _ => .ok scope.spelledTable :=
  Attempt.follows_lift
    (Catalog.follows_table persistent spokenOf.apart spokenOf.known spokenOf.spoken)

theorem SpokenOf.follows_keys :
    Attempt.Follows (scope.catalog.Relies vocabulary fact) scope.keys
      fun _ => scope.catalog.resolvedKeys scope.entity :=
  Catalog.follows_keys persistent spokenOf.apart spokenOf.known

theorem SpokenOf.follows_mapped :
    Attempt.Follows (scope.catalog.Relies vocabulary fact) scope.mapped
      fun _ => .ok (scope.catalog.conventions.mapped scope.entity) :=
  Attempt.follows_lift (Catalog.follows_mapped persistent spokenOf.apart spokenOf.known)

theorem SpokenOf.follows_keyEquations :
    Attempt.Follows (scope.catalog.Relies vocabulary fact) scope.keyEquations
      scope.keyEquationsIn :=
  (spokenOf.follows_keys persistent).bind fun keys =>
    Attempt.follows_lift (follows_assignments persistent (keys.map (·.property)))

theorem SpokenOf.follows_qualifiedKeyEquations (table : String) :
    Attempt.Follows (scope.catalog.Relies vocabulary fact) (scope.qualifiedKeyEquations table)
      fun later => scope.qualifiedKeyEquationsIn later table :=
  (spokenOf.follows_keyEquations persistent).bind fun equations =>
    Attempt.follows_pure (equations.map fun equation =>
      { equation with left := qualified table equation.left })

theorem SpokenOf.follows_keyColumns :
    Attempt.Follows (scope.catalog.Relies vocabulary fact) scope.keyColumns
      scope.keyColumnsIn :=
  (spokenOf.follows_keys persistent).bind fun keys =>
    Attempt.follows_lift (follows_columns persistent (keys.map (·.property)))

theorem SpokenOf.follows_firstKeyColumn (relatedKnown : related ∈ vocabulary.entities) :
    Attempt.Follows (scope.catalog.Relies vocabulary fact) (scope.firstKeyColumn related)
      { scope with entity := related : Scope }.firstKeyColumnIn :=
  ((spokenOf.withEntity relatedKnown).follows_keyColumns persistent).bind fun columns =>
    Attempt.follows_pure (columns.head?.getD "")

theorem SpokenOf.follows_join (relatedKnown : related ∈ vocabulary.entities) :
    Attempt.Follows (scope.catalog.Relies vocabulary fact) (scope.join related)
      fun later => scope.joinIn later related := by
  have relatedSpokenOf := spokenOf.withEntity relatedKnown
  refine (Catalog.follows_foreignKey persistent spokenOf.apart spokenOf.known
    relatedKnown).bind fun link => ?_
  have column (source : Entity) (property : Property) :=
    Attempt.follows_lift (@Catalog.follows_column scope.catalog vocabulary fact persistent source
      scope.dialect property)
  obtain ⟨property, relation⟩ := link
  cases relation with
  | oneToOne =>
      have joined :=
        (spokenOf.follows_table persistent).bind fun table =>
        (relatedSpokenOf.follows_table persistent).bind fun relatedTable =>
        (column scope.entity property).bind fun linking =>
        (spokenOf.follows_firstKeyColumn persistent relatedKnown).bind fun key =>
          Attempt.follows_pure (Join.mk table relatedTable
            ⟨qualified table linking, qualified relatedTable key⟩)
      exact joined
  | oneToMany =>
      have joined :=
        (spokenOf.follows_table persistent).bind fun table =>
        (relatedSpokenOf.follows_table persistent).bind fun relatedTable =>
        (spokenOf.follows_firstKeyColumn persistent spokenOf.known).bind fun key =>
        (column related property).bind fun linking =>
          Attempt.follows_pure (Join.mk table relatedTable
            ⟨qualified table key, qualified relatedTable linking⟩)
      exact joined

end Persistent

end Scope

namespace FixedStatement

open Recall

/-- A text that is stored is that of a statement on the vocabulary, as it is described now and
ever after. -/
def Grounded (catalog : Catalog) (vocabulary : Vocabulary) (memory : Memory) : Prop :=
  ∀ key sql, memory.statements.find? key = some sql →
    ∃ scope : Scope, scope.catalog = catalog ∧ scope.SpokenOf vocabulary ∧
      ∃ statement : FixedStatement, statement.Within vocabulary ∧ statement.key scope = key ∧
        ∀ later, memory.Grows later →
          (scope.described later statement).map (Statement.text scope.dialect) = .ok sql

theorem grounded_persistent (catalog : Catalog) (vocabulary : Vocabulary) :
    Memory.Persistent (Grounded catalog vocabulary) := by
  intro memory after grows same grounded key sql found
  rw [same] at found
  obtain ⟨scope, sameCatalog, spokenOf, statement, within, isKey, described⟩ :=
    grounded key sql found
  exact ⟨scope, sameCatalog, spokenOf, statement, within, isKey,
    fun later grown => described later (grows.trans grown)⟩

theorem grounded_new (catalog : Catalog) (vocabulary : Vocabulary) (events : List Event) :
    Grounded catalog vocabulary { events } := by
  rintro key sql ⟨⟩

variable {scope : Scope} {vocabulary : Vocabulary} {statement : FixedStatement}

theorem described_alike (catalog : Catalog) (entity : Entity) (dialect : Dialect)
    (description : String) (memory : Memory) (statement : FixedStatement) :
    (Scope.described ⟨catalog, entity, { dialect with description }⟩ memory statement).map
        (Statement.text { dialect with description }) =
      (Scope.described ⟨catalog, entity, dialect⟩ memory statement).map
        (Statement.text dialect) := by
  have sameText : Statement.text { dialect with description } = Statement.text dialect := by
    funext built
    cases built <;> rfl
  rw [sameText]
  cases statement <;> rfl

/-- A text that is stored for a statement is the one that is described. -/
theorem Grounded.described_eq {memory later : Memory} {sql : String}
    (grounded : Grounded scope.catalog vocabulary memory) (spokenOf : scope.SpokenOf vocabulary)
    (statementWithin : statement.Within vocabulary) (grown : memory.Grows later)
    (found : memory.statements.find? (statement.key scope) = some sql) :
    (scope.described later statement).map (Statement.text scope.dialect) = .ok sql := by
  -- A key has the path and the kind of a statement and no entity; the vocabulary tells them apart.
  obtain ⟨⟨catalog, entity, dialect⟩, rfl, other, statement', within, sameKey, described⟩ :=
    grounded _ sql found
  have samePath := congrArg StatementKey.path sameKey
  have sameDialect := congrArg StatementKey.dialect sameKey
  obtain rfl := spokenOf.apart.paths entity other.known scope.entity spokenOf.known samePath
  obtain rfl := eq_of_key spokenOf.apart within statementWithin
    (congrArg StatementKey.kind sameKey) (congrArg StatementKey.related sameKey)
  have alike := spokenOf.apart.dialects dialect other.spoken scope.dialect spokenOf.spoken
    sameDialect
  have described' := described later grown
  rwa [alike, described_alike] at described'

/-- Storing a text as described keeps the stored texts as they are described. -/
theorem Grounded.insertIfNew {memory : Memory} {sql : String}
    (grounded : Grounded scope.catalog vocabulary memory) (spokenOf : scope.SpokenOf vocabulary)
    (statementWithin : statement.Within vocabulary)
    (notFound : memory.statements.find? (statement.key scope) = none)
    (described : ∀ later, memory.Grows later →
      (scope.described later statement).map (Statement.text scope.dialect) = .ok sql) :
    Grounded scope.catalog vocabulary { memory with
      statements := memory.statements.insertIfNew (statement.key scope) sql } := by
  intro key stored found
  by_cases same : key = statement.key scope
  · subst same
    rw [Memo.find?_insertIfNew_self, Memo.findD_of_not_found notFound] at found
    obtain rfl := Option.some.inj found
    exact ⟨scope, rfl, spokenOf, statement, statementWithin, rfl, described⟩
  · rw [Memo.find?_insertIfNew_of_ne _ _ same] at found
    exact grounded key stored found

/-- A text that is worked out as described is remembered as described. -/
theorem follows_findOrTryCompute {compute : Attempt String}
    (spokenOf : scope.SpokenOf vocabulary) (statementWithin : statement.Within vocabulary)
    (computes : ∀ fact, Memory.Persistent fact →
      Attempt.Follows (scope.catalog.Relies vocabulary fact) compute
        fun later => (scope.described later statement).map (Statement.text scope.dialect)) :
    Attempt.Follows (scope.catalog.Relies vocabulary (Grounded scope.catalog vocabulary))
      (Memory.statementSlot.findOrTryCompute (statement.key scope) compute)
      fun later => (scope.described later statement).map (Statement.text scope.dialect) := by
  rintro memory ⟨reliable, grounded⟩
  cases found : memory.statements.find? (statement.key scope) with
  | some stored =>
      rw [MemoSlot.findOrTryCompute_run_of_find? found]
      exact ⟨Memory.Grows.refl memory, ⟨reliable, grounded⟩, fun later grown =>
        (grounded.described_eq spokenOf statementWithin grown found).symm⟩
  | none =>
      -- The work reads names and roles only, so the text is still not stored when it is done.
      have persistent : Memory.Persistent fun other => other.statements = memory.statements :=
        fun _ _ _ same unread => same.trans unread
      obtain ⟨grows, ⟨reliable', unread⟩, answers⟩ := computes _ persistent memory ⟨reliable, rfl⟩
      rcases computed : compute.run.run memory with ⟨outcome, after⟩
      rw [computed] at grows reliable' unread answers
      have grounded' := grounded_persistent _ _ _ _ grows unread grounded
      cases outcome with
      | error failure =>
          rw [MemoSlot.findOrTryCompute_run_of_not_found found computed]
          exact ⟨grows, ⟨reliable', grounded'⟩, answers⟩
      | ok sql =>
          have notFound : after.statements.find? (statement.key scope) = none := by
            rw [unread, found]
          have ran : (Memory.statementSlot.findOrTryCompute (statement.key scope) compute).run.run
              memory = _ := MemoSlot.findOrTryCompute_run_of_not_found found computed
          have stored : (Memory.statementSlot.read after).findD (statement.key scope) sql = sql :=
            Memo.findD_of_not_found notFound
          simp only [MemoSlot.store_run, stored] at ran
          rw [ran]
          have stays := grounded'.insertIfNew spokenOf statementWithin notFound
            fun later grown => (answers later grown).symm
          exact ⟨grows, ⟨{ reliable' with }, stays⟩, answers⟩

/-- Work whose result is remembered as the text of a statement follows the memory, if the
work does. -/
theorem follows_remembered {build : Attempt Statement} (spokenOf : scope.SpokenOf vocabulary)
    (statementWithin : statement.Within vocabulary)
    (textEq : statement.text scope = scope.remembered statement.kind statement.related? build)
    (builds : ∀ fact, Memory.Persistent fact →
      Attempt.Follows (scope.catalog.Relies vocabulary fact) build
        fun later => scope.described later statement) :
    Attempt.Follows (scope.catalog.Relies vocabulary (Grounded scope.catalog vocabulary))
      (statement.text scope)
      fun later => (scope.described later statement).map (Statement.text scope.dialect) := by
  rw [textEq]
  refine follows_findOrTryCompute spokenOf statementWithin fun fact persistent => ?_
  have emitted (event : Event) :
      Attempt.Follows (scope.catalog.Relies vocabulary fact) (Recall.emit event)
        fun _ => .ok () :=
    Attempt.follows_lift (follows_emit (Catalog.Relies.record persistent) event)
  refine Recall.Follows.congr ((builds fact persistent).bind fun built =>
    (emitted (.statementBuilt statement.kind scope.dialect.name scope.entity.path
      (built.text scope.dialect))).bind fun _ =>
        Attempt.follows_pure (built.text scope.dialect)) fun later => ?_
  cases scope.described later statement <;> rfl

/-- The text of a statement is the one that the metadata describe. -/
theorem follows_text (spokenOf : scope.SpokenOf vocabulary)
    (statementWithin : statement.Within vocabulary) :
    Attempt.Follows (scope.catalog.Relies vocabulary (Grounded scope.catalog vocabulary))
      (statement.text scope)
      fun later => (scope.described later statement).map (Statement.text scope.dialect) := by
  have table {fact : Memory → Prop} (persistent : Memory.Persistent fact)
      (form : String → Statement) :
      Attempt.Follows (scope.catalog.Relies vocabulary fact) (do return form (← scope.table))
        fun _ => .ok (form scope.spelledTable) :=
    (spokenOf.follows_table persistent).bind fun table => Attempt.follows_pure (form table)
  have keyed {fact : Memory → Prop} (persistent : Memory.Persistent fact)
      (form : String → List Equation → Statement) :
      Attempt.Follows (scope.catalog.Relies vocabulary fact)
        (do
          let table ← scope.table
          return form table (← scope.keyEquations))
        fun later => do return form scope.spelledTable (← scope.keyEquationsIn later) :=
    (spokenOf.follows_table persistent).bind fun table =>
      (spokenOf.follows_keyEquations persistent).bind fun key =>
        Attempt.follows_pure (form table key)
  cases statement with
  | get =>
      exact follows_remembered spokenOf statementWithin rfl fun fact persistent =>
        keyed persistent fun table key => .select table (some key)
  | delete =>
      exact follows_remembered spokenOf statementWithin rfl fun fact persistent =>
        keyed persistent fun table key => .delete table (some key)
  | getAll =>
      exact follows_remembered spokenOf statementWithin rfl fun fact persistent =>
        table persistent (.select · none)
  | deleteAll =>
      exact follows_remembered spokenOf statementWithin rfl fun fact persistent =>
        table persistent (.delete · none)
  | count =>
      exact follows_remembered spokenOf statementWithin rfl fun fact persistent =>
        table persistent .count
  | any =>
      exact follows_remembered spokenOf statementWithin rfl fun fact persistent =>
        table persistent .any
  | insert =>
      refine follows_remembered spokenOf statementWithin rfl fun fact persistent => ?_
      refine (spokenOf.follows_keys persistent).bind fun keys => ?_
      have built :=
        (Attempt.follows_lift (Scope.follows_columns persistent
          ((keys.filter (·.generated)).map (·.property)))).bind fun generatedKeys =>
        (spokenOf.follows_mapped persistent).bind fun mapped =>
        (Attempt.follows_lift (Scope.follows_assignments persistent
          (mapped.filter (Scope.isInserted keys)))).bind fun assignments =>
          Attempt.follows_unless (assignments.isEmpty = true)
            (.noWritableColumns scope.entity.name "insert")
            (table persistent fun table => .insert
              ⟨table, assignments.map (·.left), assignments.map (·.right), generatedKeys⟩)
      -- The builder asks whether there are assignments, the description whether there are
      -- properties to assign.
      refine Recall.Follows.congr built fun later => ?_
      simp only [Except.bind, Scope.left_equationsIn, Scope.right_equationsIn]
      generalize (scope.catalog.conventions.mapped scope.entity).filter
        (Scope.isInserted keys) = inserted
      cases inserted <;> rfl
  | update =>
      refine follows_remembered spokenOf statementWithin rfl fun fact persistent => ?_
      refine (spokenOf.follows_keys persistent).bind fun keys => ?_
      have built :=
        (spokenOf.follows_mapped persistent).bind fun mapped =>
        (Attempt.follows_lift (Scope.follows_assignments persistent
          (mapped.filter (Scope.isUpdated keys)))).bind fun assignments =>
          Attempt.follows_unless (assignments.isEmpty = true)
            (.noWritableColumns scope.entity.name "update")
            (keyed persistent fun table key => .update table assignments key)
      refine Recall.Follows.congr built fun later => ?_
      simp only [Except.bind]
      generalize (scope.catalog.conventions.mapped scope.entity).filter
        (Scope.isUpdated keys) = updated
      cases updated <;> rfl
  | projectAll =>
      refine follows_remembered spokenOf statementWithin rfl fun fact persistent => ?_
      have built :=
        (spokenOf.follows_mapped persistent).bind fun mapped =>
        (Attempt.follows_lift (Scope.follows_columns persistent mapped)).bind fun columns =>
          table persistent (.project · columns)
      exact built
  | getWith related =>
      refine follows_remembered spokenOf statementWithin rfl fun fact persistent => ?_
      have built :=
        (spokenOf.follows_table persistent).bind fun table =>
        (spokenOf.follows_join persistent (statementWithin related rfl)).bind fun join =>
        (spokenOf.follows_qualifiedKeyEquations persistent table).bind fun key =>
          Attempt.follows_pure (Statement.selectJoined join (some key))
      exact built
  | getAllWith related =>
      refine follows_remembered spokenOf statementWithin rfl fun fact persistent => ?_
      have built := (spokenOf.follows_join persistent (statementWithin related rfl)).bind
        fun join => Attempt.follows_pure (Statement.selectJoined join none)
      exact built

end FixedStatement

end EntitySql
