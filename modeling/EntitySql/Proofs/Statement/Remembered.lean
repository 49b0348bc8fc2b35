import EntitySql.Proofs.Memory.Faithful
import EntitySql.Registry.Session

/-!
# Remembered statements

Statements are built from names and roles only, so in a faithful memory each of them
has one text.  A text that is stored for a statement is the one that a new registry
would build.
-/

namespace EntitySql

/-- A scope in the vocabulary of a session. -/
structure Scope.Within (scope : Scope) (vocabulary : Vocabulary) : Prop where
  distinct : vocabulary.Distinct
  keepTo : scope.catalog.conventions.KeepTo vocabulary
  known : scope.entity ∈ vocabulary.entities
  spoken : scope.dialect ∈ vocabulary.dialects

namespace Scope

open Recall

variable {scope : Scope} {vocabulary : Vocabulary}
  {statements : Memo StatementKey String → Prop} {related : Entity}

theorem Within.withEntity (within : scope.Within vocabulary)
    (relatedKnown : related ∈ vocabulary.entities) :
    { scope with entity := related : Scope }.Within vocabulary :=
  ⟨within.distinct, within.keepTo, relatedKnown, within.spoken⟩

theorem Within.steady (within : scope.Within vocabulary) :
    scope.Steady (scope.catalog.Recalls vocabulary statements) where
  table := Catalog.settles_table within.distinct within.known within.spoken
  column _ own := Catalog.settles_column within.distinct within.known within.spoken own

theorem Within.settles_keys (within : scope.Within vocabulary) :
    Attempt.Settles (scope.catalog.Recalls vocabulary statements) scope.keys
      fun keys => scope.entity.Owns (keys.map (·.property)) :=
  Catalog.settles_keys within.distinct within.keepTo within.known

theorem Within.settles_mapped (within : scope.Within vocabulary) :
    Settles (scope.catalog.Recalls vocabulary statements) scope.mapped scope.entity.Owns :=
  Catalog.settles_mapped within.distinct within.keepTo within.known

theorem Within.settles_keyColumns (within : scope.Within vocabulary) :
    Attempt.Settles (scope.catalog.Recalls vocabulary statements) scope.keyColumns
      fun _ => True :=
  within.settles_keys.bind fun _ owns =>
    Attempt.settles_lift (within.steady.settles_columns owns)

theorem Within.settles_assignments (within : scope.Within vocabulary)
    {properties : List Property} (owns : scope.entity.Owns properties) :
    Settles (scope.catalog.Recalls vocabulary statements) (scope.assignments properties)
      fun _ => True := by
  have each (property : Property) (member : property ∈ properties) :
      Settles (scope.catalog.Recalls vocabulary statements) (scope.assignment property)
        fun _ => True :=
    (within.steady.column property (owns property member)).bind fun _ _ => settles_pure trivial
  exact (settles_mapM each).mono fun _ _ => trivial

theorem Within.settles_keyEquations (within : scope.Within vocabulary) :
    Attempt.Settles (scope.catalog.Recalls vocabulary statements) scope.keyEquations
      fun _ => True :=
  within.settles_keys.bind fun _ owns =>
    Attempt.settles_lift (within.settles_assignments owns)

theorem Within.settles_qualifiedKeyEquations (within : scope.Within vocabulary)
    (table : String) :
    Attempt.Settles (scope.catalog.Recalls vocabulary statements)
      (scope.qualifiedKeyEquations table) fun _ => True :=
  within.settles_keyEquations.bind fun _ _ => Attempt.settles_pure trivial

theorem Within.settles_firstKeyColumn (within : scope.Within vocabulary)
    (relatedKnown : related ∈ vocabulary.entities) :
    Attempt.Settles (scope.catalog.Recalls vocabulary statements)
      (scope.firstKeyColumn related) fun _ => True :=
  (within.withEntity relatedKnown).settles_keyColumns.bind fun _ _ =>
    Attempt.settles_pure trivial

theorem Within.settles_join (within : scope.Within vocabulary)
    (relatedKnown : related ∈ vocabulary.entities) :
    Attempt.Settles (scope.catalog.Recalls vocabulary statements) (scope.join related)
      fun _ => True := by
  have relatedWithin := within.withEntity relatedKnown
  refine (Catalog.settles_foreignKey within.distinct within.keepTo within.known
    relatedKnown).bind fun link own => ?_
  refine (Attempt.settles_lift within.steady.table).bind fun table _ => ?_
  refine (Attempt.settles_lift relatedWithin.steady.table).bind fun relatedTable _ => ?_
  unfold ForeignKey.holder at own
  split
  · next isOneToOne =>
      rw [isOneToOne] at own
      refine (Attempt.settles_lift (within.steady.column link.property own)).bind fun _ _ => ?_
      exact (within.settles_firstKeyColumn relatedKnown).bind fun _ _ =>
        Attempt.settles_pure trivial
  · next isOneToMany =>
      rw [isOneToMany] at own
      refine (within.settles_firstKeyColumn within.known).bind fun _ _ => ?_
      exact (Attempt.settles_lift (relatedWithin.steady.column link.property own)).bind
        fun _ _ => Attempt.settles_pure trivial

end Scope

/-- The related entity of a join is one of the vocabulary. -/
def FixedStatement.Within (statement : FixedStatement) (vocabulary : Vocabulary) : Prop :=
  ∀ related, statement.related? = some related → related ∈ vocabulary.entities

namespace FixedStatement

open Recall

/-- The key under which the text is remembered. -/
def key (scope : Scope) (statement : FixedStatement) : StatementKey :=
  ⟨statement.kind, scope.dialect.name, scope.entity.path, statement.related?.map (·.path)⟩

/-- The text of the statement where nothing is remembered. -/
def freshText (scope : Scope) (statement : FixedStatement) : Except Failure String :=
  ((statement.text scope).run.run {}).1

theorem text_alike (catalog : Catalog) (entity : Entity) (dialect : Dialect)
    (description : String) (statement : FixedStatement) :
    statement.text ⟨catalog, entity, { dialect with description }⟩ =
      statement.text ⟨catalog, entity, dialect⟩ := by
  cases statement <;> rfl

theorem eq_of_key {first second : FixedStatement} {vocabulary : Vocabulary}
    (apart : vocabulary.ToldApart) (within : first.Within vocabulary)
    (within' : second.Within vocabulary) (sameKind : first.kind = second.kind)
    (samePath : first.related?.map (·.path) = second.related?.map (·.path)) :
    first = second := by
  cases first <;> cases second <;> cases sameKind
  case getWith.getWith.refl related related' =>
      rw [apart.paths related (within related rfl) related' (within' related' rfl)
        (Option.some.inj samePath)]
  case getAllWith.getAllWith.refl related related' =>
      rw [apart.paths related (within related rfl) related' (within' related' rfl)
        (Option.some.inj samePath)]
  all_goals rfl

/-- The texts that are stored are those that would be built anew. -/
def Faithful (catalog : Catalog) (vocabulary : Vocabulary)
    (statements : Memo StatementKey String) : Prop :=
  ∀ entity ∈ vocabulary.entities, ∀ dialect ∈ vocabulary.dialects, ∀ statement,
    FixedStatement.Within statement vocabulary →
      statements.Agrees (statement.key ⟨catalog, entity, dialect⟩)
        (statement.freshText ⟨catalog, entity, dialect⟩)

variable {scope : Scope} {vocabulary : Vocabulary} {statement : FixedStatement}
  {statements : Memo StatementKey String}

theorem Faithful.insertOk (faithful : Faithful scope.catalog vocabulary statements)
    (within : scope.Within vocabulary) (statementWithin : statement.Within vocabulary) :
    Faithful scope.catalog vocabulary
      (statements.insertOk (statement.key scope) (statement.freshText scope)) := by
  intro entity known dialect spoken other otherWithin
  refine (faithful entity known dialect spoken other otherWithin).insertOk fun sameKey => ?_
  have samePath := congrArg StatementKey.path sameKey
  have sameDialect := congrArg StatementKey.dialect sameKey
  obtain rfl := within.distinct.paths entity known scope.entity within.known samePath
  have alike := within.distinct.dialects dialect spoken scope.dialect within.spoken sameDialect
  obtain rfl := eq_of_key within.distinct.toldApart otherWithin statementWithin
    (congrArg StatementKey.kind sameKey) (congrArg StatementKey.related sameKey)
  rw [freshText, freshText, alike, text_alike]

/-- Work whose result is remembered as the text of a statement has one result, if the work
has. -/
theorem settles_remembered {build : Attempt Statement} (within : scope.Within vocabulary)
    (statementWithin : statement.Within vocabulary)
    (textEq : statement.text scope = scope.remembered statement.kind statement.related? build)
    (builds : ∀ statements, Attempt.Settles (scope.catalog.Recalls vocabulary statements) build
      fun _ => True) :
    Attempt.Settles (scope.catalog.Recalls vocabulary (Faithful scope.catalog vocabulary))
      (statement.text scope) fun _ => True := by
  let compute : Attempt String := do
    let statement' ← build
    let sql := statement'.text scope.dialect
    Recall.emit (.statementBuilt statement.kind scope.dialect.name scope.entity.path sql)
    return sql
  have computes (statements : Memo StatementKey String → Prop) :
      Attempt.Settles (scope.catalog.Recalls vocabulary statements) compute fun _ => True :=
    (builds statements).bind fun _ _ =>
      (Attempt.settles_lift (settles_emit Catalog.Recalls.record _)).bind fun _ _ =>
        Attempt.settles_pure trivial
  have remembers : statement.text scope =
      Memory.statementSlot.findOrTryCompute (statement.key scope) compute := textEq
  let reply (memory : Memory) : Except Failure String :=
    memory.statements.findOr (statement.key scope) (compute.run.run memory).1
  have runs (memory : Memory) (faithful : scope.catalog.Faithful vocabulary memory) :
      ∃ middle, scope.catalog.Faithful vocabulary middle ∧
        (statement.text scope).run.run memory =
          (reply memory,
            { middle with
              statements := memory.statements.insertOk (statement.key scope) (reply memory) }) := by
    obtain ⟨kept, unread⟩ := (computes (· = memory.statements)).keeps ⟨faithful, rfl⟩
    have computed : compute.run.run memory =
        ((compute.run.run memory).1, (compute.run.run memory).2) := rfl
    obtain ⟨middle, isMiddle, ran⟩ := MemoSlot.findOrTryCompute_run
      Memory.statementSlot_lawful (statement.key scope) computed unread
    refine ⟨middle, ?_, remembers ▸ ran⟩
    rcases isMiddle with rfl | rfl
    · exact faithful
    · exact kept
  -- In a new memory nothing is remembered, so there the reply is what is computed.
  have newFaithful := scope.catalog.faithful_new vocabulary []
  have freshEq : statement.freshText scope = (compute.run.run {}).1 := by
    obtain ⟨middle, -, ran⟩ := runs {} newFaithful
    rw [freshText, ran]
    exact (Memo.agrees_empty (statement.key scope) (compute.run.run {}).1).findOr_eq
  refine ⟨statement.freshText scope, fun _ _ => trivial, ?_⟩
  rintro memory ⟨faithful, textsFaithful⟩
  obtain ⟨middle, middleFaithful, ran⟩ := runs memory faithful
  have sameOutcome : (compute.run.run memory).1 = statement.freshText scope := by
    rw [freshEq]
    exact (computes fun _ => True).run_eq ⟨faithful, trivial⟩ ⟨newFaithful, trivial⟩
  have agrees := textsFaithful scope.entity within.known scope.dialect within.spoken statement
    statementWithin
  have replyEq : reply memory = statement.freshText scope := by
    change memory.statements.findOr _ (compute.run.run memory).1 = _
    rw [sameOutcome, agrees.findOr_eq]
  rw [ran, replyEq]
  exact ⟨rfl, { middleFaithful with }, textsFaithful.insertOk within statementWithin⟩

/-- Each statement on the metadata has one text, joins included. -/
theorem settles_text (within : scope.Within vocabulary)
    (statementWithin : statement.Within vocabulary) :
    Attempt.Settles (scope.catalog.Recalls vocabulary (Faithful scope.catalog vocabulary))
      (statement.text scope) fun _ => True := by
  have table (statements : Memo StatementKey String → Prop) :
      Attempt.Settles (scope.catalog.Recalls vocabulary statements) scope.table fun _ => True :=
    Attempt.settles_lift within.steady.table
  cases statement with
  | get | delete =>
      refine settles_remembered within statementWithin rfl fun statements => ?_
      refine (table statements).bind fun _ _ => ?_
      exact within.settles_keyEquations.bind fun _ _ => Attempt.settles_pure trivial
  | getAll | deleteAll | count | any =>
      refine settles_remembered within statementWithin rfl fun statements => ?_
      exact (table statements).bind fun _ _ => Attempt.settles_pure trivial
  | insert =>
      refine settles_remembered within statementWithin rfl fun statements => ?_
      refine within.settles_keys.bind fun keys owns => ?_
      have ownsGenerated : scope.entity.Owns ((keys.filter (·.generated)).map (·.property)) := by
        intro property member
        obtain ⟨key, keyMember, rfl⟩ := List.mem_map.mp member
        exact owns _ (List.mem_map_of_mem (List.mem_filter.mp keyMember).1)
      refine (Attempt.settles_lift (within.steady.settles_columns ownsGenerated)).bind
        fun _ _ => ?_
      refine (Attempt.settles_lift within.settles_mapped).bind fun mapped ownsMapped => ?_
      have ownsInserted : scope.entity.Owns (mapped.filter (Scope.isInserted keys)) :=
        fun property member => ownsMapped property (List.mem_filter.mp member).1
      refine (Attempt.settles_lift (within.settles_assignments ownsInserted)).bind fun _ _ => ?_
      split
      · exact Attempt.settles_throw _
      · exact (table statements).bind fun _ _ => Attempt.settles_pure trivial
  | update =>
      refine settles_remembered within statementWithin rfl fun statements => ?_
      refine within.settles_keys.bind fun keys _ => ?_
      refine (Attempt.settles_lift within.settles_mapped).bind fun mapped ownsMapped => ?_
      have ownsUpdated : scope.entity.Owns (mapped.filter (Scope.isUpdated keys)) :=
        fun property member => ownsMapped property (List.mem_filter.mp member).1
      refine (Attempt.settles_lift (within.settles_assignments ownsUpdated)).bind fun _ _ => ?_
      split
      · exact Attempt.settles_throw _
      · refine (table statements).bind fun _ _ => ?_
        exact within.settles_keyEquations.bind fun _ _ => Attempt.settles_pure trivial
  | projectAll =>
      refine settles_remembered within statementWithin rfl fun statements => ?_
      refine (Attempt.settles_lift within.settles_mapped).bind fun mapped ownsMapped => ?_
      refine (Attempt.settles_lift (within.steady.settles_columns ownsMapped)).bind
        fun _ _ => ?_
      exact (table statements).bind fun _ _ => Attempt.settles_pure trivial
  | getWith related =>
      refine settles_remembered within statementWithin rfl fun statements => ?_
      refine (table statements).bind fun _ _ => ?_
      refine (within.settles_join (statementWithin related rfl)).bind fun _ _ => ?_
      exact (within.settles_qualifiedKeyEquations _).bind fun _ _ => Attempt.settles_pure trivial
  | getAllWith related =>
      refine settles_remembered within statementWithin rfl fun statements => ?_
      refine (within.settles_join (statementWithin related rfl)).bind fun _ _ => ?_
      exact Attempt.settles_pure trivial

end FixedStatement

end EntitySql
