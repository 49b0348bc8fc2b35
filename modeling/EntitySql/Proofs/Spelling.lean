import EntitySql.Proofs.Query.Echoes
import EntitySql.Proofs.Transparency

/-!
# Dialects and quoting change only the spelling

A predicate is compiled before its columns are named.  What it binds and why it is refused
depend neither on the dialect nor on the quoting, and where two dialects mark parameters,
match patterns and spell columns alike, so does the text.
-/

namespace EntitySql

/-- The text of a condition depends on the dialect by its markers and its matches only. -/
theorem Condition.text_congr {first second : Dialect} (marker : first.marker = second.marker)
    (like : first.like = second.like) (condition : Condition String) :
    condition.text first = condition.text second := by
  induction condition with
  | column name => rfl
  | marker parameter => simp only [text, marker]
  | holds operand ih => simp only [text, ih]
  | always outcome => cases outcome <;> rfl
  | compare comparison left right ihLeft ihRight => simp only [text, ihLeft, ihRight]
  | nullTest operand expected ih => cases expected <;> simp only [text, ih]
  | compute arithmetic left right ihLeft ihRight => simp only [text, ihLeft, ihRight]
  | coalesce left right ihLeft ihRight => simp only [text, ihLeft, ihRight]
  | negative operand ih => simp only [text, ih]
  | not operand ih => simp only [text, ih]
  | connect connective left right ihLeft ihRight => simp only [text, ihLeft, ihRight]
  | group inner ih => simp only [text, ih]
  | asText operand ih => simp only [text, ih]
  | member operand parameters ih => simp only [text, ih, marker]
  | like operand parameter ih => simp only [text, ih, marker, like]

theorem Catalog.spelledColumn_of_not_quoting {catalog : Catalog} (plain : catalog.quoting = false)
    (dialect : Dialect) (property : Property) :
    catalog.spelledColumn dialect property = catalog.conventions.column property := by
  simp [spelledColumn, plain]

/-- The memory has the columns of the entity under the names that they are spelled with. -/
def Scope.KnowsColumns (scope : Scope) (memory : Memory) : Prop :=
  ∀ property, scope.entity.property? property.name = some property →
    scope.catalog.columnName scope.entity scope.dialect memory property =
      scope.catalog.spelledColumn scope.dialect property

namespace Scope

variable {scope : Scope} {memory : Memory}

theorem knowsColumns_of_faithful {vocabulary : Vocabulary}
    (faithful : scope.catalog.Faithful vocabulary memory)
    (known : scope.entity ∈ vocabulary.entities) (spoken : scope.dialect ∈ vocabulary.dialects) :
    scope.KnowsColumns memory := by
  intro property own
  rw [Catalog.columnName_eq_findD]
  exact (faithful.column scope.entity known scope.dialect spoken property own).findD_eq

theorem knowsColumns_new (scope : Scope) (events : List Event) :
    scope.KnowsColumns { events } :=
  knowsColumns_of_faithful (scope.catalog.faithful_new ⟨[scope.entity], [scope.dialect]⟩ events)
    List.mem_cons_self List.mem_cons_self

/-- Compiling a predicate leaves the columns known. -/
theorem KnowsColumns.condition (knows : scope.KnowsColumns memory) (parameters : Parameters)
    (predicate : Expression) :
    scope.KnowsColumns ((scope.condition parameters predicate).run memory).2 :=
  fun property own =>
    ((scope.echoes_condition parameters predicate memory).column property own).trans
      (knows property own)

end Scope

/-- After a session the columns of every entity in its vocabulary are known. -/
theorem Registry.knowsColumns_session {registry : Registry} {vocabulary : Vocabulary}
    (distinct : vocabulary.Distinct)
    (keepTo : registry.catalog.conventions.KeepTo vocabulary) {requests : List Request}
    (within : ∀ request ∈ requests, request.Within vocabulary) {entity : Entity}
    (known : entity ∈ vocabulary.entities) {dialect : Dialect}
    (spoken : dialect ∈ vocabulary.dialects) :
    Scope.KnowsColumns ⟨registry.catalog, entity, dialect⟩ (registry.session requests).2 :=
  Scope.knowsColumns_of_faithful (session_kept distinct keepTo within).2.1 known spoken

/-! ## Two scopes on one entity -/

namespace Scope

variable {first second : Scope}

/-- Two scopes on one entity bind the same values and refuse for the same reasons. -/
theorem run_condition_apart_from_names (sameEntity : first.entity = second.entity)
    (parameters : Parameters) (predicate : Expression) (memory memory' : Memory) :
    let one := ((first.condition parameters predicate).run memory).1
    let other := ((second.condition parameters predicate).run memory').1
    one.2 = other.2 ∧ one.1.isOk = other.1.isOk ∧
      ∀ failure, one.1 = .error failure ↔ other.1 = .error failure := by
  intro one other
  have oneEq : one = _ := first.run_condition parameters predicate memory
  have otherEq : other = _ := second.run_condition parameters predicate memory'
  rw [oneEq, otherEq, sameEntity]
  cases ((predicate.condition second.entity).run.run { parameters }).1 with
  | error refusal => exact ⟨rfl, rfl, fun failure => Iff.rfl⟩
  | ok condition =>
      refine ⟨rfl, rfl, fun failure => ⟨?_, ?_⟩⟩
      · rintro ⟨⟩
      · rintro ⟨⟩

/-- Where they mark, match and spell columns alike, they write the same text. -/
theorem run_condition_text (sameEntity : first.entity = second.entity)
    (marker : first.dialect.marker = second.dialect.marker)
    (like : first.dialect.like = second.dialect.like)
    (spelled : first.catalog.spelledColumn first.dialect =
      second.catalog.spelledColumn second.dialect)
    (parameters : Parameters) (predicate : Expression) {memory memory' : Memory}
    (knows : first.KnowsColumns memory) (knows' : second.KnowsColumns memory') :
    ((first.condition parameters predicate).run memory).1.1.map (Condition.text first.dialect) =
      ((second.condition parameters predicate).run memory').1.1.map
        (Condition.text second.dialect) := by
  rw [run_condition, run_condition, ← sameEntity]
  rcases ran : (predicate.condition first.entity).run.run { parameters }
    with ⟨failure | own, draft⟩
  · rfl
  · obtain ⟨-, ownColumns⟩ := Expression.balances_condition ran
    have sameNames :
        own.map (first.catalog.columnName first.entity first.dialect memory) =
          own.map (second.catalog.columnName first.entity second.dialect memory') := by
      refine Condition.map_congr fun property member => ?_
      have isOwn := ownColumns property member
      have isNamed := knows' property (sameEntity ▸ isOwn)
      rw [← sameEntity] at isNamed
      rw [knows property isOwn, isNamed, spelled]
    exact congrArg Except.ok
      ((Condition.text_congr marker like _).trans (congrArg _ sameNames))

end Scope

/-! ## The built-in dialects -/

namespace DialectKind

/-- Both quote identifiers by brackets. -/
def isSqlServer : DialectKind → Bool
  | .sqlServer => true
  | .sqlServerCompact => true
  | _ => false

theorem marker_dialect (kind : DialectKind) : kind.dialect.marker = atMarker := by
  cases kind <;> rfl

theorem like_dialect_congr {first second : DialectKind} (isFirst : first ≠ .postgres)
    (isSecond : second ≠ .postgres) : first.dialect.like = second.dialect.like := by
  cases first <;> cases second <;> first | rfl | contradiction

theorem quoteIdentifier_of_isSqlServer {kind : DialectKind} (isServer : kind.isSqlServer = true) :
    kind.dialect.quoteIdentifier = bracketed := by
  cases kind <;> first | rfl | cases isServer

theorem ne_postgres_of_isSqlServer {kind : DialectKind} (isServer : kind.isSqlServer = true) :
    kind ≠ .postgres := by
  rintro rfl
  cases isServer

end DialectKind

/-- Compiled for any two built-in dialects, with or without quoting, a predicate binds the same
values or is refused for the same reason with the same values bound.  For both dialects of the
first product quoted alike, and without quoting for all dialects but one, the text is the same as
well, as long as columns are not known by other names. -/
theorem Scope.condition_differs_in_spelling_only (conventions : Conventions) (entity : Entity)
    (parameters : Parameters) (predicate : Expression) (first second : DialectKind)
    (quoting quoting' : Bool) (memory memory' : Memory) :
    let firstScope : Scope := ⟨⟨conventions, quoting⟩, entity, first.dialect⟩
    let secondScope : Scope := ⟨⟨conventions, quoting'⟩, entity, second.dialect⟩
    let one := ((firstScope.condition parameters predicate).run memory).1
    let other := ((secondScope.condition parameters predicate).run memory').1
    one.2 = other.2 ∧ one.1.isOk = other.1.isOk ∧
      (∀ failure, one.1 = .error failure ↔ other.1 = .error failure) ∧
      (firstScope.KnowsColumns memory → secondScope.KnowsColumns memory' →
        (first.isSqlServer = true ∧ second.isSqlServer = true ∧ quoting = quoting' ∨
          first ≠ .postgres ∧ second ≠ .postgres ∧ quoting = false ∧ quoting' = false) →
        one.1.map (Condition.text first.dialect) =
          other.1.map (Condition.text second.dialect)) := by
  intro firstScope secondScope one other
  obtain ⟨values, succeed, fail⟩ := @run_condition_apart_from_names firstScope secondScope rfl
    parameters predicate memory memory'
  refine ⟨values, succeed, fail, fun knows knows' alike => ?_⟩
  have marker : first.dialect.marker = second.dialect.marker :=
    first.marker_dialect.trans second.marker_dialect.symm
  rcases alike with ⟨isFirst, isSecond, rfl⟩ | ⟨isFirst, isSecond, rfl, rfl⟩
  · have like := DialectKind.like_dialect_congr
      (DialectKind.ne_postgres_of_isSqlServer isFirst)
      (DialectKind.ne_postgres_of_isSqlServer isSecond)
    have spelled : firstScope.catalog.spelledColumn first.dialect =
        secondScope.catalog.spelledColumn second.dialect := by
      funext property
      rw [Catalog.spelledColumn, Catalog.spelledColumn,
        DialectKind.quoteIdentifier_of_isSqlServer isFirst,
        DialectKind.quoteIdentifier_of_isSqlServer isSecond]
    exact @run_condition_text firstScope secondScope rfl marker like spelled parameters predicate
      memory memory' knows knows'
  · have like := DialectKind.like_dialect_congr isFirst isSecond
    have spelled : firstScope.catalog.spelledColumn first.dialect =
        secondScope.catalog.spelledColumn second.dialect := by
      funext property
      rw [Catalog.spelledColumn_of_not_quoting rfl, Catalog.spelledColumn_of_not_quoting rfl]
    exact @run_condition_text firstScope secondScope rfl marker like spelled parameters predicate
      memory memory' knows knows'

/-- A match and a boolean column, in a memory that is fresh and in one that has the columns. -/
theorem Scope.condition_differs_in_spelling_only_of_match :
    let person : Entity :=
      { name := "Person"
        path := "tests::Person"
        properties := [{ name := "Name", type := .text }, { name := "Member", type := .bool }] }
    let conventions : Conventions :=
      ⟨Entity.name, Property.name, fun _ => .ok [], Entity.properties,
        fun source related => .error (.foreignKeyNotFound source.name related.name)⟩
    let predicate : Expression :=
      .binary (.connect .and)
        (.call .startsWith (.column ⟨"Name", .text⟩) [.captured (.scalar (.text "Jo"))])
        (.column ⟨"Member", .bool⟩)
    let server : Scope := ⟨⟨conventions, true⟩, person, DialectKind.sqlServer.dialect⟩
    let compact : Scope := ⟨⟨conventions, true⟩, person, DialectKind.sqlServerCompact.dialect⟩
    let after := ((compact.condition {} predicate).run {}).2
    server.KnowsColumns {} ∧ compact.KnowsColumns after ∧
      ((server.condition {} predicate).run {}).1.2 =
        ((compact.condition {} predicate).run after).1.2 ∧
      ((server.condition {} predicate).run {}).1.1.map (Condition.text server.dialect) =
        ((compact.condition {} predicate).run after).1.1.map (Condition.text compact.dialect) := by
  intro person conventions predicate server compact after
  have fresh : server.KnowsColumns {} := server.knowsColumns_new []
  have known : compact.KnowsColumns after := (compact.knowsColumns_new []).condition {} predicate
  obtain ⟨values, -, -, written⟩ := condition_differs_in_spelling_only conventions person {}
    predicate .sqlServer .sqlServerCompact true true {} after
  exact ⟨fresh, known, values, written fresh known (.inl ⟨rfl, rfl, rfl⟩)⟩

end EntitySql
