import EntitySql.Proofs.Memory.Ensures
import EntitySql.Proofs.Memory.Recall
import EntitySql.Proofs.Vocabulary
import EntitySql.Registry.Session
import Mathlib.Data.List.Nodup

/-!
# Ignored properties

Statements on the rows of an entity read its key and its mapped properties.  An ignored property is
not mapped, so that they are the same without it unless it is part of the key.
-/

namespace EntitySql

/-! ## Entities that look alike -/

/-- The conventions tell nothing apart in the two entities but links to others. -/
structure Catalog.Likens (catalog : Catalog) (entity other : Entity) : Prop where
  name : other.name = entity.name
  path : other.path = entity.path
  table : catalog.conventions.table other = catalog.conventions.table entity
  keys : catalog.conventions.keys other = catalog.conventions.keys entity
  mapped : catalog.conventions.mapped other = catalog.conventions.mapped entity

namespace Catalog.Likens

variable {catalog : Catalog} {entity other : Entity} (likens : catalog.Likens entity other)
  (dialect : Dialect)

include likens

theorem table_eq : catalog.table other dialect = catalog.table entity dialect := by
  simp only [Catalog.table, likens.path, likens.table]

theorem column_eq : catalog.column other dialect = catalog.column entity dialect := by
  funext property
  simp only [Catalog.column, likens.path]

theorem columns_eq : catalog.columns other dialect = catalog.columns entity dialect := by
  funext properties
  rw [Catalog.columns, Catalog.columns, likens.column_eq]

theorem keys_eq : catalog.keys other = catalog.keys entity := by
  simp only [Catalog.keys, likens.path, likens.keys, likens.name]

theorem keyColumns_eq : catalog.keyColumns other dialect = catalog.keyColumns entity dialect := by
  rw [Catalog.keyColumns, Catalog.keyColumns, likens.keys_eq, likens.columns_eq]

theorem mapped_eq : catalog.mapped other = catalog.mapped entity := by
  rw [Catalog.mapped, Catalog.mapped, likens.path, likens.mapped]

theorem assignments_eq :
    Scope.assignments ⟨catalog, other, dialect⟩ = Scope.assignments ⟨catalog, entity, dialect⟩ := by
  have assignment : Scope.assignment ⟨catalog, other, dialect⟩ =
      Scope.assignment ⟨catalog, entity, dialect⟩ := by
    funext property
    simp only [Scope.assignment, Scope.column, likens.column_eq]
  funext properties
  rw [Scope.assignments, Scope.assignments, assignment]

theorem keyEquations_eq :
    Scope.keyEquations ⟨catalog, other, dialect⟩ =
      Scope.keyEquations ⟨catalog, entity, dialect⟩ := by
  simp only [Scope.keyEquations, Scope.keys, likens.keys_eq, likens.assignments_eq]

theorem remembered_eq (kind : StatementKind) (build : Attempt Statement) :
    Scope.remembered ⟨catalog, other, dialect⟩ kind none build =
      Scope.remembered ⟨catalog, entity, dialect⟩ kind none build := by
  simp only [Scope.remembered, likens.path]

/-- Statements without a related entity are the same. -/
theorem text_eq {statement : FixedStatement} (alone : statement.related? = none) :
    statement.text ⟨catalog, other, dialect⟩ = statement.text ⟨catalog, entity, dialect⟩ := by
  cases statement with
  | get =>
      simp only [FixedStatement.text, Scope.get, Scope.table, likens.table_eq,
        likens.keyEquations_eq, likens.remembered_eq]
  | getAll =>
      simp only [FixedStatement.text, Scope.getAll, Scope.table, likens.table_eq,
        likens.remembered_eq]
  | insert =>
      simp only [FixedStatement.text, Scope.insert, Scope.table, Scope.keys, Scope.columns,
        Scope.mapped, likens.table_eq, likens.keys_eq, likens.columns_eq, likens.mapped_eq,
        likens.assignments_eq, likens.remembered_eq, likens.name]
  | update =>
      simp only [FixedStatement.text, Scope.update, Scope.table, Scope.keys, Scope.mapped,
        likens.table_eq, likens.keys_eq, likens.mapped_eq, likens.assignments_eq,
        likens.keyEquations_eq, likens.remembered_eq, likens.name]
  | delete =>
      simp only [FixedStatement.text, Scope.delete, Scope.table, likens.table_eq,
        likens.keyEquations_eq, likens.remembered_eq]
  | deleteAll =>
      simp only [FixedStatement.text, Scope.deleteAll, Scope.table, likens.table_eq,
        likens.remembered_eq]
  | count =>
      simp only [FixedStatement.text, Scope.count, Scope.table, likens.table_eq,
        likens.remembered_eq]
  | any =>
      simp only [FixedStatement.text, Scope.any, Scope.table, likens.table_eq,
        likens.remembered_eq]
  | projectAll =>
      simp only [FixedStatement.text, Scope.projectAll, Scope.table, Scope.columns, Scope.mapped,
        likens.table_eq, likens.columns_eq, likens.mapped_eq, likens.remembered_eq]
  | getWith related => cases alone
  | getAllWith related => cases alone

/-- So are pages of rows, which are in the order of the key. -/
theorem paged_eq (page : Page) :
    Scope.paged ⟨catalog, other, dialect⟩ page = Scope.paged ⟨catalog, entity, dialect⟩ page := by
  have head : Scope.getAll ⟨catalog, other, dialect⟩ = Scope.getAll ⟨catalog, entity, dialect⟩ :=
    @text_eq _ _ _ likens dialect .getAll rfl
  have render : Query.render { scope := ⟨catalog, other, dialect⟩, page := some page } =
      Query.render { scope := ⟨catalog, entity, dialect⟩, page := some page } := by
    simp only [Query.render, Query.tailText, Query.orderOrKeys, Query.orderText, Query.whereText,
      Scope.keyColumns, likens.keyColumns_eq, likens.name]
  have clauses (scope : Scope) (head : String) : scope.withQuery head (Edit.onPage page) = (do
      let tail ← Query.render { scope, page := some page }
      return (head ++ tail, {})) := by
    rfl
  simp only [Scope.paged, clauses, head, render]

end Catalog.Likens

/-! ## Entities without one of their properties -/

/-- The entity without one of its properties. -/
def Entity.without (entity : Entity) (property : Property) : Entity :=
  { entity with properties := entity.properties.erase property }

/-- What is found first is found first as long as it is not taken away. -/
theorem find?_erase_of_ne {properties : List Property} {property : Property}
    {wanted : Property → Bool} (differs : properties.find? wanted ≠ some property) :
    (properties.erase property).find? wanted = properties.find? wanted := by
  rw [← List.head?_filter, ← List.head?_filter, ← List.erase_filter]
  rw [← List.head?_filter] at differs
  cases found : properties.filter wanted with
  | nil => rfl
  | cons first others =>
      have keeps : first ≠ property := by
        simpa [found] using differs
      rw [List.erase_cons_tail (by simpa using keeps), List.head?_cons, List.head?_cons]

section

variable {entity : Entity} {property : Property}

theorem usualMapped_without (ignored : property.ignored = true) :
    usualMapped (entity.without property) = usualMapped entity := by
  have unmapped : property ∉ entity.properties.filter Property.isMapped := by
    simp [Property.isMapped, ignored]
  rw [usualMapped, Entity.without, ← List.erase_filter, List.erase_of_not_mem unmapped, usualMapped]

theorem usualKeys_of_marked (marked : entity.properties.filter (·.key) ≠ []) :
    usualKeys entity = .ok ((entity.properties.filter (·.key)).map Property.asKey) := by
  have notEmpty : (entity.properties.filter (·.key)).isEmpty = false :=
    List.isEmpty_eq_false_iff.mpr marked
  simp only [usualKeys, notEmpty]
  rfl

theorem usualKeys_of_unmarked (unmarked : entity.properties.filter (·.key) = []) :
    usualKeys entity =
      match entity.properties.find? fun other => Text.equalIgnoringCase other.name "id" with
      | some found => .ok [found.asKey]
      | none => .error (.keyNotFound entity.name) := by
  simp only [usualKeys, unmarked]
  rfl

/-- A property that is not part of the key is not needed to find it. -/
theorem usualKeys_without
    (apart : ∀ keys, usualKeys entity = .ok keys → ∀ key ∈ keys, key.property ≠ property) :
    usualKeys (entity.without property) = usualKeys entity := by
  have marks : (entity.without property).properties.filter (·.key) =
      entity.properties.filter (·.key) := by
    rw [Entity.without, ← List.erase_filter]
    apply List.erase_of_not_mem
    intro member
    exact apart _ (usualKeys_of_marked (List.ne_nil_of_mem member)) property.asKey
      (List.mem_map_of_mem member) rfl
  by_cases marked : entity.properties.filter (·.key) = []
  · have found : (entity.without property).properties.find? (fun other =>
          Text.equalIgnoringCase other.name "id") =
        entity.properties.find? fun other => Text.equalIgnoringCase other.name "id" := by
      refine find?_erase_of_ne fun found => ?_
      refine apart [property.asKey] ?_ property.asKey List.mem_cons_self rfl
      rw [usualKeys_of_unmarked marked, found]
    rw [usualKeys_of_unmarked marked, usualKeys_of_unmarked (marks.trans marked), found]
    rfl
  · rw [usualKeys_of_marked marked, usualKeys_of_marked (marks ▸ marked), marks]

end

namespace Catalog

variable {entity : Entity} {property : Property} (pluralize quoting : Bool)

theorem likens_without (ignored : property.ignored = true)
    (apart : ∀ keys, usualKeys entity = .ok keys → ∀ key ∈ keys, key.property ≠ property) :
    Likens ⟨Conventions.usual pluralize, quoting⟩ entity (entity.without property) where
  name := rfl
  path := rfl
  table := rfl
  keys := usualKeys_without apart
  mapped := usualMapped_without ignored

/-- Without one of its properties the key is another one, if there is one at all. -/
theorem resolvedKeys_without_ne (distinct : (entity.properties.map (·.name)).Nodup)
    {keys : List KeyProperty} {key : KeyProperty} (member : key ∈ keys) :
    resolvedKeys ⟨Conventions.usual pluralize, quoting⟩ (entity.without key.property) ≠
      .ok keys := by
  intro resolved
  obtain ⟨assigned', -⟩ := (resolvedKeys_eq_ok_iff _ _).mp resolved
  have owned : key.property ∈ (entity.without key.property).properties :=
    (Conventions.usual_keepTo pluralize ⟨[entity.without key.property], []⟩).keys _
      List.mem_cons_self keys assigned' key member
  exact (List.Nodup.of_map _ distinct).not_mem_erase owned

theorem keys_of_assigned {catalog : Catalog} {key : KeyProperty} {others : List KeyProperty}
    (assigned : catalog.conventions.keys entity = .ok (key :: others)) :
    catalog.keys entity = Memory.keySlot.findOrTryCompute entity.path do
      Recall.emit (.keysResolved entity.path (others.length + 1))
      return key :: others := by
  rw [keys, assigned]
  rfl

/-- The first answer to the request for a key. -/
theorem run_answer_keys (catalog : Catalog) (entity : Entity) :
    (((NameRequest.keys entity).answer catalog).run.run {}).1 =
      (catalog.resolvedKeys entity).map Answer.keys := by
  obtain ⟨events, ran⟩ := catalog.keys_run entity {}
  rw [NameRequest.answer, Attempt.run_return_fst, ran]
  rfl

/-- With the usual conventions the statements on the rows of an entity, and its key, are the same
without an ignored property, no matter what is remembered, exactly if that is not part of the
key. -/
theorem ignored_unseen_iff (distinct : (entity.properties.map (·.name)).Nodup)
    (ignored : property.ignored = true) :
    let catalog : Catalog := ⟨Conventions.usual pluralize, quoting⟩
    ((∀ (dialect : Dialect) (page : Page) (memory : Memory), ∀ request ∈
        [StatementRequest.fixed .get, .fixed .insert, .fixed .update, .fixed .delete,
          .fixed .projectAll, .paged page],
        (request.answer ⟨catalog, entity.without property, dialect⟩).run.run memory =
          (request.answer ⟨catalog, entity, dialect⟩).run.run memory) ∧
      ∀ memory : Memory,
        ((NameRequest.keys (entity.without property)).answer catalog).run.run memory =
          ((NameRequest.keys entity).answer catalog).run.run memory) ↔
      ∀ keys, usualKeys entity = .ok keys → ∀ key ∈ keys, key.property ≠ property := by
  intro catalog
  constructor
  · rintro ⟨-, sameKeys⟩ keys assigned key isKey rfl
    have resolved : catalog.resolvedKeys entity = .ok keys :=
      (catalog.resolvedKeys_eq_ok_iff entity).mpr ⟨assigned, List.ne_nil_of_mem isKey⟩
    have same := congrArg Prod.fst (sameKeys {})
    rw [run_answer_keys, run_answer_keys, resolved] at same
    apply resolvedKeys_without_ne pluralize quoting distinct isKey
    cases answered : catalog.resolvedKeys (entity.without key.property) with
    | error failure =>
        rw [answered] at same
        cases same
    | ok others =>
        rw [answered] at same
        cases same
        rfl
  · intro apart
    have likens : Likens catalog entity (entity.without property) :=
      likens_without pluralize quoting ignored apart
    constructor
    · intro dialect page memory request among
      have fixed (statement : FixedStatement) (alone : statement.related? = none) :
          (StatementRequest.fixed statement).answer ⟨catalog, entity.without property, dialect⟩ =
            (StatementRequest.fixed statement).answer ⟨catalog, entity, dialect⟩ := by
        rw [StatementRequest.answer, StatementRequest.answer, likens.text_eq dialect alone]
      simp only [List.mem_cons, List.not_mem_nil, or_false] at among
      rcases among with rfl | rfl | rfl | rfl | rfl | rfl
      · rw [fixed .get rfl]
      · rw [fixed .insert rfl]
      · rw [fixed .update rfl]
      · rw [fixed .delete rfl]
      · rw [fixed .projectAll rfl]
      · rw [StatementRequest.answer, StatementRequest.answer, likens.paged_eq dialect]
    · intro memory
      rw [NameRequest.answer, NameRequest.answer, likens.keys_eq]

/-- A remark that is ignored, between the key and a name. -/
theorem ignored_unseen_iff_of_remark :
    let remark : Property := { name := "Remark", type := .text, ignored := true }
    let person : Entity :=
      { name := "Person"
        path := "tests::Person"
        properties := [{ name := "Id", type := .int, key := true, generated := true }, remark,
          { name := "Name", type := .text }] }
    let scope (entity : Entity) : Scope :=
      ⟨⟨Conventions.usual true, true⟩, entity, DialectKind.sqlServer.dialect⟩
    let update : StatementRequest := .fixed .update
    (person.properties.map (·.name)).Nodup ∧ remark.ignored = true ∧
      remark ∈ person.properties ∧
      (update.answer (scope (person.without remark))).run.run {} =
        (update.answer (scope person)).run.run {} := by
  intro remark person scope update
  have distinct : (person.properties.map (·.name)).Nodup := by decide
  have apart : ∀ keys, usualKeys person = .ok keys → ∀ key ∈ keys, key.property ≠ remark := by
    intro keys assigned key member
    cases assigned.symm.trans (usualKeys_of_marked (by decide))
    rw [List.mem_singleton.mp member]
    decide
  have unseen := (@ignored_unseen_iff person remark true true distinct rfl).mpr apart
  exact ⟨distinct, rfl, by decide, unseen.1 _ ⟨1, 10⟩ {} update (by simp [update])⟩

/-- A property called `Id` is taken for the key although it is ignored. -/
theorem ignored_key_is_seen :
    let ignored : Property := { name := "Id", type := .int, ignored := true }
    let foo : Entity :=
      { name := "Foo"
        path := "app::Foo"
        properties := [ignored, { name := "Name", type := .text }] }
    let scope (entity : Entity) : Scope :=
      ⟨⟨Conventions.usual true, true⟩, entity, DialectKind.sqlServer.dialect⟩
    (foo.properties.map (·.name)).Nodup ∧ ignored ∈ foo.properties ∧
      ((Scope.get (scope foo)).run.run {}).1 = .ok "select * from [Foos] where [Id] = @Id" ∧
      ((Scope.get (scope (foo.without ignored))).run.run {}).1 = .error (.keyNotFound "Foo") := by
  intro ignored foo scope
  refine ⟨by decide, by decide, ?_, by decide +kernel⟩
  have called : Text.equalIgnoringCase ignored.name "id" = true := by
    have lower : "Id".toLower = "id".toLower := by
      rw [show "Id".toLower = "id" by decide +kernel, show "id".toLower = "id" by decide +kernel]
    exact beq_iff_eq.mpr lower
  have found : foo.properties.find? (fun other => Text.equalIgnoringCase other.name "id") =
      some ignored := List.find?_cons_of_pos called
  have assigned : (scope foo).catalog.conventions.keys foo = .ok [ignored.asKey] := by
    change usualKeys foo = _
    rw [usualKeys_of_unmarked rfl, found]
  have keys : (scope foo).keys = _ := keys_of_assigned assigned
  rw [Scope.get, Scope.keyEquations, keys]
  decide +kernel

end Catalog

end EntitySql
