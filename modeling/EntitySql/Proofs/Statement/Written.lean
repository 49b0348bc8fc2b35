import EntitySql.Proofs.Session
import Mathlib.Data.List.Nodup

/-!
# Written properties

An insertion writes the mapped properties that the database does not generate, and an update
those that are not part of the key either.  Columns and markers stand in the same order, and
what identifies a row or is fetched back is never written.
-/

namespace EntitySql

open EntitySql.Text

section Names

variable {entity : Entity} {properties : List Property} {property : Property}
  (distinct : (entity.properties.map (·.name)).Nodup)
  (own : property ∈ entity.properties)

include distinct own

theorem Entity.eq_of_name {other : Property} (otherOwn : other ∈ entity.properties)
    (sameName : other.name = property.name) : other = property :=
  List.inj_on_of_nodup_map distinct otherOwn own sameName

/-- Among properties of one entity, one that has the name of another is the other. -/
theorem Entity.any_name_eq_decide_mem (owns : properties ⊆ entity.properties) :
    (properties.any fun other => other.name == property.name) = decide (property ∈ properties) := by
  rw [Bool.eq_iff_iff, List.any_eq_true, decide_eq_true_iff]
  constructor
  · rintro ⟨other, member, sameName⟩
    rwa [← Entity.eq_of_name distinct own (owns member) (by simpa using sameName)]
  · intro member
    exact ⟨property, member, by simp⟩

end Names

/-- The properties of the key. -/
def keyProperties (keys : List KeyProperty) : List Property :=
  keys.map (·.property)

/-- The properties of the key that are fetched back from an insertion. -/
def generatedProperties (keys : List KeyProperty) : List Property :=
  (keys.filter (·.generated)).map (·.property)

theorem generatedProperties_subset (keys : List KeyProperty) :
    generatedProperties keys ⊆ keyProperties keys :=
  List.map_subset _ (List.filter_subset_self keys)

/-- The mapped properties that the database does not generate and that are none of the
others. -/
def writtenApartFrom (others mapped : List Property) : List Property :=
  mapped.filter fun property => property.generated = false ∧ property ∉ others

/-- What is written apart from more is part of what is written apart from less. -/
theorem writtenApartFrom_sublist {fewer others : List Property} (subset : fewer ⊆ others)
    (mapped : List Property) :
    (writtenApartFrom others mapped).Sublist (writtenApartFrom fewer mapped) := by
  refine List.monotone_filter_right mapped fun property apart => ?_
  simp only [decide_eq_true_eq] at apart ⊢
  exact ⟨apart.1, fun member => apart.2 (subset member)⟩

section Own

variable {entity : Entity} {keys : List KeyProperty} {mapped others : List Property}
  (distinct : (entity.properties.map (·.name)).Nodup)
  (ownMapped : mapped ⊆ entity.properties)

include distinct ownMapped

/-- Nothing that is written has the name of one of the others. -/
theorem name_ne_of_mem_writtenApartFrom (own : others ⊆ entity.properties) :
    ∀ property ∈ writtenApartFrom others mapped, ∀ other ∈ others,
      property.name ≠ other.name := by
  intro property written other member sameName
  obtain ⟨isMapped, apart⟩ := List.mem_filter.mp written
  obtain ⟨-, isNone⟩ := of_decide_eq_true apart
  rw [Entity.eq_of_name distinct (own member) (ownMapped isMapped) sameName] at isNone
  exact isNone member

variable (ownKeys : keyProperties keys ⊆ entity.properties)

include ownKeys

theorem filter_isInserted :
    mapped.filter (Scope.isInserted keys) =
      writtenApartFrom (generatedProperties keys) mapped := by
  refine List.filter_congr fun property member => ?_
  -- The test goes by the name of a property, which stands for the property in its entity.
  have named : (keys.any fun key => key.generated && key.property.name == property.name) =
      decide (property ∈ generatedProperties keys) := by
    rw [← Entity.any_name_eq_decide_mem distinct (ownMapped member)
      (List.Subset.trans (generatedProperties_subset keys) ownKeys), generatedProperties,
      List.any_map, List.any_filter]
    rfl
  rw [Scope.isInserted, named]
  cases property.generated <;> simp

theorem filter_isUpdated :
    mapped.filter (Scope.isUpdated keys) = writtenApartFrom (keyProperties keys) mapped := by
  refine List.filter_congr fun property member => ?_
  have named : (keys.any fun key => key.property.name == property.name) =
      decide (property ∈ keyProperties keys) := by
    rw [← Entity.any_name_eq_decide_mem distinct (ownMapped member) ownKeys, keyProperties,
      List.any_map]
    rfl
  rw [Scope.isUpdated, named]
  cases property.generated <;> simp

end Own

namespace Registry

variable {registry : Registry} {vocabulary : Vocabulary} {requests : List Request}
  {entity : Entity}

/-- In a session an insertion writes the mapped properties that are neither generated nor
generated keys, and an update those that are neither generated nor keys.  Either is refused
exactly where it has nothing to write, once there is a key. -/
theorem written_properties_partition (apart : vocabulary.ToldApart)
    (about : ∀ request ∈ requests, request.About vocabulary)
    (distinct : (entity.properties.map (·.name)).Nodup)
    (ownKeys : ∀ keys, registry.catalog.conventions.keys entity = .ok keys →
      keyProperties keys ⊆ entity.properties)
    (ownMapped : registry.catalog.conventions.mapped entity ⊆ entity.properties)
    (dialect : Dialect) :
    let scope := registry.statements entity dialect
    let memory := (registry.session requests).2
    (∀ statement sql, statement = .insert ∨ statement = .update →
      registry.Answers requests entity dialect statement sql →
        ∃ keys, registry.catalog.conventions.keys entity = .ok keys ∧ keys ≠ []) ∧
    ∀ keys, registry.catalog.conventions.keys entity = .ok keys → keys ≠ [] →
      let mapped := registry.catalog.conventions.mapped entity
      let inserted := writtenApartFrom (generatedProperties keys) mapped
      let updated := writtenApartFrom (keyProperties keys) mapped
      (∀ i : Nat, requests[i]? = some (.statement entity dialect (.fixed .insert)) →
        (registry.replies requests)[i]? = some
          (if inserted = [] then .error (.noWritableColumns entity.name "insert")
          else .ok (.text (dialect.insert
            ⟨scope.spelledTable, inserted.map (scope.columnIn memory),
              inserted.map fun property => dialect.marker property.name,
              (generatedProperties keys).map (scope.columnIn memory)⟩)))) ∧
      (∀ property ∈ inserted, ∀ key ∈ generatedProperties keys, property.name ≠ key.name) ∧
      (∀ i : Nat, requests[i]? = some (.statement entity dialect (.fixed .update)) →
        (registry.replies requests)[i]? = some
          (if updated = [] then .error (.noWritableColumns entity.name "update")
          else .ok (.text
            ("update " ++ scope.spelledTable ++ " set "
              ++ commaSeparated ((scope.equationsIn memory updated).map Equation.text)
              ++ (" where " ++ conjunctionText
                (scope.equationsIn memory (keyProperties keys))))))) ∧
      (∀ property ∈ updated, ∀ key ∈ keyProperties keys, property.name ≠ key.name) ∧
      updated.Sublist inserted := by
  intro scope memory
  refine ⟨?answered, fun keys assigned notEmpty => ?_⟩
  case answered =>
    intro statement sql writes answers
    obtain ⟨built, described, -⟩ := answers.exists_described apart about
    rcases writes with rfl | rfl
    all_goals
      obtain ⟨keys, resolved, -⟩ := bind_eq_ok_iff.mp described
      exact ⟨keys, (registry.catalog.resolvedKeys_eq_ok_iff entity).mp resolved⟩
  have own := ownKeys keys assigned
  have resolved : scope.catalog.resolvedKeys scope.entity = .ok keys :=
    (registry.catalog.resolvedKeys_eq_ok_iff entity).mpr ⟨assigned, notEmpty⟩
  -- Both statements are refused in one form, which the answer to a request keeps.
  have answer (written : List Property) (failure : Failure) (built : Statement) :
      (if written = [] then .error failure else .ok built : Except Failure Statement).map
          (fun built => Answer.text (built.text dialect)) =
        if written = [] then .error failure else .ok (.text (built.text dialect)) := by
    split <;> rfl
  refine ⟨fun i asked => ?inserts, ?notFetched, fun i asked => ?updates, ?notKeys, ?_⟩
  case inserts =>
    rw [reply_described apart about asked, Scope.described_insert resolved
      (filter_isInserted distinct ownMapped own), answer]
    rfl
  case updates =>
    rw [reply_described apart about asked, Scope.described_update resolved
      (filter_isUpdated distinct ownMapped own), answer]
    rfl
  case notFetched =>
    exact name_ne_of_mem_writtenApartFrom distinct ownMapped
      (List.Subset.trans (generatedProperties_subset keys) own)
  case notKeys => exact name_ne_of_mem_writtenApartFrom distinct ownMapped own
  · exact writtenApartFrom_sublist (generatedProperties_subset keys) _

/-- Of a product the database generates the revision and one part of the key.  A mark has
nothing but its key. -/
theorem written_properties_partition_of_product :
    let id : Property := { name := "Id", type := .int, key := true, generated := true }
    let code : Property := { name := "Code", type := .text, key := true }
    let label : Property := { name := "Label", type := .text }
    let revision : Property := { name := "Revision", type := .int, generated := true }
    let product : Entity :=
      { name := "Product", path := "shop::Product", properties := [id, code, label, revision] }
    let mark : Entity := { name := "Mark", path := "shop::Mark", properties := [id] }
    let registry := ({} : RegistryDraft).registry
    let postgres := DialectKind.postgres.dialect
    let requests : List Request :=
      [.statement product postgres (.fixed .insert),
        .statement product postgres (.fixed .update),
        .statement mark postgres (.fixed .update)]
    (registry.replies requests)[0]? = some (.ok (.text
      ("insert into \x22Products\x22 (\x22Code\x22, \x22Label\x22)"
        ++ " values (@Code, @Label) returning \x22Id\x22"))) ∧
    (registry.replies requests)[1]? = some (.ok (.text
      ("update \x22Products\x22 set \x22Label\x22 = @Label"
        ++ " where \x22Id\x22 = @Id and \x22Code\x22 = @Code"))) ∧
    (registry.replies requests)[2]? = some (.error (.noWritableColumns "Mark" "update")) := by
  intro id code label revision product mark registry postgres requests
  let vocabulary := Vocabulary.builtIn [product, mark]
  have distinct : vocabulary.Distinct := Vocabulary.distinct_builtIn (by decide) (by decide)
  have spoken : postgres ∈ vocabulary.dialects := Vocabulary.dialect_mem_builtIn .postgres
  have keepTo := Conventions.usual_keepTo true vocabulary
  have productKnown : product ∈ vocabulary.entities := by simp [vocabulary, Vocabulary.builtIn]
  have markKnown : mark ∈ vocabulary.entities := by simp [vocabulary, Vocabulary.builtIn]
  have about : ∀ request ∈ requests, request.About vocabulary := by
    simp only [requests, List.forall_mem_cons, List.not_mem_nil, false_implies, implies_true,
      and_true]
    exact ⟨(Request.within_fixed productKnown spoken (by simp [FixedStatement.related?])).about,
      (Request.within_fixed productKnown spoken (by simp [FixedStatement.related?])).about,
      (Request.within_fixed markKnown spoken (by simp [FixedStatement.related?])).about⟩
  have partition {entity : Entity} (known : entity ∈ vocabulary.entities) :=
    @written_properties_partition registry vocabulary requests entity distinct.toldApart about
      (distinct.properties entity known)
      (fun keys assigned property isKey => by
        obtain ⟨key, member, rfl⟩ := List.mem_map.mp isKey
        exact keepTo.keys entity known keys assigned key member)
      (keepTo.mapped entity known) postgres
  obtain ⟨-, ofProduct⟩ := partition productKnown
  obtain ⟨-, ofMark⟩ := partition markKnown
  obtain ⟨inserts, -, updates, -⟩ := ofProduct [⟨id, true⟩, ⟨code, false⟩] rfl (by decide)
  obtain ⟨-, -, refuses, -⟩ := ofMark [⟨id, true⟩] rfl (by decide)
  refine ⟨(inserts 0 rfl).trans ?_, (updates 1 rfl).trans ?_, (refuses 2 rfl).trans ?_⟩
  all_goals
    dsimp only [requests, registry, postgres, product, mark, id, code, label, revision]
    rfl

end Registry

end EntitySql
