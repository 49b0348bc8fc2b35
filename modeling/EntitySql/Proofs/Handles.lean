import EntitySql.Declaration.Mapping
import EntitySql.Proofs.Query.Refusals
import EntitySql.Proofs.Vocabulary

/-!
# Handles agree with properties

A declared structure yields a property for each of its fields and a handle for those
that have a column.  Both bear the field's name and type, so that whatever is built
from handles names properties that the entity has.
-/

namespace EntitySql

/-! ## Fields as they are declared -/

/-- The fields of a declared structure. -/
def Declaration.fields (declaration : Declaration) : List FieldDeclaration :=
  match declaration.definition.body with
  | .fields fields => fields
  | _ => []

namespace FieldDeclaration

/-- An attribute of the field has the option. -/
def has (option : ColumnOption) (field : FieldDeclaration) : Bool :=
  match columnSyntax.ofAttributes field.attributes with
  | .ok options => options.contains option
  | .error _ => false

/-- The field is mapped to a column: it is neither a navigation nor ignored. -/
def hasColumn (field : FieldDeclaration) : Bool :=
  !field.has .navigation && !field.has .ignore

end FieldDeclaration

/-- A flag is set by its own option only, however often and where it is written. -/
theorem ColumnOptions.flag_foldl {flag : ColumnOptions → Bool} {option : ColumnOption}
    (sets : ∀ options other, flag (adding options other) = (flag options || other == option))
    (written : List ColumnOption) (start : ColumnOptions) :
    flag (written.foldl adding start) = (flag start || written.contains option) := by
  induction written generalizing start with
  | nil => simp
  | cons first rest ih =>
      rw [List.foldl_cons, ih, sets, List.contains_cons, Bool.or_assoc, BEq.comm]

theorem ColumnOptions.navigation_adding (options : ColumnOptions) (option : ColumnOption) :
    (options.adding option).navigation = (options.navigation || option == .navigation) := by
  cases option <;> simp [adding]

theorem ColumnOptions.ignore_adding (options : ColumnOptions) (option : ColumnOption) :
    (options.adding option).ignore = (options.ignore || option == .ignore) := by
  cases option <;> simp [adding]

namespace FieldMapping

/-- A field keeps its identifier when it is mapped, and has a handle if it has a column. -/
theorem of_ofField {field : FieldDeclaration} {mapped : FieldMapping}
    (read : ofField field = .ok mapped) :
    mapped.identifier = field.identifier ∧ mapped.hasHandle = field.hasColumn := by
  cases written : columnSyntax.ofAttributes field.attributes with
  | error refusal =>
      rw [ofField, written] at read
      cases read
  | ok options =>
      have navigation : (options.foldl ColumnOptions.adding {}).navigation =
          field.has .navigation := by
        rw [ColumnOptions.flag_foldl ColumnOptions.navigation_adding, FieldDeclaration.has, written]
        rfl
      have ignore : (options.foldl ColumnOptions.adding {}).ignore = field.has .ignore := by
        rw [ColumnOptions.flag_foldl ColumnOptions.ignore_adding, FieldDeclaration.has, written]
        rfl
      -- The type of the property matters neither to the identifier nor to the handle.
      have mappedAs (type : PropertyType)
          (isMapped : (⟨field.identifier, field.type, type,
            options.foldl ColumnOptions.adding {}⟩ : FieldMapping) = mapped) :
          mapped.identifier = field.identifier ∧ mapped.hasHandle = field.hasColumn := by
        subst isMapped
        exact ⟨rfl, by rw [hasHandle, FieldDeclaration.hasColumn, navigation, ignore]⟩
      rw [ofField, written] at read
      change (if (options.foldl ColumnOptions.adding {}).navigation then _ else _) = _ at read
      split at read
      · cases related : field.type.navigationType? with
        | some type =>
            rw [related] at read
            exact mappedAs type (Except.ok.inj read)
        | none =>
            rw [related] at read
            cases read
      · exact mappedAs field.type.columnType (Except.ok.inj read)

/-- The fields with handles are those that were declared with a column. -/
theorem of_mapM_ofField {fields : List FieldDeclaration} {mapped : List FieldMapping}
    (read : fields.mapM ofField = .ok mapped) :
    mapped.map (·.identifier) = fields.map (·.identifier) ∧
      (mapped.filter hasHandle).map (·.identifier) =
        (fields.filter (·.hasColumn)).map (·.identifier) := by
  induction fields generalizing mapped with
  | nil =>
      cases read
      exact ⟨rfl, rfl⟩
  | cons field rest ih =>
      rw [List.mapM_cons] at read
      obtain ⟨head, first, read⟩ := bind_eq_ok_iff.mp read
      obtain ⟨tail, others, read⟩ := bind_eq_ok_iff.mp read
      cases read
      obtain ⟨identifier, handle⟩ := of_ofField first
      obtain ⟨identifiers, handles⟩ := ih others
      refine ⟨by rw [List.map_cons, List.map_cons, identifier, identifiers], ?_⟩
      rw [List.filter_cons, List.filter_cons, handle]
      cases field.hasColumn with
      | true => rw [if_pos rfl, if_pos rfl, List.map_cons, List.map_cons, identifier, handles]
      | false => exact handles

end FieldMapping

/-! ## Properties and handles -/

/-- The steps that complete a property leave its name and its type. -/
theorem PropertyMapping.property_name_type (mapping : PropertyMapping) :
    mapping.property.name = mapping.name ∧ mapping.property.type = mapping.type := by
  have kept (calls : List PropertyCall) (property : Property) :
      (calls.foldl PropertyCall.apply property).name = property.name ∧
        (calls.foldl PropertyCall.apply property).type = property.type := by
    induction calls generalizing property with
    | nil => exact ⟨rfl, rfl⟩
    | cons call rest ih =>
        obtain ⟨name, type⟩ := ih (call.apply property)
        rw [List.foldl_cons, name, type]
        cases call <;> exact ⟨rfl, rfl⟩
  exact kept mapping.calls _

/-- The handle that predicates hold. -/
def HandleMapping.handle (mapping : HandleMapping) : PropertyHandle :=
  ⟨mapping.name, mapping.type⟩

namespace EntityMapping

/-- The steps that complete an entity leave its properties. -/
theorem properties_entity (mapping : EntityMapping) (modulePath : String) :
    (mapping.entity modulePath).properties = mapping.properties.map PropertyMapping.property := by
  have kept (calls : List TableCall) (entity : Entity) :
      (calls.foldl TableCall.apply entity).properties = entity.properties := by
    induction calls generalizing entity with
    | nil => rfl
    | cons call rest ih =>
        rw [List.foldl_cons, ih]
        cases call <;> rfl
  exact kept mapping.tableCalls _

theorem names_entity (mapping : EntityMapping) (modulePath : String) :
    (mapping.entity modulePath).properties.map (·.name) =
      mapping.fields.map (·.identifier.name) := by
  rw [properties_entity, properties, List.map_map, List.map_map]
  exact List.map_congr_left fun field _ => (PropertyMapping.property_name_type _).1

/-- Each handle bears the name and the type of a property. -/
theorem exists_property_of_mem_handles {mapping : EntityMapping} (modulePath : String)
    {handle : HandleMapping} (member : handle ∈ mapping.handles) :
    ∃ property ∈ (mapping.entity modulePath).properties,
      property.name = handle.name ∧ property.type = handle.type := by
  obtain ⟨field, isField, rfl⟩ := List.mem_map.mp member
  refine ⟨field.property.property, ?_, PropertyMapping.property_name_type field.property⟩
  rw [properties_entity, properties]
  exact List.mem_map_of_mem (List.mem_map_of_mem (List.mem_filter.mp isField).1)

/-- A declaration that is accepted has fields, and each of them is mapped. -/
theorem fields_of_ofDeclaration {declaration : Declaration} {mapping : EntityMapping}
    (accepted : ofDeclaration declaration = .ok mapping) :
    declaration.fields.mapM FieldMapping.ofField = .ok mapping.fields := by
  obtain ⟨attributes, visibility, identifier, parameters, body, text⟩ := declaration
  simp only [ofDeclaration] at accepted
  split at accepted
  · cases accepted
  · cases body with
    | unnamedFields => cases accepted
    | alternatives => cases accepted
    | fields fields =>
        obtain ⟨options, -, accepted⟩ := bind_eq_ok_iff.mp accepted
        obtain ⟨mapped, read, accepted⟩ := bind_eq_ok_iff.mp accepted
        cases accepted
        exact read

end EntityMapping

/-! ## Calls that are built from handles -/

/-- A call that names properties only by these handles. -/
def QueryCall.BuiltFrom (handles : List PropertyHandle) : QueryCall → Prop
  | .startWhere predicate => ∀ handle ∈ predicate.handles, handle ∈ handles
  | .extendWhere _ predicate => ∀ handle ∈ predicate.handles, handle ∈ handles
  | .orderBy _ names => ∀ name ∈ names, ∃ handle ∈ handles, handle.name = name
  | .select names => ∀ name ∈ names, ∃ handle ∈ handles, handle.name = name
  | .onPage _ => True
  | .selectAll => True

/-- A call that is built from handles to properties of the entity names no other property. -/
theorem QueryCall.BuiltFrom.not_refusable {handles : List PropertyHandle} {query : Query}
    {call : QueryCall} (built : call.BuiltFrom handles)
    (known : ∀ handle ∈ handles, query.scope.entity.property? handle.name ≠ none)
    (entity property : String) : ¬ call.Refusable query (.unknownProperty entity property) := by
  intro refusable
  cases refusable with
  | first refusable =>
      cases refusable with
      | unknownProperty member unknown => exact known _ (built _ member) unknown
  | further refusable =>
      cases refusable with
      | unknownProperty member unknown => exact known _ (built _ member) unknown
  | ordering member unknown =>
      obtain ⟨handle, isHandle, rfl⟩ := built _ member
      exact known handle isHandle unknown
  | selection member unknown =>
      obtain ⟨handle, isHandle, rfl⟩ := built _ member
      exact known handle isHandle unknown

/-- The entity of a declaration has one property for each field, in order.  There is one
handle for each field with a column, in order; it agrees in name and type with exactly one
property, and tells boolean columns as the entity declares them.  Calls that are built from the
handles are never refused for an unknown property. -/
theorem EntityMapping.handles_agree_with_properties {declaration : Declaration}
    {mapping : EntityMapping} (accepted : ofDeclaration declaration = .ok mapping)
    (distinct : (declaration.fields.map (·.identifier.name)).Nodup) (modulePath : String) :
    (mapping.entity modulePath).properties.map (·.name) =
        declaration.fields.map (·.identifier.name) ∧
      mapping.handles.map (fun handle => (handle.field, handle.name)) =
        (declaration.fields.filter (·.hasColumn)).map
          (fun field => (field.identifier.text, field.identifier.name)) ∧
      (∀ handle ∈ mapping.handles, ∃ property ∈ (mapping.entity modulePath).properties,
        property.name = handle.name ∧ property.type = handle.type ∧
          (∀ other ∈ (mapping.entity modulePath).properties,
            other.name = handle.name → other = property) ∧
          ((Expression.column handle.handle).isBoolColumn = true ↔ property.type = .bool)) ∧
      ∀ query : Query, query.scope.entity = mapping.entity modulePath →
        ∀ call : QueryCall, call.BuiltFrom (mapping.handles.map (·.handle)) →
          ∀ (memory : Memory) (entity property : String),
            ((call.perform query).run memory).1.1 ≠ .error (.unknownProperty entity property) := by
  obtain ⟨identifiers, withColumn⟩ :=
    FieldMapping.of_mapM_ofField (fields_of_ofDeclaration accepted)
  have names : (mapping.entity modulePath).properties.map (·.name) =
      declaration.fields.map (·.identifier.name) := by
    have named := congrArg (List.map Identifier.name) identifiers
    rw [List.map_map, List.map_map] at named
    exact (mapping.names_entity modulePath).trans named
  have found {property : Property}
      (member : property ∈ (mapping.entity modulePath).properties) :
      (mapping.entity modulePath).property? property.name = some property :=
    Entity.property?_of_mem (by rwa [names]) member
  refine ⟨names, ?_, fun handle member => ?_, fun query sameEntity call built memory => ?_⟩
  · have named := congrArg
      (List.map fun identifier : Identifier => (identifier.text, identifier.name)) withColumn
    rw [List.map_map, List.map_map] at named
    rw [handles, List.map_map]
    exact named
  · obtain ⟨property, isProperty, sameName, sameType⟩ :=
      exists_property_of_mem_handles modulePath member
    refine ⟨property, isProperty, sameName, sameType, fun other isOther otherName => ?_, ?_⟩
    · have foundOther := found isOther
      rw [otherName, ← sameName, found isProperty] at foundOther
      exact (Option.some.inj foundOther).symm
    · rw [sameType]
      exact beq_iff_eq
  · have known : ∀ handle ∈ mapping.handles.map (·.handle),
        query.scope.entity.property? handle.name ≠ none := by
      intro handle member
      obtain ⟨written, isHandle, rfl⟩ := List.mem_map.mp member
      obtain ⟨property, isProperty, sameName, -⟩ :=
        exists_property_of_mem_handles modulePath isHandle
      have isFound := found isProperty
      rw [sameName] at isFound
      rw [sameEntity, HandleMapping.handle, isFound]
      exact Option.some_ne_none property
    intro entity property refused
    exact built.not_refusable known entity property
      ((QueryCall.ensures_perform_refusable query call memory trivial).1 _ refused)

/-- An attribute with options for a column. -/
def Attribute.column (tokens : List Token) : Attribute :=
  ⟨⟨false, [⟨"column", false⟩]⟩, .tokens tokens, "column(" ++ Token.textAll tokens ++ ")"⟩

/-- A structure whose fields are a raw name, an optional truth value, a navigation that is said
to be one behind its foreign key, and an ignored label. -/
def Declaration.account : Declaration where
  attributes := []
  visibility := "pub"
  definition :=
    { identifier := ⟨"Account", false⟩
      parameters := .none
      body := .fields
        [ ⟨[.column [.word ⟨"key", false⟩]], "pub", ⟨"ref", true⟩,
            .path "String" ⟨"String", false⟩ []⟩,
          ⟨[], "pub", ⟨"active", false⟩,
            .path "Option<bool>" ⟨"Option", false⟩ [.path "bool" ⟨"bool", false⟩ []]⟩,
          ⟨[.column [.word ⟨"foreign_key", false⟩, .sign '=' false,
                .literal "\"owner_id\"" (.text "owner_id")],
              .column [.word ⟨"navigation", false⟩]], "pub", ⟨"owner", false⟩,
            .path "User" ⟨"User", false⟩ []⟩,
          ⟨[.column [.word ⟨"ignore", false⟩]], "pub", ⟨"label", false⟩,
            .path "String" ⟨"String", false⟩ []⟩ ]
      text := "" }

theorem EntityMapping.handles_agree_with_properties_of_account :
    ∃ mapping, ofDeclaration .account = .ok mapping ∧
      (Declaration.account.fields.map (·.identifier.name)).Nodup ∧
      (mapping.entity "bank").properties.map (·.name) = ["ref", "active", "owner", "label"] ∧
      mapping.handles.map (fun handle => (handle.field, handle.name)) =
        [("r#ref", "ref"), ("active", "active")] ∧
      (∀ handle ∈ mapping.handles, ∃ property ∈ (mapping.entity "bank").properties,
        property.name = handle.name ∧ property.type = handle.type) ∧
      ∀ query : Query, query.scope.entity = mapping.entity "bank" →
        ∀ (memory : Memory) (entity property : String),
          (((QueryCall.startWhere (.column ⟨"active", .bool⟩)).perform query).run memory).1.1 ≠
            .error (.unknownProperty entity property) := by
  have distinct : (Declaration.account.fields.map (·.identifier.name)).Nodup := by decide
  obtain ⟨mapping, accepted⟩ : ∃ mapping, ofDeclaration .account = .ok mapping := ⟨_, rfl⟩
  obtain ⟨names, handles, agree, known⟩ :=
    handles_agree_with_properties accepted distinct "bank"
  refine ⟨mapping, accepted, distinct, names, handles, ?_, ?_⟩
  · intro handle member
    obtain ⟨property, isProperty, sameName, sameType, -⟩ := agree handle member
    exact ⟨property, isProperty, sameName, sameType⟩
  · intro query sameEntity
    refine known query sameEntity _ fun handle member => ?_
    obtain rfl := List.mem_singleton.mp member
    have isHandle : (⟨"active", .bool⟩ : PropertyHandle) ∈ mapping.handles.map (·.handle) := by
      cases accepted
      decide
    exact isHandle

end EntitySql
