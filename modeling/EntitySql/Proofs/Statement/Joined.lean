import EntitySql.Proofs.Session

/-!
# Joins

The rows of two entities meet where the linking property of one has the value of the key of
the other.  The linking property stands with the table of the entity that holds it, and the
first property of the key with the table of the entity that is referred to.
-/

namespace EntitySql

theorem Selection.text_all (table : String) :
    (Selection.mk none table).text = "select * from " ++ table := by
  have head : "select " ++ "*" ++ " from " = "select * from " := by decide
  exact congrArg (· ++ table) head

theorem Statement.text_select (dialect : Dialect) (table : String)
    (key : Option (List Equation)) :
    (select table key).text dialect = "select * from " ++ table ++ keyText key :=
  congrArg (· ++ keyText key) (Selection.text_all table)

namespace Scope

variable (scope : Scope) (memory : Memory)

/-- The column of a property of an entity, qualified by the table of that entity. -/
def qualifiedColumnIn (entity : Entity) (property : Property) : String :=
  let own : Scope := { scope with entity }
  qualified own.spelledTable (own.columnIn memory property)

/-- The equation on which the rows meet, with the column of the entity on the left and that
of the related entity on the right. -/
def joinEquation (related : Entity) (link : ForeignKey) (key : Property) : Equation :=
  match link.relation with
  | .oneToOne =>
      ⟨scope.qualifiedColumnIn memory scope.entity link.property,
        scope.qualifiedColumnIn memory related key⟩
  | .oneToMany =>
      ⟨scope.qualifiedColumnIn memory scope.entity key,
        scope.qualifiedColumnIn memory related link.property⟩

/-- The equation has the column of a link on one side, and on the other that of the first
property of the key to which the link refers. -/
def MeetsOnKey (related : Entity) (meeting : Equation) : Prop :=
  ∃ link key rest,
    scope.catalog.conventions.foreignKey scope.entity related = .ok link ∧
    scope.catalog.conventions.keys (link.referred scope.entity related) = .ok (key :: rest) ∧
    meeting = scope.joinEquation memory related link key.property

/-- The text of all columns of the rows that meet on an equation. -/
def joinedText (related : Entity) (meeting : Equation) : String :=
  "select * from " ++ scope.spelledTable ++ " left join "
    ++ { scope with entity := related : Scope }.spelledTable ++ " on " ++ meeting.text

variable {scope memory} {related : Entity}

theorem text_selectJoined (meeting : Equation) (key : Option (List Equation)) :
    (Statement.selectJoined
      ⟨scope.spelledTable, { scope with entity := related : Scope }.spelledTable, meeting⟩
        key).text scope.dialect =
      scope.joinedText related meeting ++ Statement.keyText key := by
  unfold Statement.text joinedText
  simp only
  rw [Selection.text_all]

/-- The default in place of a missing first column is never used. -/
theorem firstKeyColumnIn_eq_ok {column : String}
    (isFirst : scope.firstKeyColumnIn memory = .ok column) :
    ∃ key rest, scope.catalog.conventions.keys scope.entity = .ok (key :: rest) ∧
      column = scope.columnIn memory key.property := by
  obtain ⟨columns, areColumns, head⟩ := bind_eq_ok_iff.mp isFirst
  obtain ⟨keys, resolved, named⟩ := bind_eq_ok_iff.mp areColumns
  obtain ⟨key, rest, assigned, rfl⟩ := Catalog.exists_cons_of_resolvedKeys resolved
  cases named
  cases head
  exact ⟨key, rest, assigned, rfl⟩

theorem joinIn_eq_ok {join : Join} (joins : scope.joinIn memory related = .ok join) :
    ∃ meeting, scope.MeetsOnKey memory related meeting ∧
      join = ⟨scope.spelledTable, { scope with entity := related : Scope }.spelledTable,
        meeting⟩ := by
  obtain ⟨⟨linking, relation⟩, linked, joins⟩ := bind_eq_ok_iff.mp joins
  cases relation with
  | oneToOne =>
      obtain ⟨column, isFirst, joins⟩ := bind_eq_ok_iff.mp joins
      obtain ⟨key, rest, assigned, rfl⟩ := firstKeyColumnIn_eq_ok isFirst
      cases joins
      exact ⟨_, ⟨_, key, rest, linked, assigned, rfl⟩, rfl⟩
  | oneToMany =>
      obtain ⟨column, isFirst, joins⟩ := bind_eq_ok_iff.mp joins
      obtain ⟨key, rest, assigned, rfl⟩ := firstKeyColumnIn_eq_ok isFirst
      cases joins
      exact ⟨_, ⟨_, key, rest, linked, assigned, rfl⟩, rfl⟩

theorem described_getWith_eq_ok {built : Statement}
    (described : scope.described memory (.getWith related) = .ok built) :
    ∃ meeting equations, scope.MeetsOnKey memory related meeting ∧
      scope.qualifiedKeyEquationsIn memory scope.spelledTable = .ok equations ∧
      built.text scope.dialect = scope.joinedText related meeting
        ++ Statement.keyText (some equations) := by
  obtain ⟨join, isJoin, described⟩ := bind_eq_ok_iff.mp described
  obtain ⟨equations, areEquations, isBuilt⟩ := bind_eq_ok_iff.mp described
  obtain ⟨meeting, meets, rfl⟩ := joinIn_eq_ok isJoin
  cases isBuilt
  exact ⟨meeting, equations, meets, areEquations, text_selectJoined meeting (some equations)⟩

theorem described_getAllWith_eq_ok {built : Statement}
    (described : scope.described memory (.getAllWith related) = .ok built) :
    ∃ meeting, scope.MeetsOnKey memory related meeting ∧
      built.text scope.dialect = scope.joinedText related meeting := by
  obtain ⟨join, isJoin, isBuilt⟩ := bind_eq_ok_iff.mp described
  obtain ⟨meeting, meets, rfl⟩ := joinIn_eq_ok isJoin
  cases isBuilt
  exact ⟨meeting, meets, (text_selectJoined meeting none).trans String.append_empty⟩

/-- A statement with a related entity begins with a join, and may be restricted. -/
theorem described_of_related {statement : FixedStatement} {built : Statement}
    (joins : statement.related? = some related)
    (described : scope.described memory statement = .ok built) :
    ∃ meeting restriction, scope.MeetsOnKey memory related meeting ∧
      built.text scope.dialect = scope.joinedText related meeting
        ++ Statement.keyText restriction := by
  cases statement <;> cases joins
  case getWith =>
    obtain ⟨meeting, equations, meets, -, text⟩ := described_getWith_eq_ok described
    exact ⟨meeting, some equations, meets, text⟩
  case getAllWith =>
    obtain ⟨meeting, meets, text⟩ := described_getAllWith_eq_ok described
    exact ⟨meeting, none, meets, text.trans String.append_empty.symm⟩

end Scope

namespace Registry

variable {registry : Registry} {vocabulary : Vocabulary} {requests : List Request}

/-- In a session on the entities' own properties every column has its name by the
conventions. -/
theorem qualifiedColumnIn_eq_spelled (distinct : vocabulary.Distinct)
    (keepTo : registry.catalog.conventions.KeepTo vocabulary)
    (within : ∀ request ∈ requests, request.Within vocabulary) {source entity : Entity}
    {dialect : Dialect} (known : entity ∈ vocabulary.entities)
    (spoken : dialect ∈ vocabulary.dialects) {property : Property}
    (own : property ∈ entity.properties) :
    (registry.statements source dialect).qualifiedColumnIn (registry.session requests).2 entity
        property =
      qualified (registry.catalog.spelledTable entity dialect)
        (registry.catalog.spelledColumn dialect property) := by
  obtain ⟨-, faithful, -⟩ := session_kept distinct keepTo within
  have named := entity.property?_of_mem (distinct.properties entity known) own
  have column : registry.catalog.columnName entity dialect (registry.session requests).2
      property = registry.catalog.spelledColumn dialect property := by
    rw [Catalog.columnName_eq_findD]
    exact (faithful.column entity known dialect spoken property named).findD_eq
  exact congrArg (qualified (registry.catalog.spelledTable entity dialect)) column

/-- With the usual links, a statement with a related entity joins on a mapped property of
the entity that holds it, and on the first property of the other entity's key, each with the
table of its own entity.  A property of the source named after the related entity comes first,
then one of the related entity named after the source, then the navigations. -/
theorem join_columns_with_owners (apart : vocabulary.ToldApart)
    (usual : registry.catalog.conventions.foreignKey = usualForeignKey)
    (about : ∀ request ∈ requests, request.About vocabulary) (source related : Entity)
    (dialect : Dialect) :
    let scope := registry.statements source dialect
    let memory := (registry.session requests).2
    (∀ statement : FixedStatement, statement.related? = some related →
      ∀ sql, registry.Answers requests source dialect statement sql →
        ∃ link key rest restriction,
          usualForeignKey source related = .ok link ∧
          link.property.isMapped = true ∧
          link.property ∈ (link.holder source related).properties ∧
          registry.catalog.conventions.keys (link.referred source related) =
            .ok (key :: rest) ∧
          sql = scope.joinedText related (scope.joinEquation memory related link key.property)
            ++ Statement.keyText restriction) ∧
    (vocabulary.Distinct → registry.catalog.conventions.KeepTo vocabulary →
      (∀ request ∈ requests, request.Within vocabulary) → dialect ∈ vocabulary.dialects →
        ∀ entity ∈ vocabulary.entities, ∀ property ∈ entity.properties,
          scope.qualifiedColumnIn memory entity property =
            qualified (registry.catalog.spelledTable entity dialect)
              (registry.catalog.spelledColumn dialect property)) ∧
    ((∃ property ∈ source.properties, property.MappedLike (related.name ++ "Id")) →
      ∃ property ∈ source.properties, property.MappedLike (related.name ++ "Id") ∧
        usualForeignKey source related = .ok ⟨property, .oneToOne⟩) ∧
    ((∀ property ∈ source.properties, ¬ property.MappedLike (related.name ++ "Id")) →
      (∃ property ∈ related.properties, property.MappedLike (source.name ++ "Id")) →
        ∃ property ∈ related.properties, property.MappedLike (source.name ++ "Id") ∧
          usualForeignKey source related = .ok ⟨property, .oneToMany⟩) ∧
    ∀ failure, usualForeignKey source related = .error failure ↔
      failure = .foreignKeyNotFound source.path related.path ∧
      (∀ property ∈ source.properties, ¬ property.MappedLike (related.name ++ "Id")) ∧
      (∀ property ∈ related.properties, ¬ property.MappedLike (source.name ++ "Id")) ∧
      (∀ navigation ∈ source.navigationsTo related,
        ∀ property ∈ (navigation.keyHolder source related).properties,
          ¬ property.MappedLike navigation.key) ∧
      ∀ navigation ∈ related.navigationsTo source, ∀ property ∈ related.properties,
        ¬ property.MappedLike navigation.key := by
  intro scope memory
  refine ⟨?joins, ?columns, ?inSource, ?inRelated, fun _ => usualForeignKey_eq_error_iff⟩
  case joins =>
    intro statement joins sql answers
    obtain ⟨built, described, rfl⟩ := answers.exists_described apart about
    obtain ⟨_, restriction, ⟨link, key, rest, linked, assigned, rfl⟩, text⟩ :=
      Scope.described_of_related joins described
    have linked : usualForeignKey source related = .ok link := by
      rw [← usual]
      exact linked
    obtain ⟨held, isMapped⟩ := isHeld_of_usualForeignKey linked
    exact ⟨link, key, rest, restriction, linked, isMapped, held, assigned, text⟩
  case columns =>
    intro distinct keepTo within spoken entity known property own
    exact qualifiedColumnIn_eq_spelled distinct keepTo within known spoken own
  case inSource =>
    intro named
    obtain ⟨property, found⟩ := Entity.exists_mappedLike?_eq_some named
    exact ⟨property, source.mem_of_mappedLike? found, Entity.mappedLike_of_mappedLike? found,
      usualForeignKey_of_source found⟩
  case inRelated =>
    intro unnamed named
    obtain ⟨property, found⟩ := Entity.exists_mappedLike?_eq_some named
    exact ⟨property, related.mem_of_mappedLike? found, Entity.mappedLike_of_mappedLike? found,
      usualForeignKey_of_related (Entity.mappedLike?_eq_none_iff.mpr unnamed) found⟩

/-- Products name their category, so that each has one. -/
theorem join_columns_with_owners_of_product :
    let id : Property := { name := "Id", type := .int, key := true }
    let categoryId : Property := { name := "category_id", type := .int }
    let category : Entity := { name := "Category", path := "shop::Category", properties := [id] }
    let product : Entity :=
      { name := "Product", path := "shop::Product", properties := [id, categoryId] }
    let registry := ({} : RegistryDraft).registry
    let postgres := DialectKind.postgres.dialect
    let requests : List Request :=
      [.statement category postgres (.fixed (.getWith product)),
        .statement product postgres (.fixed (.getAllWith category))]
    let scope := registry.statements product postgres
    let memory := (registry.session requests).2
    (∃ link key rest restriction,
      usualForeignKey product category = .ok link ∧
      link.property.isMapped = true ∧
      link.property ∈ (link.holder product category).properties ∧
      registry.catalog.conventions.keys (link.referred product category) = .ok (key :: rest) ∧
      "select * from \x22Products\x22 left join \x22Categories\x22"
          ++ " on \x22Products\x22.\x22category_id\x22 = \x22Categories\x22.\x22Id\x22" =
        scope.joinedText category (scope.joinEquation memory category link key.property)
          ++ Statement.keyText restriction) ∧
    scope.qualifiedColumnIn memory product categoryId = "\x22Products\x22.\x22category_id\x22" ∧
    (∃ property ∈ product.properties, property.MappedLike (category.name ++ "Id") ∧
      usualForeignKey product category = .ok ⟨property, .oneToOne⟩) ∧
    ∃ property ∈ product.properties, property.MappedLike (category.name ++ "Id") ∧
      usualForeignKey category product = .ok ⟨property, .oneToMany⟩ := by
  intro id categoryId category product registry postgres requests scope memory
  let vocabulary := Vocabulary.builtIn [product, category]
  have distinct : vocabulary.Distinct := Vocabulary.distinct_builtIn (by decide) (by decide)
  have spoken : postgres ∈ vocabulary.dialects := Vocabulary.dialect_mem_builtIn .postgres
  have within : ∀ request ∈ requests, request.Within vocabulary := by
    simp only [requests, List.forall_mem_cons, List.not_mem_nil, false_implies, implies_true,
      and_true]
    exact ⟨Request.within_fixed (by simp [vocabulary, Vocabulary.builtIn]) spoken
        (by simp [vocabulary, Vocabulary.builtIn, FixedStatement.related?]),
      Request.within_fixed (by simp [vocabulary, Vocabulary.builtIn]) spoken
        (by simp [vocabulary, Vocabulary.builtIn, FixedStatement.related?])⟩
  have owners := @join_columns_with_owners registry vocabulary requests distinct.toldApart rfl
    fun request member => (within request member).about
  obtain ⟨joins, columns, inSource, -, -⟩ := owners product category postgres
  obtain ⟨-, -, -, inRelated, -⟩ := owners category product postgres
  have column := columns distinct (Conventions.usual_keepTo true vocabulary) within spoken product
    (by simp [vocabulary, Vocabulary.builtIn]) categoryId (by decide)
  refine ⟨joins (.getAllWith category) rfl _ ⟨1, rfl, ?_⟩, column.trans (by decide +kernel), ?_, ?_⟩
  · dsimp only [requests, registry, postgres, product, category, categoryId, id]
    rfl
  · exact inSource (by decide +kernel)
  · exact inRelated (by decide +kernel) (by decide +kernel)

end Registry

end EntitySql
