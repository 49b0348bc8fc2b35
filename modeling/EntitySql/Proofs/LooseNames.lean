import EntitySql.Proofs.Links
import Mathlib.Data.List.Forall2

/-!
# Names that match

Two names match when they are the same without underscores and in lower case.  The usual
conventions compare names in no other way where they look for the link between two entities, so
any spelling of the names leads to the same link.
-/

namespace EntitySql

/-- A name without underscores, its ASCII letters in lower case. -/
def looseForm (name : String) : List Char :=
  (name.toList.filter (· ≠ '_')).map Char.toLower

section Names

variable {first second name other : String}

theorem agreeIgnoringCase_iff {left right : List Char} :
    agreeIgnoringCase left right = true ↔ left.map Char.toLower = right.map Char.toLower := by
  induction left generalizing right with
  | nil => cases right <;> simp [agreeIgnoringCase]
  | cons a left ih => cases right <;> simp [agreeIgnoringCase, ih]

theorem namesMatch_iff : namesMatch first second = true ↔ looseForm first = looseForm second :=
  agreeIgnoringCase_iff

theorem namesMatch_equivalence :
    Equivalence fun first second : String => namesMatch first second = true := by
  simp only [namesMatch_iff]
  exact ⟨fun _ => rfl, Eq.symm, Eq.trans⟩

theorem looseForm_append (first second : String) :
    looseForm (first ++ second) = looseForm first ++ looseForm second := by
  simp [looseForm]

theorem namesMatch_append (same : namesMatch first second = true) (suffix : String) :
    namesMatch (first ++ suffix) (second ++ suffix) = true := by
  rw [namesMatch_iff, looseForm_append, looseForm_append, namesMatch_iff.mp same]

/-- Names can be replaced by others that match them. -/
theorem namesMatch_congr (sameFirst : namesMatch first name = true)
    (sameSecond : namesMatch second other = true) :
    namesMatch first second = namesMatch name other := by
  rw [Bool.eq_iff_iff, namesMatch_iff, namesMatch_iff, namesMatch_iff.mp sameFirst,
    namesMatch_iff.mp sameSecond]

end Names

/-! ## Other spellings of an entity -/

/-- The types are of one kind, and where they are navigations, the names of the related entities
match. -/
inductive PropertyType.RespelledAs : PropertyType → PropertyType → Prop
  | entity {name name' : String} (same : namesMatch name name' = true) :
      RespelledAs (.entity name) (.entity name')
  | collection {name name' : String} (same : namesMatch name name' = true) :
      RespelledAs (.collection name) (.collection name')
  | scalar {type : PropertyType} (notRelated : type.related? = none) : RespelledAs type type

/-- The properties differ in the spelling of names only: their own, that of the related entity, and
that of the property which holds a navigation's key. -/
structure Property.RespelledAs (property property' : Property) : Prop where
  name : namesMatch property.name property'.name = true
  type : property.type.RespelledAs property'.type
  foreignKey : Option.Rel (fun key key' => namesMatch key key' = true)
    property.foreignKey property'.foreignKey
  rest : property' = { property with
    name := property'.name, type := property'.type, foreignKey := property'.foreignKey }

/-- The entities differ in the spelling of their names and of names in their properties only. -/
structure Entity.RespelledAs (entity entity' : Entity) : Prop where
  name : namesMatch entity.name entity'.name = true
  properties : List.Forall₂ Property.RespelledAs entity.properties entity'.properties
  rest : entity' = { entity with name := entity'.name, properties := entity'.properties }

/-- The navigations differ in the spelling of their keys only. -/
structure KeyedNavigation.RespelledAs (navigation navigation' : KeyedNavigation) : Prop where
  many : navigation.many = navigation'.many
  key : namesMatch navigation.key navigation'.key = true

theorem PropertyType.RespelledAs.related? {type type' : PropertyType}
    (respelled : type.RespelledAs type') :
    Option.Rel (fun name name' => namesMatch name name' = true) type.related? type'.related? := by
  cases respelled with
  | entity same | collection same => exact .some same
  | scalar notRelated =>
      rw [notRelated]
      exact .none

theorem PropertyType.RespelledAs.isNavigation {type type' : PropertyType}
    (respelled : type.RespelledAs type') : type.isNavigation = type'.isNavigation := by
  cases respelled <;> rfl

namespace Property.RespelledAs

variable {property property' : Property}

theorem isMapped (respelled : property.RespelledAs property') :
    property.isMapped = property'.isMapped := by
  rw [Property.isMapped, Property.isMapped, respelled.type.isNavigation, respelled.rest]

theorem navigationTo? (respelled : property.RespelledAs property') {target target' : Entity}
    (same : namesMatch target.name target'.name = true) :
    Option.Rel KeyedNavigation.RespelledAs (property.navigationTo? target)
      (property'.navigationTo? target') := by
  have sameType := respelled.type
  have sameKey := respelled.foreignKey
  unfold Property.navigationTo?
  generalize property.type = type, property'.type = type' at sameType ⊢
  generalize property.foreignKey = key, property'.foreignKey = key' at sameKey ⊢
  cases sameKey with
  | none => cases type.related? <;> cases type'.related? <;> exact .none
  | some matching =>
      cases sameType with
      | scalar notRelated =>
          simp only [notRelated]
          exact .none
      | entity related | collection related =>
          simp only [PropertyType.related?, namesMatch_congr related same]
          split
          · exact .some ⟨rfl, matching⟩
          · exact .none

end Property.RespelledAs

section Positions

variable {α β : Type}

/-- Equal elements before the one found would have been found instead. -/
theorem map_idxOf_find? [DecidableEq α] (p : α → Bool) (xs : List α) :
    (xs.find? p).map xs.idxOf = xs.findIdx? p := by
  induction xs with
  | nil => rfl
  | cons x xs ih =>
      by_cases holds : p x
      · simp [List.findIdx?_cons, holds]
      · rw [List.find?_cons_of_neg holds, List.findIdx?_cons, if_neg holds, ← ih, Option.map_map]
        refine Option.map_congr fun y found => ?_
        have differs : x ≠ y := fun same => holds (same ▸ List.find?_some found)
        simp [List.idxOf_cons_ne xs differs]

theorem findIdx?_congr_forall₂ {p : α → Bool} {q : β → Bool} {xs : List α} {ys : List β}
    (same : List.Forall₂ (fun x y => p x = q y) xs ys) : xs.findIdx? p = ys.findIdx? q := by
  induction same with
  | nil => rfl
  | cons head tail ih => rw [List.findIdx?_cons, List.findIdx?_cons, head, ih]

theorem findSome?_congr_forall₂ {γ : Type} {f : α → Option γ} {g : β → Option γ} {xs : List α}
    {ys : List β} (same : List.Forall₂ (fun x y => f x = g y) xs ys) :
    xs.findSome? f = ys.findSome? g := by
  induction same with
  | nil => rfl
  | cons head tail ih => rw [List.findSome?_cons, List.findSome?_cons, head, ih]

end Positions

namespace Entity.RespelledAs

variable {entity entity' : Entity}

theorem navigationsTo (respelled : entity.RespelledAs entity') {target target' : Entity}
    (same : namesMatch target.name target'.name = true) :
    List.Forall₂ KeyedNavigation.RespelledAs (entity.navigationsTo target)
      (entity'.navigationsTo target') :=
  List.rel_filterMap (fun _ _ sameProperty => sameProperty.navigationTo? same) respelled.properties

/-- The first mapped property under a name stays at its position. -/
theorem map_idxOf_mappedLike? (respelled : entity.RespelledAs entity') {name name' : String}
    (same : namesMatch name name' = true) :
    (entity.mappedLike? name).map entity.properties.idxOf =
      (entity'.mappedLike? name').map entity'.properties.idxOf := by
  rw [Entity.mappedLike?, Entity.mappedLike?, map_idxOf_find?, map_idxOf_find?]
  refine findIdx?_congr_forall₂ (respelled.properties.imp fun property property' sameProperty => ?_)
  rw [sameProperty.isMapped, namesMatch_congr sameProperty.name same]

end Entity.RespelledAs

/-- The relation, and the position of the linking property among those of the entity that holds
it. -/
def ForeignKey.place (source related : Entity) (link : ForeignKey) : Relation × Nat :=
  (link.relation, (link.holder source related).properties.idxOf link.property)

theorem map_elim_ok {ε α β : Type} (f : α → β) (failure : ε) (found : Option α) :
    (found.elim (.error failure) .ok : Except ε α).map f =
      (found.map f).elim (.error failure) .ok := by
  cases found <;> rfl

/-- The entity that holds the property of a link. -/
def Relation.holder (source related : Entity) : Relation → Entity
  | .oneToOne => source
  | .oneToMany => related

section Places

variable {source source' related related' : Entity} (sameSource : source.RespelledAs source')
  (sameRelated : related.RespelledAs related')

include sameSource sameRelated

theorem Relation.respelledAs_holder (relation : Relation) :
    (relation.holder source related).RespelledAs (relation.holder source' related') := by
  cases relation with
  | oneToOne => exact sameSource
  | oneToMany => exact sameRelated

/-- A link through the property of a name keeps its place. -/
theorem place_mappedLike?_eq (relation : Relation) {name name' : String}
    (same : namesMatch name name' = true) :
    (((relation.holder source related).mappedLike? name).map (ForeignKey.mk · relation)).map
        (ForeignKey.place source related) =
      (((relation.holder source' related').mappedLike? name').map (ForeignKey.mk · relation)).map
        (ForeignKey.place source' related') := by
  have placed (source related : Entity) (name : String) :
      (((relation.holder source related).mappedLike? name).map (ForeignKey.mk · relation)).map
          (ForeignKey.place source related) =
        (((relation.holder source related).mappedLike? name).map
          (relation.holder source related).properties.idxOf).map (relation, ·) := by
    rw [Option.map_map, Option.map_map]
    rfl
  rw [placed, placed,
    (relation.respelledAs_holder sameSource sameRelated).map_idxOf_mappedLike? same]

theorem KeyedNavigation.RespelledAs.place_eq {navigation navigation' : KeyedNavigation}
    (same : navigation.RespelledAs navigation') :
    (navigation.link? source related).map (ForeignKey.place source related) =
      (navigation'.link? source' related').map (ForeignKey.place source' related') := by
  unfold KeyedNavigation.link?
  rw [← same.many]
  split
  · exact place_mappedLike?_eq sameSource sameRelated .oneToMany same.key
  · exact place_mappedLike?_eq sameSource sameRelated .oneToOne same.key

theorem place_linkByNavigation?_eq :
    (linkByNavigation? source related).map (ForeignKey.place source related) =
      (linkByNavigation? source' related').map (ForeignKey.place source' related') := by
  have ofSource := (sameSource.navigationsTo sameRelated.name).imp
    fun _ _ same => same.place_eq sameSource sameRelated
  have ofRelated := (sameRelated.navigationsTo sameSource.name).imp
    fun _ _ same => place_mappedLike?_eq sameSource sameRelated .oneToMany same.key
  simp only [linkByNavigation?, Option.map_or, List.map_findSome?]
  exact congrArg₂ Option.or (findSome?_congr_forall₂ ofSource) (findSome?_congr_forall₂ ofRelated)

theorem place_usualForeignKey_eq :
    (usualForeignKey source related).map (ForeignKey.place source related) =
      (usualForeignKey source' related').map (ForeignKey.place source' related') := by
  have inSource := place_mappedLike?_eq sameSource sameRelated .oneToOne
    (namesMatch_append sameRelated.name "Id")
  have inRelated := place_mappedLike?_eq sameSource sameRelated .oneToMany
    (namesMatch_append sameSource.name "Id")
  have byNavigation := place_linkByNavigation?_eq sameSource sameRelated
  have samePaths : source.path = source'.path ∧ related.path = related'.path := by
    rw [sameSource.rest, sameRelated.rest]
    exact ⟨rfl, rfl⟩
  simp only [usualForeignKey_eq_elim, map_elim_ok, Option.map_or, samePaths]
  exact congrArg (Option.elim · _ _) (congrArg₂ Option.or (congrArg₂ Option.or inSource inRelated)
    byNavigation)

end Places

/-- Names match when they have one loose form, so matching names are as good as equal ones: the link
between two entities has its relation and its place among the properties, or is missed with the same
failure, however the names of both are spelled. -/
theorem matching_names_keep_links :
    (∀ first second, namesMatch first second = true ↔ looseForm first = looseForm second) ∧
    (Equivalence fun first second : String => namesMatch first second = true) ∧
    ∀ source source' related related' : Entity, source.RespelledAs source' →
      related.RespelledAs related' →
        (usualForeignKey source related).map (ForeignKey.place source related) =
          (usualForeignKey source' related').map (ForeignKey.place source' related') :=
  ⟨fun _ _ => namesMatch_iff, namesMatch_equivalence,
    fun _ _ _ _ sameSource sameRelated => place_usualForeignKey_eq sameSource sameRelated⟩

/-- Lines that are listed by their order, with all names written differently. -/
theorem matching_names_keep_links_of_order :
    let id : Property := { name := "Id", type := .int, key := true }
    let parent : Property := { name := "ParentRef", type := .int }
    let lines : Property :=
      { name := "Lines", type := .collection "OrderLine", foreignKey := some "ParentRef" }
    let order : Entity := { name := "Order", path := "shop::Order", properties := [id, lines] }
    let line : Entity :=
      { name := "OrderLine", path := "shop::OrderLine", properties := [id, parent] }
    let lines' : Property :=
      { name := "lines_", type := .collection "order_line", foreignKey := some "parent_ref" }
    let order' : Entity := { order with name := "ORDER", properties := [id, lines'] }
    let line' : Entity :=
      { line with
        name := "orderLine"
        properties := [{ id with name := "ID" }, { parent with name := "PARENT_REF" }] }
    order.RespelledAs order' ∧ line.RespelledAs line' ∧
      usualForeignKey order line = .ok ⟨parent, .oneToMany⟩ ∧
      (usualForeignKey order' line').map (ForeignKey.place order' line') = .ok (.oneToMany, 1) := by
  intro id parent lines order line lines' order' line'
  have sameId (name : String) (same : namesMatch "Id" name = true) :
      id.RespelledAs { id with name } := ⟨same, .scalar rfl, .none, rfl⟩
  have sameOrder : order.RespelledAs order' :=
    ⟨by decide +kernel,
      .cons (sameId "Id" (by decide +kernel)) (.cons
        ⟨by decide +kernel, .collection (by decide +kernel), .some (by decide +kernel), rfl⟩ .nil),
      rfl⟩
  have sameLine : line.RespelledAs line' :=
    ⟨by decide +kernel,
      .cons (sameId "ID" (by decide +kernel)) (.cons
        ⟨by decide +kernel, .scalar rfl, .none, rfl⟩ .nil),
      rfl⟩
  have linked : usualForeignKey order line = .ok ⟨parent, .oneToMany⟩ :=
    usualForeignKey_of_navigation (by decide +kernel) (by decide +kernel) (by decide +kernel)
  refine ⟨sameOrder, sameLine, linked, ?_⟩
  rw [← matching_names_keep_links.2.2 order order' line line' sameOrder sameLine, linked]
  decide +kernel

end EntitySql
