import EntitySql.Conventions.ForeignKey

/-!
# Links between entities

The usual conventions look for the property that links two entities in three places, one
after the other: by name in the source, by name in the related entity, and by the
navigations of both.  The property is always a mapped one of the entity that is said to hold
it.  Seen from the other entity the same places are searched in another order, and not every
link is found again.
-/

namespace EntitySql

/-- The entity that holds the linking property. -/
def ForeignKey.holder (link : ForeignKey) (source related : Entity) : Entity :=
  match link.relation with
  | .oneToOne => source
  | .oneToMany => related

/-- The entity to whose key the linking property refers. -/
def ForeignKey.referred (link : ForeignKey) (source related : Entity) : Entity :=
  match link.relation with
  | .oneToOne => related
  | .oneToMany => source

/-- The linking property is a mapped one of the entity that is said to hold it. -/
def ForeignKey.IsHeld (link : ForeignKey) (source related : Entity) : Prop :=
  link.property ∈ (link.holder source related).properties ∧ link.property.isMapped = true

/-- The property is mapped and goes by the name. -/
def Property.MappedLike (name : String) (property : Property) : Prop :=
  property.isMapped = true ∧ namesMatch property.name name = true

instance (name : String) (property : Property) : Decidable (property.MappedLike name) :=
  inferInstanceAs (Decidable (_ ∧ _))

/-- The entity in whose properties a navigation of the source has its key. -/
def KeyedNavigation.keyHolder (source related : Entity) (navigation : KeyedNavigation) : Entity :=
  if navigation.many then related else source

namespace Entity

variable {entity : Entity} {name : String} {property : Property}

theorem mem_of_mappedLike? (found : entity.mappedLike? name = some property) :
    property ∈ entity.properties :=
  List.mem_of_find?_eq_some found

theorem mappedLike_of_mappedLike? (found : entity.mappedLike? name = some property) :
    property.MappedLike name := by
  simpa [Property.MappedLike] using List.find?_some found

theorem mappedLike?_eq_none_iff :
    entity.mappedLike? name = none ↔
      ∀ property ∈ entity.properties, ¬ property.MappedLike name := by
  simp [mappedLike?, Property.MappedLike]

theorem exists_mappedLike?_eq_some
    (present : ∃ property ∈ entity.properties, property.MappedLike name) :
    ∃ property, entity.mappedLike? name = some property := by
  obtain ⟨property, member, isLike⟩ := present
  refine Option.ne_none_iff_exists'.mp fun notFound => ?_
  exact mappedLike?_eq_none_iff.mp notFound property member isLike

end Entity

variable {source related : Entity} {property : Property} {link : ForeignKey}

/-- What an entity has under a name is a mapped property of it. -/
theorem isHeld_of_mappedLike? {holder : Entity} {name : String} {relation : Relation}
    (isHolder : ∀ property, (ForeignKey.mk property relation).holder source related = holder)
    (found : (holder.mappedLike? name).map (ForeignKey.mk · relation) = some link) :
    link.IsHeld source related := by
  obtain ⟨property, isLike, rfl⟩ := Option.map_eq_some_iff.mp found
  rw [ForeignKey.IsHeld, isHolder]
  exact ⟨holder.mem_of_mappedLike? isLike, (Entity.mappedLike_of_mappedLike? isLike).1⟩

namespace KeyedNavigation

variable {navigation : KeyedNavigation}

theorem link?_eq_none_iff :
    navigation.link? source related = none ↔
      ∀ property ∈ (navigation.keyHolder source related).properties,
        ¬ property.MappedLike navigation.key := by
  rw [← Entity.mappedLike?_eq_none_iff]
  unfold link? keyHolder
  split <;> simp

theorem isHeld_of_link? (found : navigation.link? source related = some link) :
    link.IsHeld source related := by
  unfold link? at found
  split at found
  · exact isHeld_of_mappedLike? (fun _ => rfl) found
  · exact isHeld_of_mappedLike? (fun _ => rfl) found

end KeyedNavigation

theorem isHeld_of_linkByNavigation? (found : linkByNavigation? source related = some link) :
    link.IsHeld source related := by
  rcases Option.or_eq_some_iff.mp found with ofSource | ⟨-, ofRelated⟩
  · obtain ⟨navigation, -, links⟩ := List.exists_of_findSome?_eq_some ofSource
    exact navigation.isHeld_of_link? links
  · obtain ⟨navigation, -, links⟩ := List.exists_of_findSome?_eq_some ofRelated
    exact isHeld_of_mappedLike? (fun _ => rfl) links

/-- The navigations find nothing where no key of theirs is in its place. -/
theorem linkByNavigation?_eq_none_iff :
    linkByNavigation? source related = none ↔
      (∀ navigation ∈ source.navigationsTo related,
        ∀ property ∈ (navigation.keyHolder source related).properties,
          ¬ property.MappedLike navigation.key) ∧
      ∀ navigation ∈ related.navigationsTo source, ∀ property ∈ related.properties,
        ¬ property.MappedLike navigation.key := by
  simp only [linkByNavigation?, Option.or_eq_none_iff, List.findSome?_eq_none_iff,
    KeyedNavigation.link?_eq_none_iff, Option.map_eq_none_iff, Entity.mappedLike?_eq_none_iff]

/-- The three places are searched one after the other. -/
theorem usualForeignKey_eq_elim (source related : Entity) :
    usualForeignKey source related =
      ((((source.mappedLike? (related.name ++ "Id")).map (ForeignKey.mk · .oneToOne)).or
        ((related.mappedLike? (source.name ++ "Id")).map (ForeignKey.mk · .oneToMany))).or
          (linkByNavigation? source related)).elim
        (.error (.foreignKeyNotFound source.path related.path)) .ok := by
  unfold usualForeignKey
  cases source.mappedLike? (related.name ++ "Id") with
  | some property => rfl
  | none =>
      cases related.mappedLike? (source.name ++ "Id") with
      | some property => rfl
      | none => cases linkByNavigation? source related <;> rfl

theorem elim_ok_eq_ok_iff {ε α : Type} {failure : ε} {found : Option α} {value : α} :
    found.elim (.error failure) .ok = (.ok value : Except ε α) ↔ found = some value := by
  cases found <;> simp

section Stages

theorem usualForeignKey_of_source
    (found : source.mappedLike? (related.name ++ "Id") = some property) :
    usualForeignKey source related = .ok ⟨property, .oneToOne⟩ := by
  simp [usualForeignKey_eq_elim, found]

variable (notInSource : source.mappedLike? (related.name ++ "Id") = none)

include notInSource

theorem usualForeignKey_of_related
    (found : related.mappedLike? (source.name ++ "Id") = some property) :
    usualForeignKey source related = .ok ⟨property, .oneToMany⟩ := by
  simp [usualForeignKey_eq_elim, notInSource, found]

variable (notInRelated : related.mappedLike? (source.name ++ "Id") = none)

include notInRelated

theorem usualForeignKey_of_navigation (found : linkByNavigation? source related = some link) :
    usualForeignKey source related = .ok link := by
  simp [usualForeignKey_eq_elim, notInSource, notInRelated, found]

theorem linkByNavigation?_of_usualForeignKey (linked : usualForeignKey source related = .ok link) :
    linkByNavigation? source related = some link := by
  rw [usualForeignKey_eq_elim, elim_ok_eq_ok_iff, notInSource, notInRelated] at linked
  exact linked

/-- Where the navigations of the source find nothing, those of the related entity decide. -/
theorem findSome?_of_usualForeignKey
    (silent : ∀ navigation ∈ source.navigationsTo related,
      navigation.link? source related = none)
    (linked : usualForeignKey source related = .ok link) :
    ((related.navigationsTo source).findSome? fun navigation =>
      (related.mappedLike? navigation.key).map (ForeignKey.mk · .oneToMany)) = some link := by
  have byNavigation := linkByNavigation?_of_usualForeignKey notInSource notInRelated linked
  rwa [linkByNavigation?, List.findSome?_eq_none_iff.mpr silent, Option.none_or] at byNavigation

end Stages

theorem isHeld_of_usualForeignKey (linked : usualForeignKey source related = .ok link) :
    link.IsHeld source related := by
  rw [usualForeignKey_eq_elim, elim_ok_eq_ok_iff] at linked
  rcases Option.or_eq_some_iff.mp linked with byName | ⟨-, byNavigation⟩
  · rcases Option.or_eq_some_iff.mp byName with inSource | ⟨-, inRelated⟩
    · exact isHeld_of_mappedLike? (fun _ => rfl) inSource
    · exact isHeld_of_mappedLike? (fun _ => rfl) inRelated
  · exact isHeld_of_linkByNavigation? byNavigation

/-- There is no link where none of the three places has a property for it. -/
theorem usualForeignKey_eq_error_iff {failure : Failure} :
    usualForeignKey source related = .error failure ↔
      failure = .foreignKeyNotFound source.path related.path ∧
      (∀ property ∈ source.properties, ¬ property.MappedLike (related.name ++ "Id")) ∧
      (∀ property ∈ related.properties, ¬ property.MappedLike (source.name ++ "Id")) ∧
      (∀ navigation ∈ source.navigationsTo related,
        ∀ property ∈ (navigation.keyHolder source related).properties,
          ¬ property.MappedLike navigation.key) ∧
      ∀ navigation ∈ related.navigationsTo source, ∀ property ∈ related.properties,
        ¬ property.MappedLike navigation.key := by
  rw [← Entity.mappedLike?_eq_none_iff, ← Entity.mappedLike?_eq_none_iff,
    ← linkByNavigation?_eq_none_iff, usualForeignKey_eq_elim]
  cases source.mappedLike? (related.name ++ "Id") <;>
    cases related.mappedLike? (source.name ++ "Id") <;>
      cases linkByNavigation? source related <;> simp [eq_comm]

/-- A property of the source would have made the source the holder. -/
theorem mappedLike?_eq_none_of_oneToMany
    (linked : usualForeignKey source related = .ok ⟨property, .oneToMany⟩) :
    source.mappedLike? (related.name ++ "Id") = none := by
  cases inSource : source.mappedLike? (related.name ++ "Id") with
  | none => rfl
  | some other => cases (usualForeignKey_of_source inSource).symm.trans linked

/-- Where the navigations of the holder lead to one entity each, they find the same property
from both sides. -/
theorem findSome?_link?_of_single {navigations : List KeyedNavigation}
    (single : ∀ navigation ∈ navigations, navigation.many = false)
    (found : (navigations.findSome? fun navigation =>
      (source.mappedLike? navigation.key).map (ForeignKey.mk · .oneToMany)) =
        some ⟨property, .oneToMany⟩) :
    navigations.findSome? (KeyedNavigation.link? source related) =
      some ⟨property, .oneToOne⟩ := by
  induction navigations with
  | nil => cases found
  | cons first rest ih =>
      have firstSingle := single first (by simp)
      -- The first navigation whose key the holder has decides on both sides.
      cases inSource : source.mappedLike? first.key with
      | some other =>
          simp only [List.findSome?_cons, inSource, Option.map_some, Option.some.injEq,
            ForeignKey.mk.injEq, and_true] at found
          simp [KeyedNavigation.link?, firstSingle, inSource, found]
      | none =>
          simp only [List.findSome?_cons, inSource, Option.map_none] at found
          simp only [List.findSome?_cons, KeyedNavigation.link?, firstSingle, inSource,
            Bool.false_eq_true, if_false, Option.map_none]
          exact ih (fun navigation member => single navigation (by simp [member])) found

/-- A link that the related entity holds, seen from there.  Found by name, it is the same.
Otherwise the holder's own navigations come first: the first that finds its property
decides.  Where the navigations of the source find nothing and those of the holder lead to one
entity each, it is the same again. -/
theorem oneToMany_seen_from_holder {holder : Entity}
    (linked : usualForeignKey source holder = .ok ⟨property, .oneToMany⟩) :
    ((∃ other ∈ holder.properties, other.MappedLike (source.name ++ "Id")) →
      usualForeignKey holder source = .ok ⟨property, .oneToOne⟩) ∧
    ((∀ other ∈ holder.properties, ¬ other.MappedLike (source.name ++ "Id")) →
      (∀ link, (holder.navigationsTo source).findSome? (KeyedNavigation.link? holder source) =
        some link → usualForeignKey holder source = .ok link) ∧
      ((∀ navigation ∈ source.navigationsTo holder,
          navigation.link? source holder = none) →
        (∀ navigation ∈ holder.navigationsTo source, navigation.many = false) →
          usualForeignKey holder source = .ok ⟨property, .oneToOne⟩)) := by
  have notInSource := mappedLike?_eq_none_of_oneToMany linked
  constructor
  · intro named
    obtain ⟨other, inHolder⟩ := Entity.exists_mappedLike?_eq_some named
    cases (usualForeignKey_of_related notInSource inHolder).symm.trans linked
    exact usualForeignKey_of_source inHolder
  · intro unnamed
    have notInHolder := Entity.mappedLike?_eq_none_iff.mpr unnamed
    have own (link : ForeignKey)
        (found : (holder.navigationsTo source).findSome? (KeyedNavigation.link? holder source) =
          some link) : usualForeignKey holder source = .ok link :=
      usualForeignKey_of_navigation notInHolder notInSource
        (Option.or_eq_some_iff.mpr (.inl found))
    refine ⟨own, fun sourceSilent single => own _ (findSome?_link?_of_single single ?_)⟩
    exact findSome?_of_usualForeignKey notInSource notInHolder sourceSilent linked

/-- Products name their category.  Notes lead to their author by a navigation.  Lines are
listed by their order, and lead by a navigation of their own to the order they came from. -/
theorem oneToMany_seen_from_holder_of_shop :
    let id : Property := { name := "Id", type := .int, key := true }
    let categoryId : Property := { name := "category_id", type := .int }
    let category : Entity := { name := "Category", path := "shop::Category", properties := [id] }
    let product : Entity :=
      { name := "Product", path := "shop::Product", properties := [id, categoryId] }
    let writer : Property := { name := "WriterRef", type := .int }
    let author : Entity := { name := "Author", path := "shop::Author", properties := [id] }
    let note : Entity :=
      { name := "Note"
        path := "shop::Note"
        properties := [id, writer,
          { name := "Writer", type := .entity "Author", foreignKey := some "WriterRef" }] }
    let parent : Property := { name := "ParentRef", type := .int }
    let origin : Property := { name := "OriginRef", type := .int }
    let order : Entity :=
      { name := "Order"
        path := "shop::Order"
        properties := [id,
          { name := "Lines", type := .collection "OrderLine", foreignKey := some "ParentRef" }] }
    let line : Entity :=
      { name := "OrderLine"
        path := "shop::OrderLine"
        properties := [id, parent, origin,
          { name := "Origin", type := .entity "Order", foreignKey := some "OriginRef" }] }
    usualForeignKey product category = .ok ⟨categoryId, .oneToOne⟩ ∧
      usualForeignKey note author = .ok ⟨writer, .oneToOne⟩ ∧
      usualForeignKey line order = .ok ⟨origin, .oneToOne⟩ := by
  intro id categoryId category product writer author note parent origin order line
  have products : usualForeignKey category product = .ok ⟨categoryId, .oneToMany⟩ :=
    usualForeignKey_of_related (by decide +kernel) (by decide +kernel)
  have notes : usualForeignKey author note = .ok ⟨writer, .oneToMany⟩ :=
    usualForeignKey_of_navigation (by decide +kernel) (by decide +kernel) (by decide +kernel)
  have lines : usualForeignKey order line = .ok ⟨parent, .oneToMany⟩ :=
    usualForeignKey_of_navigation (by decide +kernel) (by decide +kernel) (by decide +kernel)
  refine ⟨?_, ?_, ?_⟩
  · exact (oneToMany_seen_from_holder products).1 (by decide +kernel)
  · exact ((oneToMany_seen_from_holder notes).2 (by decide +kernel)).2 (by decide +kernel)
      (by decide +kernel)
  · exact ((oneToMany_seen_from_holder lines).2 (by decide +kernel)).1 _ (by decide +kernel)

/-- Lines are listed by their order through one property, and lead to the order they came
from through another. -/
theorem oneToMany_behind_own_navigation :
    ¬ ∀ (source holder : Entity) (property : Property),
      namesMatch source.name holder.name = false →
        usualForeignKey source holder = .ok ⟨property, .oneToMany⟩ →
          usualForeignKey holder source = .ok ⟨property, .oneToOne⟩ := by
  intro mirrored
  let id : Property := { name := "Id", type := .int, key := true }
  let parent : Property := { name := "ParentRef", type := .int }
  let origin : Property := { name := "OriginRef", type := .int }
  let order : Entity :=
    { name := "Order"
      path := "shop::Order"
      properties := [id,
        { name := "Lines", type := .collection "OrderLine", foreignKey := some "ParentRef" }] }
  let line : Entity :=
    { name := "OrderLine"
      path := "shop::OrderLine"
      properties := [id, parent, origin,
        { name := "Origin", type := .entity "Order", foreignKey := some "OriginRef" }] }
  have fromOrder : usualForeignKey order line = .ok ⟨parent, .oneToMany⟩ :=
    usualForeignKey_of_navigation (by decide +kernel) (by decide +kernel) (by decide +kernel)
  have fromLine : usualForeignKey line order = .ok ⟨origin, .oneToOne⟩ :=
    usualForeignKey_of_navigation (by decide +kernel) (by decide +kernel) (by decide +kernel)
  have same := fromLine.symm.trans (mirrored order line parent (by decide +kernel) fromOrder)
  exact absurd (congrArg ForeignKey.property (Except.ok.inj same)) (by decide)

/-- A link that the related entity holds is not seen from there where that entity has neither a
property named after the source nor a navigation of its own that finds its key.  The keys of the
navigations of the source are then looked for in the source, also those of collections, which the
holder has: the link is lost, or goes through a property of the source. -/
theorem oneToMany_unseen_from_holder {holder : Entity}
    (linked : usualForeignKey source holder = .ok ⟨property, .oneToMany⟩)
    (unnamed : ∀ other ∈ holder.properties, ¬ other.MappedLike (source.name ++ "Id"))
    (silent : ∀ navigation ∈ holder.navigationsTo source,
      navigation.link? holder source = none) :
    (∀ link, usualForeignKey holder source = .ok link →
      link.relation = .oneToMany ∧ link.property ∈ source.properties) ∧
    (usualForeignKey holder source = .error (.foreignKeyNotFound holder.path source.path) ↔
      ∀ navigation ∈ source.navigationsTo holder, ∀ other ∈ source.properties,
        ¬ other.MappedLike navigation.key) := by
  have notInSource := mappedLike?_eq_none_of_oneToMany linked
  have notInHolder := Entity.mappedLike?_eq_none_iff.mpr unnamed
  constructor
  · intro link linkedBack
    have byNavigation :=
      findSome?_of_usualForeignKey notInHolder notInSource silent linkedBack
    obtain ⟨navigation, -, found⟩ := List.exists_of_findSome?_eq_some byNavigation
    obtain ⟨other, isLike, rfl⟩ := Option.map_eq_some_iff.mp found
    exact ⟨rfl, Entity.mem_of_mappedLike? isLike⟩
  · rw [usualForeignKey_eq_error_iff, ← Entity.mappedLike?_eq_none_iff,
      ← Entity.mappedLike?_eq_none_iff]
    simp only [notInHolder, notInSource, true_and]
    refine and_iff_right fun navigation member => ?_
    exact KeyedNavigation.link?_eq_none_iff.mp (silent navigation member)

/-- An order leads to the lines that it lists, and these do not lead back. -/
example :
    let id : Property := { name := "Id", type := .int, key := true }
    let parent : Property := { name := "ParentRef", type := .int }
    let order : Entity :=
      { name := "Order"
        path := "shop::Order"
        properties := [id,
          { name := "Lines", type := .collection "OrderLine", foreignKey := some "ParentRef" }] }
    let line : Entity :=
      { name := "OrderLine", path := "shop::OrderLine", properties := [id, parent] }
    usualForeignKey order line = .ok ⟨parent, .oneToMany⟩ ∧
      usualForeignKey line order = .error (.foreignKeyNotFound line.path order.path) :=
  ⟨rfl, rfl⟩

end EntitySql
