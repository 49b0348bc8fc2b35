import EntitySql.Declaration.Mapping
import Mathlib.Data.List.TakeWhile

/-!
# Navigations behind wrappers

The type of a navigation has optional types, pointers and a collection around the path of the
related entity.  An optional type is seen through in front only, pointers are seen through
outside a collection only.  Any other wrapper is taken for the entity.
-/

namespace EntitySql

/-- A generic type around the type of a related entity. -/
inductive TypeWrapper where
  | option
  | box
  | arc
  | rc
  | vec
  deriving DecidableEq

namespace TypeWrapper

def name : TypeWrapper → String
  | .option => "Option"
  | .box => "Box"
  | .arc => "Arc"
  | .rc => "Rc"
  | .vec => "Vec"

def isPointer : TypeWrapper → Bool
  | .box | .arc | .rc => true
  | .option | .vec => false

/-- An optional type in front, then pointers, and a collection inside of them.  Each part may be
missing. -/
def SeenThrough (wrappers : List TypeWrapper) : Prop :=
  ∃ front pointers back, wrappers = front ++ pointers ++ back ∧
    (front = [] ∨ front = [option]) ∧ (∀ wrapper ∈ pointers, wrapper.isPointer = true) ∧
    (back = [] ∨ back = [vec])

/-- The wrappers behind an optional type in front. -/
def behindOption : List TypeWrapper → List TypeWrapper
  | option :: rest => rest
  | wrappers => wrappers

/-- The outermost wrapper that is not seen through, and those inside of it. -/
def concealing (wrappers : List TypeWrapper) : List TypeWrapper :=
  (behindOption wrappers).dropWhile isPointer

/-- The name at the end of a type that has these wrappers around the entity. -/
def outermost (entity : String) (wrappers : List TypeWrapper) : String :=
  (wrappers.head?.map name).getD entity

/-- Where a navigation is taken to lead, by the wrappers that hide the entity. -/
def reached (entity : String) : List TypeWrapper → PropertyType
  | [] => .entity entity
  | vec :: inner => .collection (outermost entity inner)
  | wrapper :: _ => .entity wrapper.name

end TypeWrapper

/-- The type leads to the entity through these wrappers, the outermost first.  The paths of the
wrappers and of the entity may be written in any way that has the name at its end. -/
inductive TypeExpression.LeadsTo (entity : String) : List TypeWrapper → TypeExpression → Prop
  | path (text : String) {last : Identifier} (arguments : List TypeExpression)
      (isEntity : last.name = entity) (noWrapper : ∀ wrapper : TypeWrapper, wrapper.name ≠ entity) :
      LeadsTo entity [] (.path text last arguments)
  | wrapped (text : String) {wrapper : TypeWrapper} {wrappers : List TypeWrapper}
      {inner : TypeExpression} (leads : LeadsTo entity wrappers inner) :
      LeadsTo entity (wrapper :: wrappers) (.path text ⟨wrapper.name, false⟩ [inner])

/-- What a navigation through the wrappers is: a collection or a single entity. -/
def navigationThrough (entity : String) (wrappers : List TypeWrapper) : PropertyType :=
  if .vec ∈ wrappers then .collection entity else .entity entity

namespace TypeWrapper

variable {wrappers pointers : List TypeWrapper}

/-- The wrappers are an optional type at most, then pointers, then those that hide the entity. -/
theorem exists_split (wrappers : List TypeWrapper) :
    ∃ front pointers, wrappers = front ++ pointers ++ concealing wrappers ∧
      (front = [] ∨ front = [option]) ∧ ∀ wrapper ∈ pointers, wrapper.isPointer = true := by
  obtain ⟨front, isFront, split⟩ : ∃ front, (front = [] ∨ front = [option]) ∧
      wrappers = front ++ behindOption wrappers := by
    fun_cases behindOption wrappers with
    | case1 rest => exact ⟨[option], .inr rfl, rfl⟩
    | case2 => exact ⟨[], .inl rfl, rfl⟩
  refine ⟨front, (behindOption wrappers).takeWhile isPointer, ?_, isFront,
    fun wrapper among => List.mem_takeWhile_imp among⟩
  rw [concealing, List.append_assoc, List.takeWhile_append_dropWhile, ← split]

theorem concealing_eq (front : List TypeWrapper) (isFront : front = [] ∨ front = [option])
    (arePointers : ∀ wrapper ∈ pointers, wrapper.isPointer = true)
    (isBack : wrappers = [] ∨ wrappers = [vec]) :
    concealing (front ++ pointers ++ wrappers) = wrappers := by
  have behind : behindOption (front ++ pointers ++ wrappers) = pointers ++ wrappers := by
    rcases isFront with rfl | rfl
    · -- Neither a pointer nor a collection is an optional type.
      cases pointers with
      | nil => rcases isBack with rfl | rfl <;> rfl
      | cons pointer others =>
          have isPointer := arePointers pointer List.mem_cons_self
          cases pointer with
          | box | arc | rc => rfl
          | option | vec => cases isPointer
    · rfl
  rw [concealing, behind, List.dropWhile_append_of_pos arePointers]
  rcases isBack with rfl | rfl <;> rfl

theorem seenThrough_iff :
    SeenThrough wrappers ↔ concealing wrappers = [] ∨ concealing wrappers = [vec] := by
  constructor
  · rintro ⟨front, pointers, back, rfl, isFront, arePointers, isBack⟩
    rwa [concealing_eq front isFront arePointers isBack]
  · intro isBack
    obtain ⟨front, pointers, split, isFront, arePointers⟩ := exists_split wrappers
    exact ⟨front, pointers, concealing wrappers, split, isFront, arePointers, isBack⟩

theorem concealing_subset : concealing wrappers ⊆ wrappers := by
  obtain ⟨front, pointers, split, -⟩ := exists_split wrappers
  intro wrapper among
  rw [split]
  exact List.mem_append_right _ among

/-- A collection is never seen through like a pointer. -/
theorem vec_mem_concealing (among : vec ∈ wrappers) : vec ∈ concealing wrappers := by
  obtain ⟨front, pointers, split, isFront, arePointers⟩ := exists_split wrappers
  rw [split, List.mem_append, List.mem_append] at among
  rcases among with (inFront | isPointer) | hidden
  · rcases isFront with rfl | rfl <;> simp at inFront
  · cases arePointers vec isPointer
  · exact hidden

end TypeWrapper

namespace TypeExpression

variable {entity : String} {wrappers : List TypeWrapper} {type : TypeExpression}

open TypeWrapper

theorem LeadsTo.name_ne (leads : type.LeadsTo entity wrappers) (wrapper : TypeWrapper) :
    wrapper.name ≠ entity := by
  induction leads with
  | path text arguments isEntity noWrapper => exact noWrapper wrapper
  | wrapped text leads ih => exact ih

theorem LeadsTo.entityName? (leads : type.LeadsTo entity wrappers) :
    type.entityName? = some (outermost entity wrappers) := by
  cases leads with
  | path text arguments isEntity noWrapper => exact congrArg some isEntity
  | wrapped text leads => rfl

section Entity

variable {last : Identifier} (noWrapper : ∀ wrapper : TypeWrapper, wrapper.name ≠ last.name)

include noWrapper

theorem isWord_eq_false_of_noWrapper (wrapper : TypeWrapper) :
    last.isWord wrapper.name = false := by
  simp [Identifier.isWord, (noWrapper wrapper).symm]

theorem optional?_of_noWrapper (text : String) (arguments : List TypeExpression) :
    (path text last arguments).optional? = none := by
  have noOption : last.isWord "Option" = false := isWord_eq_false_of_noWrapper noWrapper .option
  -- Only a single argument makes a difference.
  rcases arguments with _ | ⟨inner, _ | ⟨next, rest⟩⟩
  · rfl
  · simp [optional?, noOption]
  · rfl

theorem presentNavigationType?_of_noWrapper (text : String) (arguments : List TypeExpression) :
    (path text last arguments).presentNavigationType? = some (.entity last.name) := by
  have noPointer : last.isAmong pointerTypeNames = false := by
    have names : pointerTypeNames = [box, arc, rc].map name := rfl
    simp [Identifier.isAmong, names, isWord_eq_false_of_noWrapper noWrapper]
  have noCollection : last.isWord "Vec" = false := isWord_eq_false_of_noWrapper noWrapper .vec
  rcases arguments with _ | ⟨inner, _ | ⟨next, rest⟩⟩
  · rfl
  · simp [presentNavigationType?, noPointer, noCollection]
  · rfl

end Entity

theorem LeadsTo.present (leads : type.LeadsTo entity wrappers) :
    type.present.LeadsTo entity (behindOption wrappers) := by
  cases leads with
  | path text arguments isEntity noWrapper =>
      subst isEntity
      rw [TypeExpression.present, optional?_of_noWrapper noWrapper]
      exact .path text arguments rfl noWrapper
  | @wrapped text wrapper _ _ leads =>
      cases wrapper with
      | option => exact leads
      | box | arc | rc | vec => exact .wrapped text leads

theorem LeadsTo.presentNavigationType? (leads : type.LeadsTo entity wrappers) :
    type.presentNavigationType? = some (reached entity (wrappers.dropWhile isPointer)) := by
  induction leads with
  | path text arguments isEntity noWrapper =>
      subst isEntity
      exact presentNavigationType?_of_noWrapper noWrapper text arguments
  | @wrapped text wrapper _ _ leads ih =>
      cases wrapper with
      | option => rfl
      | box | arc | rc => exact ih
      | vec => exact congrArg (Option.map PropertyType.collection) leads.entityName?

theorem LeadsTo.navigationType? (leads : type.LeadsTo entity wrappers) :
    type.navigationType? = some (reached entity (concealing wrappers)) :=
  leads.present.presentNavigationType?

end TypeExpression

namespace TypeWrapper

variable {wrappers : List TypeWrapper}

theorem reached_of_seenThrough (entity : String) (seen : SeenThrough wrappers) :
    reached entity (concealing wrappers) = navigationThrough entity wrappers := by
  rcases seenThrough_iff.mp seen with isNil | isVec
  · have single : vec ∉ wrappers := fun among => by simpa [isNil] using vec_mem_concealing among
    rw [isNil, navigationThrough, if_neg single, reached]
  · have many : vec ∈ wrappers := concealing_subset (isVec ▸ List.mem_singleton_self vec)
    rw [isVec, navigationThrough, if_pos many]
    rfl

/-- Where the entity is hidden, the navigation is taken to lead to the outermost wrapper that hides
it, or to a collection of the next one. -/
theorem reached_of_not_seenThrough (entity : String) (hidden : ¬SeenThrough wrappers) :
    ∃ wrapper ∈ wrappers, reached entity (concealing wrappers) = .entity wrapper.name ∨
      reached entity (concealing wrappers) = .collection wrapper.name := by
  rw [seenThrough_iff] at hidden
  cases left : concealing wrappers with
  | nil => exact absurd (.inl left) hidden
  | cons wrapper inner =>
      have among (other : TypeWrapper) (isOther : other ∈ wrapper :: inner) : other ∈ wrappers :=
        concealing_subset (left ▸ isOther)
      cases wrapper with
      | vec =>
          cases inner with
          | nil => exact absurd (.inr left) hidden
          | cons next rest => exact ⟨next, among next (by simp), .inr rfl⟩
      | option | box | arc | rc => exact ⟨_, among _ (by simp), .inl rfl⟩

end TypeWrapper

/-- A navigation leads to the entity, or to a collection of it, exactly where its wrappers are
seen through.  Otherwise one of them is taken for the related entity. -/
theorem TypeExpression.navigation_reaches_entity_iff {type : TypeExpression} {entity : String}
    {wrappers : List TypeWrapper} (leads : type.LeadsTo entity wrappers) :
    (type.navigationType? = some (navigationThrough entity wrappers) ↔
      TypeWrapper.SeenThrough wrappers) ∧
    (¬TypeWrapper.SeenThrough wrappers → ∃ wrapper ∈ wrappers,
      type.navigationType? = some (.entity wrapper.name) ∨
        type.navigationType? = some (.collection wrapper.name)) := by
  have hiddenName (hidden : ¬TypeWrapper.SeenThrough wrappers) : ∃ wrapper ∈ wrappers,
      type.navigationType? = some (.entity wrapper.name) ∨
        type.navigationType? = some (.collection wrapper.name) := by
    obtain ⟨wrapper, among, isName⟩ := TypeWrapper.reached_of_not_seenThrough entity hidden
    rw [leads.navigationType?]
    exact ⟨wrapper, among, isName.imp (congrArg some) (congrArg some)⟩
  refine ⟨⟨fun reaches => ?_, fun seen => ?_⟩, hiddenName⟩
  · by_contra hidden
    obtain ⟨wrapper, -, isName⟩ := hiddenName hidden
    -- The entity would have the name of a wrapper.
    have differs := leads.name_ne wrapper
    rw [reaches, navigationThrough] at isName
    split at isName <;> simp [differs.symm] at isName
  · rw [leads.navigationType?, TypeWrapper.reached_of_seenThrough entity seen]

/-- Lines behind an optional pointer to their collection are reached, a customer behind a pointer to
an optional type is not. -/
theorem TypeExpression.navigation_reaches_entity_iff_of_order :
    let line : TypeExpression := .path "shop::OrderLine" ⟨"OrderLine", false⟩ []
    let lines : TypeExpression := .path "Option<Box<std::vec::Vec<shop::OrderLine>>>"
      ⟨"Option", false⟩ [.path "Box<std::vec::Vec<shop::OrderLine>>" ⟨"Box", false⟩
        [.path "std::vec::Vec<shop::OrderLine>" ⟨"Vec", false⟩ [line]]]
    let customer : TypeExpression := .path "Customer" ⟨"Customer", false⟩ []
    let holder : TypeExpression := .path "Box<Option<Customer>>" ⟨"Box", false⟩
      [.path "Option<Customer>" ⟨"Option", false⟩ [customer]]
    lines.LeadsTo "OrderLine" [.option, .box, .vec] ∧
      lines.navigationType? = some (.collection "OrderLine") ∧
      holder.LeadsTo "Customer" [.box, .option] ∧
      ∃ wrapper ∈ [TypeWrapper.box, .option], holder.navigationType? = some (.entity wrapper.name) ∨
        holder.navigationType? = some (.collection wrapper.name) := by
  intro line lines customer holder
  have toLines : lines.LeadsTo "OrderLine" [.option, .box, .vec] :=
    .wrapped _ (.wrapped _ (.wrapped _ (.path _ _ rfl fun wrapper => by cases wrapper <;> decide)))
  have toCustomer : holder.LeadsTo "Customer" [.box, .option] :=
    .wrapped _ (.wrapped _ (.path _ _ rfl fun wrapper => by cases wrapper <;> decide))
  have seen : TypeWrapper.SeenThrough [.option, .box, .vec] :=
    TypeWrapper.seenThrough_iff.mpr (.inr rfl)
  have hidden : ¬TypeWrapper.SeenThrough [.box, .option] := by
    rw [TypeWrapper.seenThrough_iff]
    decide
  exact ⟨toLines, (navigation_reaches_entity_iff toLines).1.mpr seen, toCustomer,
    (navigation_reaches_entity_iff toCustomer).2 hidden⟩

/-- A declaration whose collection is one of pointers: the related entity has the name of the
pointer. -/
theorem TypeExpression.navigation_names_pointer :
    ((EntityMapping.ofSource
        "struct Order { #[column(navigation)] lines: Vec<Box<OrderLine>> }").toOption.map
      (·.properties.map (·.type))) = some [.collection "Box"] ∧
    ¬∀ (type : TypeExpression) (entity : String) (wrappers : List TypeWrapper),
      type.LeadsTo entity wrappers → wrappers.count .vec ≤ 1 →
        type.navigationType? = some (navigationThrough entity wrappers) := by
  refine ⟨by decide +kernel, fun reaches => ?_⟩
  let line : TypeExpression := .path "OrderLine" ⟨"OrderLine", false⟩ []
  let lines : TypeExpression := .path "Vec<Box<OrderLine>>" ⟨"Vec", false⟩
    [.path "Box<OrderLine>" ⟨"Box", false⟩ [line]]
  have leads : lines.LeadsTo "OrderLine" [.vec, .box] :=
    .wrapped _ (.wrapped _ (.path _ _ rfl fun wrapper => by cases wrapper <;> decide))
  have impossible := reaches lines _ _ leads (by decide)
  revert impossible
  decide

end EntitySql
