import EntitySql.Proofs.Compile.Closure

/-!
# Compilation only adds to the draft

Whether it succeeds or fails, every step of compilation keeps the values that are
bound and the properties that were looked up, and adds further ones after them.
-/

namespace EntitySql

/-- The later parameters bind what the earlier ones do, and perhaps more. -/
def Parameters.Extends (later earlier : Parameters) : Prop :=
  ∃ values, later = earlier.bindAll values

namespace Parameters

variable {first second third : Parameters}

theorem Extends.refl (parameters : Parameters) : parameters.Extends parameters :=
  ⟨[], rfl⟩

theorem Extends.trans (later : third.Extends second) (earlier : second.Extends first) :
    third.Extends first := by
  obtain ⟨values, rfl⟩ := earlier
  obtain ⟨more, rfl⟩ := later
  exact ⟨values ++ more, (bindAll_append first values more).symm⟩

theorem extends_bind (parameters : Parameters) (value : Value) :
    (parameters.bind value).Extends parameters :=
  ⟨[value], rfl⟩

theorem Extends.numbered (later : second.Extends first) (numbered : first.Numbered) :
    second.Numbered := by
  obtain ⟨values, rfl⟩ := later
  exact numbered.bindAll values

end Parameters

/-- One draft results from another by binding values and looking up properties of
the entity. -/
structure Draft.Grows (entity : Entity) (before after : Draft) : Prop where
  parameters : after.parameters.Extends before.parameters
  lookups : ∃ found, after.lookups = before.lookups ++ found ∧ entity.Owns found

namespace Draft

variable {entity : Entity} {first second third : Draft}

theorem Grows.refl (draft : Draft) : draft.Grows entity draft :=
  ⟨.refl _, [], (List.append_nil _).symm, entity.owns_nil⟩

theorem Grows.trans (earlier : first.Grows entity second) (later : second.Grows entity third) :
    first.Grows entity third := by
  obtain ⟨found, lookups, own⟩ := earlier.lookups
  obtain ⟨found', lookups', own'⟩ := later.lookups
  refine ⟨later.parameters.trans earlier.parameters, found ++ found', ?_, own.append own'⟩
  rw [lookups', lookups, List.append_assoc]

end Draft

namespace Compile

variable {α β : Type} {entity : Entity}

/-- The draft grows, however the work ends. -/
def Grows (entity : Entity) (work : Compile α) : Prop :=
  ∀ draft : Draft, draft.Grows entity (work.run.run draft).2

theorem Gives.grows {work : Compile α} {before after : Draft} {result : α}
    (gives : Gives work before result after) (grows : Grows entity work) :
    before.Grows entity after := by
  have whole := grows before
  rwa [gives] at whole

@[simp] theorem grows_pure (result : α) : Grows entity (pure result : Compile α) :=
  fun draft => .refl draft

@[simp] theorem grows_throw (failure : Failure) : Grows entity (throw failure : Compile α) :=
  fun draft => .refl draft

@[simp] theorem grows_unsupported (cause : Unsupported) :
    Grows entity (unsupported cause : Compile α) :=
  grows_throw _

theorem Grows.bind {work : Compile α} {next : α → Compile β} (grows : Grows entity work)
    (nextGrows : ∀ result, Grows entity (next result)) : Grows entity (work >>= next) := by
  intro draft
  have first := grows draft
  rcases ran : work.run.run draft with ⟨failure | result, middle⟩
  · rw [run_bind_of_error ran]
    rwa [ran] at first
  · rw [run_bind_of_ok ran]
    rw [ran] at first
    exact first.trans (nextGrows result middle)

@[simp] theorem grows_bind (value : Value) : Grows entity (Compile.bind value) :=
  fun draft =>
    ⟨draft.parameters.extends_bind value, [], (List.append_nil _).symm, entity.owns_nil⟩

@[simp] theorem grows_lookup (handle : PropertyHandle) : Grows entity (lookup entity handle) := by
  rw [lookup]
  cases found : entity.property? handle.name with
  | none => exact grows_throw _
  | some property =>
      intro draft
      exact ⟨.refl _, [property], rfl, entity.owns_property? found⟩

/-- So growth goes over from steps to the whole compilation. -/
theorem grows_closed (entity : Entity) : Closed (Grows entity) where
  pure := grows_pure
  bind := grows_bind
  unsupported := grows_unsupported
  unsupportedMethod name := grows_throw (.unsupportedMethod name)
  andThen := Grows.bind

end Compile

namespace Fragment

open Compile

variable {entity : Entity}

@[simp] theorem grows_operand (fragment : Fragment) : Grows entity fragment.operand :=
  (grows_closed entity).operand fragment

@[simp] theorem grows_condition (isBoolColumn : Bool) (fragment : Fragment) :
    Grows entity (fragment.condition isBoolColumn) :=
  (grows_closed entity).condition isBoolColumn fragment

@[simp] theorem grows_side (connective : Connective) (expression : Expression)
    (fragment : Fragment) : Grows entity (fragment.side connective expression) :=
  (grows_closed entity).side connective expression fragment

@[simp] theorem grows_compare (comparison : Comparison) (left right : Fragment) :
    Grows entity (Fragment.compare comparison left right) :=
  (grows_closed entity).compare comparison left right

@[simp] theorem grows_matching (method : Method) (subject : Condition Property)
    (argument : Fragment) : Grows entity (matching method subject argument) :=
  (grows_closed entity).matching method subject argument

@[simp] theorem grows_member (values : List Value) (item : Fragment) :
    Grows entity (member values item) :=
  (grows_closed entity).member values item

end Fragment

namespace Expression

open Compile

variable {entity : Entity}

/-- A predicate adds to the draft, also when it has no SQL form. -/
theorem grows_fragment (expression : Expression) :
    Grows entity (expression.fragment entity) :=
  (grows_closed entity).fragment fun handle _ => grows_lookup handle

/-- So does a predicate that is to be a condition. -/
theorem grows_condition (expression : Expression) :
    Grows entity (expression.condition entity) :=
  (grows_closed entity).whole fun handle _ => grows_lookup handle

end Expression

end EntitySql
