import EntitySql.Condition.Compile
import EntitySql.Predicate.Meaning
import EntitySql.Proofs.Parameters

/-!
# What a step of compilation can do

A step of compilation that succeeds was built from steps that succeed.  For each
operation on fragments this says which fragments it accepts, what it makes of them
and which values it binds.
-/

namespace EntitySql

namespace Compile

variable {α β : Type} {work : Compile α} {draft middle after : Draft} {result : α}

theorem run_bind_of_ok (ran : work.run.run draft = (.ok result, middle))
    (next : α → Compile β) :
    (work >>= next).run.run draft = (next result).run.run middle := by
  simp only [ExceptT.run_bind, StateT.run_bind, ran]
  rfl

theorem run_bind_of_error {failure : Failure}
    (ran : work.run.run draft = (.error failure, middle)) (next : α → Compile β) :
    (work >>= next).run.run draft = (.error failure, middle) := by
  simp only [ExceptT.run_bind, StateT.run_bind, ran]
  rfl

/-- The work succeeds on a draft with some result, and leaves another draft. -/
def Gives (work : Compile α) (draft : Draft) (result : α) (after : Draft) : Prop :=
  work.run.run draft = (.ok result, after)

@[simp] theorem gives_pure {given : α} :
    Gives (pure given) draft result after ↔ result = given ∧ after = draft := by
  constructor
  · intro gives
    cases gives
    exact ⟨rfl, rfl⟩
  · rintro ⟨rfl, rfl⟩
    rfl

@[simp] theorem not_gives_throw (failure : Failure) :
    ¬Gives (throw failure : Compile α) draft result after := by
  intro gives
  cases gives

@[simp] theorem not_gives_unsupported (cause : Unsupported) :
    ¬Gives (unsupported cause : Compile α) draft result after :=
  not_gives_throw _

@[simp] theorem gives_bind_iff {next : α → Compile β} {last : β} :
    Gives (work >>= next) draft last after ↔
      ∃ result middle, Gives work draft result middle ∧ Gives (next result) middle last after := by
  constructor
  · intro gives
    rcases ran : work.run.run draft with ⟨failure | result, middle⟩
    · rw [Gives, run_bind_of_error ran] at gives
      cases gives
    · rw [Gives, run_bind_of_ok ran] at gives
      exact ⟨result, middle, ran, gives⟩
  · rintro ⟨result, middle, ran, gives⟩
    rw [Gives, run_bind_of_ok ran]
    exact gives

@[simp] theorem gives_bind {value : Value} {name : String} :
    Gives (Compile.bind value) draft name after ↔
      name = draft.parameters.nextName ∧
        after = { draft with parameters := draft.parameters.bind value } := by
  constructor
  · intro gives
    cases gives
    exact ⟨rfl, rfl⟩
  · rintro ⟨rfl, rfl⟩
    rfl

/-- Values that are bound together get the next names in order. -/
@[simp] theorem gives_bindAll {values : List Value} {names : List String} :
    Gives (bindAll values) draft names after ↔
      names = draft.parameters.nextNames values.length ∧
        after = { draft with parameters := draft.parameters.bindAll values } := by
  induction values generalizing draft names after with
  | nil => simp [bindAll]
  | cons value values ih =>
      rw [bindAll] at ih ⊢
      rw [List.mapM_cons]
      constructor
      · simp only [gives_bind_iff, gives_bind, ih, gives_pure]
        rintro ⟨_, _, ⟨rfl, rfl⟩, _, _, ⟨rfl, rfl⟩, rfl, rfl⟩
        exact ⟨(draft.parameters.nextNames_succ value values.length).symm, rfl⟩
      · rintro ⟨rfl, rfl⟩
        simp only [gives_bind_iff, gives_bind, ih, gives_pure]
        exact ⟨_, _, ⟨rfl, rfl⟩, _, _, ⟨rfl, rfl⟩,
          draft.parameters.nextNames_succ value values.length, rfl⟩

@[simp] theorem gives_lookup {entity : Entity} {handle : PropertyHandle} {property : Property} :
    Gives (lookup entity handle) draft property after ↔
      entity.property? handle.name = some property ∧
        after = { draft with lookups := draft.lookups ++ [property] } := by
  rw [lookup]
  cases found : entity.property? handle.name with
  | none => simp
  | some other =>
      constructor
      · intro gives
        cases gives
        exact ⟨rfl, rfl⟩
      · rintro ⟨sameProperty, rfl⟩
        cases sameProperty
        rfl

end Compile

namespace Fragment

open Compile

variable {fragment result left right item argument : Fragment} {draft after : Draft}
  {condition : Condition Property}

/-- An operand is SQL already, or a single value that is bound. -/
theorem gives_operand :
    Gives fragment.operand draft condition after ↔
      (fragment = .sql condition ∧ after = draft) ∨
      ∃ value, fragment = .literal (.scalar value) ∧
        condition = .marker draft.parameters.nextName ∧
        after = { draft with parameters := draft.parameters.bind value } := by
  cases fragment with
  | sql own => simp [operand, eq_comm]
  | literal literal =>
      cases literal with
      | scalar value =>
          simp only [operand, gives_bind_iff, Compile.gives_bind, gives_pure]
          constructor
          · rintro ⟨_, _, ⟨rfl, rfl⟩, rfl, rfl⟩
            exact .inr ⟨value, rfl, rfl, rfl⟩
          · rintro (⟨impossible, -⟩ | ⟨_, sameFragment, rfl, rfl⟩)
            · cases impossible
            · cases sameFragment
              exact ⟨_, _, ⟨rfl, rfl⟩, rfl, rfl⟩
      | list values => simp [operand]

/-- A condition is SQL already, or one truth value. -/
theorem gives_condition {isBoolColumn : Bool} :
    Gives (fragment.condition isBoolColumn) draft condition after ↔
      after = draft ∧
        ((∃ own, fragment = .sql own ∧
            condition = if isBoolColumn then .holds own else own) ∨
          ∃ outcome, fragment = .literal (.scalar (.bool outcome)) ∧
            condition = .always outcome) := by
  unfold Fragment.condition
  split
  · simp [and_comm]
  · simp [and_comm]
  · next other notBool =>
      simp only [not_gives_unsupported, reduceCtorEq, false_and, exists_false, false_or,
        false_iff, not_and, not_exists]
      rintro - outcome sameFragment
      exact absurd (by simpa using sameFragment) (notBool outcome)

/-- A side of a connective is a condition, in a group if it is a connective of the
other kind. -/
theorem gives_side {connective : Connective} {expression : Expression} :
    Gives (fragment.side connective expression) draft condition after ↔
      ∃ own, Gives (fragment.condition expression.isBoolColumn) draft own after ∧
        condition = if expression.connective?.all (· == connective) then own else .group own := by
  simp only [side, gives_bind_iff]
  cases expression.connective? with
  | none =>
      simp only [gives_pure, Option.all_none, if_true]
      constructor
      · rintro ⟨_, _, gives, rfl, rfl⟩
        exact ⟨_, gives, rfl⟩
      · rintro ⟨_, gives, rfl⟩
        exact ⟨_, _, gives, rfl, rfl⟩
  | some nested =>
      simp only [gives_pure, Option.all_some, beq_iff_eq]
      constructor
      · rintro ⟨own, _, gives, rfl, rfl⟩
        exact ⟨own, gives, rfl⟩
      · rintro ⟨own, gives, rfl⟩
        exact ⟨own, after, gives, rfl, rfl⟩

theorem gives_operands {operands : Condition Property × Condition Property} :
    Gives (left.operands right) draft operands after ↔
      ∃ middle, Gives left.operand draft operands.1 middle ∧
        Gives right.operand middle operands.2 after := by
  simp only [Fragment.operands, gives_bind_iff, gives_pure]
  constructor
  · rintro ⟨first, middle, gives, second, _, gives', rfl, rfl⟩
    exact ⟨middle, gives, gives'⟩
  · rintro ⟨middle, gives, gives'⟩
    exact ⟨_, middle, gives, _, after, gives', rfl, rfl⟩

/-- What equality makes of two fragments when it tests one of them for null. -/
def nullTested? (comparison : Comparison) (left right : Fragment) : Option Fragment :=
  match comparison.nullTest?, left, right with
  | some expected, .literal (.scalar .null), .literal (.scalar .null) =>
      some (.literal (.scalar (.bool expected)))
  | some expected, .sql condition, .literal (.scalar .null) =>
      some (.sql (.nullTest condition expected))
  | some expected, .literal (.scalar .null), .sql condition =>
      some (.sql (.nullTest condition expected))
  | _, _, _ => none

theorem compare_eq (comparison : Comparison) (left right : Fragment) :
    Fragment.compare comparison left right =
      match nullTested? comparison left right with
      | some tested => pure tested
      | none => do
          let left ← left.operand
          let right ← right.operand
          return .sql (.compare comparison left right) := by
  unfold Fragment.compare nullTested?
  cases comparison with
  | equal =>
      dsimp only [Comparison.nullTest?]
      split <;> simp_all
  | notEqual =>
      dsimp only [Comparison.nullTest?]
      split <;> simp_all
  | _ => rfl

/-- A comparison is a null test, or compares operands, of which the left one is bound
first. -/
theorem gives_compare {comparison : Comparison}
    (gives : Gives (Fragment.compare comparison left right) draft result after) :
    (nullTested? comparison left right = some result ∧ after = draft) ∨
    (nullTested? comparison left right = none ∧
      ∃ first middle second, Gives left.operand draft first middle ∧
        Gives right.operand middle second after ∧
        result = .sql (.compare comparison first second)) := by
  rw [compare_eq] at gives
  cases tested : nullTested? comparison left right with
  | some fragment =>
      rw [tested, gives_pure] at gives
      obtain ⟨rfl, rfl⟩ := gives
      exact .inl ⟨rfl, rfl⟩
  | none =>
      simp only [tested, gives_bind_iff, gives_pure] at gives
      obtain ⟨first, middle, givesLeft, second, _, givesRight, rfl, rfl⟩ := gives
      exact .inr ⟨rfl, first, middle, second, givesLeft, givesRight, rfl⟩

theorem gives_not {isBoolColumn : Bool}
    (gives : Gives (fragment.not isBoolColumn) draft result after) :
    after = draft ∧
      ((∃ own, fragment = .sql own ∧
          result = .sql (.not (if isBoolColumn then .holds own else own))) ∨
        ∃ outcome, fragment = .literal (.scalar (.bool outcome)) ∧
          result = .literal (.scalar (.bool !outcome))) := by
  unfold Fragment.not at gives
  split at gives
  · obtain ⟨rfl, rfl⟩ := gives_pure.mp gives
    exact ⟨rfl, .inl ⟨_, rfl, rfl⟩⟩
  · obtain ⟨rfl, rfl⟩ := gives_pure.mp gives
    exact ⟨rfl, .inr ⟨_, rfl, rfl⟩⟩
  · exact absurd gives (not_gives_unsupported _)

theorem gives_negative (gives : Gives fragment.negative draft result after) :
    after = draft ∧
      ((∃ own, fragment = .sql own ∧ result = .sql (.negative own)) ∨
        ∃ value negated, fragment = .literal (.scalar value) ∧
          value.negated? = some negated ∧ result = .literal (.scalar negated)) := by
  unfold negative at gives
  split at gives
  · obtain ⟨rfl, rfl⟩ := gives_pure.mp gives
    exact ⟨rfl, .inl ⟨_, rfl, rfl⟩⟩
  · next n =>
      split at gives
      · exact absurd gives (not_gives_unsupported _)
      · next inRange =>
          obtain ⟨rfl, rfl⟩ := gives_pure.mp gives
          exact ⟨rfl, .inr ⟨.int n, .int (-n), rfl, by simp [Value.negated?, inRange], rfl⟩⟩
  · obtain ⟨rfl, rfl⟩ := gives_pure.mp gives
    exact ⟨rfl, .inr ⟨_, _, rfl, rfl, rfl⟩⟩
  · exact absurd gives (not_gives_unsupported _)

theorem gives_asText (gives : Gives fragment.asText draft result after) :
    after = draft ∧
      ((∃ own, fragment = .sql own ∧ result = .sql (.asText own)) ∨
        ∃ value, fragment = .literal (.scalar value) ∧
          result = .literal (.scalar value.textOrNull)) := by
  unfold asText at gives
  split at gives
  · obtain ⟨rfl, rfl⟩ := gives_pure.mp gives
    exact ⟨rfl, .inl ⟨_, rfl, rfl⟩⟩
  · obtain ⟨rfl, rfl⟩ := gives_pure.mp gives
    exact ⟨rfl, .inr ⟨_, rfl, rfl⟩⟩
  · exact absurd gives (not_gives_unsupported _)

/-- A pattern is made from a known value and bound. -/
theorem gives_matching {method : Method} {subject : Condition Property}
    (gives : Gives (matching method subject argument) draft result after) :
    ∃ value text, argument = .literal (.scalar value) ∧ value.toText = some text ∧
      result = .sql (.like subject draft.parameters.nextName) ∧
      after = { draft with
        parameters := draft.parameters.bind (.text (pattern method text)) } := by
  unfold matching at gives
  dsimp only at gives
  split at gives
  · exact absurd gives (not_gives_unsupported _)
  · next text known =>
      simp only [gives_bind_iff, Compile.gives_bind, gives_pure] at gives
      obtain ⟨_, _, ⟨rfl, rfl⟩, rfl, rfl⟩ := gives
      split at known
      · next value => exact ⟨value, text, rfl, known, rfl, rfl⟩
      · cases known

/-- An item is followed by the parameters of the collection. -/
theorem gives_member {values : List Value}
    (gives : Gives (member values item) draft result after) :
    ∃ operand middle, Gives item.operand draft operand middle ∧
      result = .sql (.member operand (middle.parameters.nextNames values.length)) ∧
      after = { middle with parameters := middle.parameters.bindAll values } := by
  simp only [member, gives_bind_iff, gives_bindAll, gives_pure] at gives
  obtain ⟨operand, middle, givesItem, _, _, ⟨rfl, rfl⟩, rfl, rfl⟩ := gives
  exact ⟨operand, middle, givesItem, rfl, rfl⟩

end Fragment

namespace Expression

open Compile

theorem fragment_textCall (entity : Entity) {method : Method}
    (isTextCall : method.isTextCall = true) (receiver argument : Expression) :
    (call method receiver [argument]).fragment entity = (do
      match ← receiver.fragment entity with
      | .sql subject => Fragment.matching method subject (← argument.fragment entity)
      | .literal literal =>
          match method, literal with
          | .contains, .list values => Fragment.member values (← argument.fragment entity)
          | _, _ => unsupported (.receiver method literal)) := by
  cases method <;> first | rfl | simp [Method.isTextCall] at isTextCall

theorem fragment_argumentCount (entity : Entity) {method : Method}
    (isTextCall : method.isTextCall = true) (receiver : Expression)
    {arguments : List Expression} (count : arguments.length ≠ 1) :
    (call method receiver arguments).fragment entity =
      unsupported (.argumentCount method arguments.length) := by
  rcases arguments with _ | ⟨first, _ | ⟨second, rest⟩⟩
  · cases method <;> first | rfl | simp [Method.isTextCall] at isTextCall
  · exact absurd rfl count
  · cases method <;> first | rfl | simp [Method.isTextCall] at isTextCall

/-- A text call matches SQL with a pattern or looks for an item in a collection. -/
theorem gives_textCall {entity : Entity} {method : Method}
    (isTextCall : method.isTextCall = true) {receiver : Expression}
    {arguments : List Expression} {draft after : Draft} {result : Fragment}
    (gives : Gives ((call method receiver arguments).fragment entity) draft result after) :
    ∃ argument subject first item second, arguments = [argument] ∧
      Gives (receiver.fragment entity) draft subject first ∧
      Gives (argument.fragment entity) first item second ∧
      ((∃ own, subject = .sql own ∧
          Gives (Fragment.matching method own item) second result after) ∨
        ∃ values, subject = .literal (.list values) ∧
          Gives (Fragment.member values item) second result after) := by
  by_cases count : arguments.length = 1
  · obtain ⟨argument, rfl⟩ := List.length_eq_one_iff.mp count
    rw [fragment_textCall entity isTextCall, gives_bind_iff] at gives
    obtain ⟨subject, first, givesReceiver, gives⟩ := gives
    cases subject with
    | sql own =>
        obtain ⟨item, second, givesArgument, gives⟩ := gives_bind_iff.mp gives
        exact ⟨argument, _, first, item, second, rfl, givesReceiver, givesArgument,
          .inl ⟨own, rfl, gives⟩⟩
    | literal literal =>
        dsimp only at gives
        split at gives
        · obtain ⟨item, second, givesArgument, gives⟩ := gives_bind_iff.mp gives
          exact ⟨argument, _, first, item, second, rfl, givesReceiver, givesArgument,
            .inr ⟨_, rfl, gives⟩⟩
        · exact absurd gives (not_gives_unsupported _)
  · rw [fragment_argumentCount entity isTextCall receiver count] at gives
    exact absurd gives (not_gives_unsupported _)

end Expression

end EntitySql
