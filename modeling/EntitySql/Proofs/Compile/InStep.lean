import EntitySql.Proofs.Compile.Steps
import EntitySql.Proofs.Likeness

/-!
# Alike predicates are compiled in step

Two predicates that are alike look up the same properties and bind values under the
same names, step by step.  Where both have an SQL form, it is the same one: at every
place where a value decides what is written, its kind decides.
-/

namespace EntitySql

/-- The same names are bound and the same properties were looked up. -/
structure Draft.Alike (first second : Draft) : Prop where
  names : first.parameters.names = second.parameters.names
  lookups : first.lookups = second.lookups

/-- Parts with the same SQL, or literals that are alike. -/
inductive Fragment.Alike : Fragment → Fragment → Prop where
  | sql (condition : Condition Property) : Alike (.sql condition) (.sql condition)
  | literal {first second : Literal} (alike : first.Alike second) :
      Alike (.literal first) (.literal second)

/-- Values of one kind are still of one kind with their signs changed. -/
theorem Value.Alike.negated? {first second negated negated' : Value}
    (alike : first.Alike second) (isNegated : first.negated? = some negated)
    (isNegated' : second.negated? = some negated') : negated.Alike negated' := by
  cases alike with
  | int m n =>
      simp only [Value.negated?, Option.ite_none_left_eq_some, Option.some.injEq] at isNegated
      simp only [Value.negated?, Option.ite_none_left_eq_some, Option.some.injEq] at isNegated'
      obtain ⟨-, rfl⟩ := isNegated
      obtain ⟨-, rfl⟩ := isNegated'
      exact .int _ _
  | float x y =>
      cases isNegated
      cases isNegated'
      exact .float _ _
  | _ => cases isNegated

namespace Parameters

variable {first second : Parameters}

theorem size_congr (sameNames : first.names = second.names) : first.size = second.size := by
  rw [← length_names, ← length_names, sameNames]

theorem nextNames_congr (sameNames : first.names = second.names) (count : Nat) :
    first.nextNames count = second.nextNames count := by
  rw [nextNames, nextNames, size_congr sameNames]

theorem nextName_congr (sameNames : first.names = second.names) :
    first.nextName = second.nextName := by
  rw [nextName, nextName, size_congr sameNames]

end Parameters

namespace Draft.Alike

variable {first second : Draft}

theorem bindAll (alike : first.Alike second) {values values' : List Value}
    (sameLength : values.length = values'.length) :
    { first with parameters := first.parameters.bindAll values : Draft }.Alike
      { second with parameters := second.parameters.bindAll values' } where
  names := by
    rw [Parameters.names_bindAll, Parameters.names_bindAll, alike.names, sameLength,
      Parameters.nextNames_congr alike.names]
  lookups := alike.lookups

theorem bind (alike : first.Alike second) (value value' : Value) :
    { first with parameters := first.parameters.bind value : Draft }.Alike
      { second with parameters := second.parameters.bind value' } :=
  @bindAll first second alike [value] [value'] rfl

theorem lookUp (alike : first.Alike second) (property : Property) :
    { first with lookups := first.lookups ++ [property] : Draft }.Alike
      { second with lookups := second.lookups ++ [property] } :=
  ⟨alike.names, by rw [alike.lookups]⟩

end Draft.Alike

namespace Compile

variable {α α' β β' : Type}

/-- Started on drafts that are alike, two pieces of work that both succeed have related
results and leave drafts that are alike. -/
def InStep (related : α → α' → Prop) (first : Compile α) (second : Compile α') : Prop :=
  ∀ ⦃draft draft' : Draft⦄, draft.Alike draft' →
    ∀ ⦃result after⦄, Gives first draft result after →
    ∀ ⦃result' after'⦄, Gives second draft' result' after' →
      related result result' ∧ after.Alike after'

theorem inStep_pure {related : α → α' → Prop} {result : α} {result' : α'}
    (isRelated : related result result') : InStep related (pure result) (pure result') := by
  intro draft draft' alike _ _ gives _ _ gives'
  obtain ⟨rfl, rfl⟩ := gives_pure.mp gives
  obtain ⟨rfl, rfl⟩ := gives_pure.mp gives'
  exact ⟨isRelated, alike⟩

/-- Work that always fails keeps in step with everything. -/
theorem inStep_throw {related : α → α' → Prop} (failure : Failure) (second : Compile α') :
    InStep related (throw failure) second :=
  fun _ _ _ _ _ gives => absurd gives (not_gives_throw failure)

theorem InStep.bind {related : α → α' → Prop} {related' : β → β' → Prop}
    {first : Compile α} {second : Compile α'} {next : α → Compile β} {next' : α' → Compile β'}
    (inStep : InStep related first second)
    (goesOn : ∀ result result', related result result' →
      InStep related' (next result) (next' result')) :
    InStep related' (first >>= next) (second >>= next') := by
  intro draft draft' alike last after gives last' after' gives'
  obtain ⟨result, middle, givesFirst, givesNext⟩ := gives_bind_iff.mp gives
  obtain ⟨result', middle', givesFirst', givesNext'⟩ := gives_bind_iff.mp gives'
  obtain ⟨isRelated, alikeMiddle⟩ := inStep alike givesFirst givesFirst'
  exact goesOn result result' isRelated alikeMiddle givesNext givesNext'

theorem inStep_lookup (entity : Entity) (handle : PropertyHandle) :
    InStep Eq (lookup entity handle) (lookup entity handle) := by
  intro draft draft' alike _ _ gives _ _ gives'
  obtain ⟨found, rfl⟩ := gives_lookup.mp gives
  obtain ⟨found', rfl⟩ := gives_lookup.mp gives'
  obtain rfl := Option.some.inj (found.symm.trans found')
  exact ⟨rfl, alike.lookUp _⟩

theorem inStep_bind (value value' : Value) :
    InStep Eq (Compile.bind value) (Compile.bind value') := by
  intro draft draft' alike _ _ gives _ _ gives'
  obtain ⟨rfl, rfl⟩ := gives_bind.mp gives
  obtain ⟨rfl, rfl⟩ := gives_bind.mp gives'
  exact ⟨Parameters.nextName_congr alike.names, alike.bind value value'⟩

theorem inStep_bindAll {values values' : List Value}
    (sameLength : values.length = values'.length) :
    InStep Eq (bindAll values) (bindAll values') := by
  intro draft draft' alike _ _ gives _ _ gives'
  obtain ⟨rfl, rfl⟩ := gives_bindAll.mp gives
  obtain ⟨rfl, rfl⟩ := gives_bindAll.mp gives'
  rw [sameLength]
  exact ⟨Parameters.nextNames_congr alike.names _, alike.bindAll sameLength⟩

end Compile

namespace Fragment

open Compile

variable {first second left left' right right' item item' : Fragment}

theorem inStep_operand (alike : first.Alike second) :
    InStep Eq first.operand second.operand := by
  cases alike with
  | sql condition => exact inStep_pure rfl
  | literal alikeLiteral =>
      cases alikeLiteral with
      | scalar alikeValue =>
          refine (inStep_bind _ _).bind fun name name' sameName => ?_
          exact inStep_pure (congrArg Condition.marker sameName)
      | list sameLength => exact inStep_throw _ _

theorem inStep_condition (alike : first.Alike second) (isBoolColumn : Bool) :
    InStep Eq (first.condition isBoolColumn) (second.condition isBoolColumn) := by
  cases alike with
  | sql condition => exact inStep_pure rfl
  | literal alikeLiteral =>
      cases alikeLiteral with
      | scalar alikeValue =>
          cases alikeValue with
          | bool outcome => exact inStep_pure rfl
          | _ => exact inStep_throw _ _
      | list sameLength => exact inStep_throw _ _

theorem inStep_side (alike : first.Alike second) (connective : Connective)
    {expression expression' : Expression} (alikeExpression : expression.Alike expression') :
    InStep Eq (first.side connective expression) (second.side connective expression') := by
  rw [side, side, alikeExpression.isBoolColumn, alikeExpression.connective?]
  refine (inStep_condition alike _).bind ?_
  rintro condition _ rfl
  cases expression'.connective? with
  | none => exact inStep_pure rfl
  | some nested => exact inStep_pure rfl

theorem inStep_operands (alikeLeft : left.Alike left') (alikeRight : right.Alike right') :
    InStep Eq (left.operands right) (left'.operands right') := by
  refine (inStep_operand alikeLeft).bind ?_
  rintro first _ rfl
  refine (inStep_operand alikeRight).bind ?_
  rintro second _ rfl
  exact inStep_pure rfl

/-- A null is tested for, or compared with, wherever another null is. -/
theorem Alike.nullTested? (comparison : Comparison) (alikeLeft : left.Alike left')
    (alikeRight : right.Alike right') :
    nullTested? comparison left right = nullTested? comparison left' right' := by
  unfold Fragment.nullTested?
  cases comparison.nullTest? with
  | none => rfl
  | some expected =>
      cases alikeLeft with
      | sql condition =>
          cases alikeRight with
          | sql condition' => rfl
          | literal alikeLiteral =>
              cases alikeLiteral with
              | scalar alikeValue => cases alikeValue <;> rfl
              | list sameLength => rfl
      | literal alikeLiteral =>
          cases alikeLiteral with
          | list sameLength => cases alikeRight <;> rfl
          | scalar alikeValue =>
              cases alikeRight with
              | sql condition => cases alikeValue <;> rfl
              | literal alikeLiteral' =>
                  cases alikeLiteral' with
                  | scalar alikeValue' => cases alikeValue <;> cases alikeValue' <;> rfl
                  | list sameLength => cases alikeValue <;> rfl

/-- A null test holds no value, and a truth value in its place is like itself. -/
theorem alike_of_nullTested {comparison : Comparison} {tested : Fragment}
    (isTested : nullTested? comparison left right = some tested) : tested.Alike tested := by
  unfold nullTested? at isTested
  split at isTested
  · cases isTested
    exact .literal (.scalar (.bool _))
  · cases isTested
    exact .sql _
  · cases isTested
    exact .sql _
  · cases isTested

theorem inStep_compare (comparison : Comparison) (alikeLeft : left.Alike left')
    (alikeRight : right.Alike right') :
    InStep Fragment.Alike (Fragment.compare comparison left right)
      (Fragment.compare comparison left' right') := by
  rw [compare_eq, compare_eq, alikeLeft.nullTested? comparison alikeRight]
  cases tested : Fragment.nullTested? comparison left' right' with
  | some fragment => exact inStep_pure (alike_of_nullTested tested)
  | none =>
      refine (inStep_operand alikeLeft).bind ?_
      rintro first _ rfl
      refine (inStep_operand alikeRight).bind ?_
      rintro second _ rfl
      exact inStep_pure (.sql _)

theorem inStep_not (alike : first.Alike second) (isBoolColumn : Bool) :
    InStep Fragment.Alike (first.not isBoolColumn) (second.not isBoolColumn) := by
  cases alike with
  | sql condition => exact inStep_pure (.sql _)
  | literal alikeLiteral =>
      cases alikeLiteral with
      | scalar alikeValue =>
          cases alikeValue with
          | bool outcome => exact inStep_pure (.literal (.scalar (.bool _)))
          | _ => exact inStep_throw _ _
      | list sameLength => exact inStep_throw _ _

/-- A sign is changed, in SQL or in a number.  The least integer has no counterpart, and
then the work fails. -/
theorem inStep_negative (alike : first.Alike second) :
    InStep Fragment.Alike first.negative second.negative := by
  intro draft draft' alikeDrafts _ _ gives _ _ gives'
  obtain ⟨rfl, ⟨own, rfl, rfl⟩ | ⟨value, negated, rfl, isNegated, rfl⟩⟩ := gives_negative gives
  · cases alike
    obtain ⟨rfl, ⟨_, ⟨⟩, rfl⟩ | ⟨_, _, impossible, -⟩⟩ := gives_negative gives'
    · exact ⟨.sql _, alikeDrafts⟩
    · cases impossible
  · obtain ⟨rfl, ⟨_, rfl, rfl⟩ | ⟨value', negated', rfl, isNegated', rfl⟩⟩ :=
      gives_negative gives'
    · cases alike
    · cases alike with
      | literal alikeLiteral =>
          cases alikeLiteral with
          | scalar alikeValue =>
              exact ⟨.literal (.scalar (alikeValue.negated? isNegated isNegated')), alikeDrafts⟩

theorem inStep_asText (alike : first.Alike second) :
    InStep Fragment.Alike first.asText second.asText := by
  cases alike with
  | sql condition => exact inStep_pure (.sql _)
  | literal alikeLiteral =>
      cases alikeLiteral with
      | scalar alikeValue => exact inStep_pure (.literal (.scalar alikeValue.textOrNull))
      | list sameLength => exact inStep_throw _ _

theorem inStep_matching (method : Method) (subject : Condition Property) (item item' : Fragment) :
    InStep Fragment.Alike (matching method subject item) (matching method subject item') := by
  intro draft draft' alike _ _ gives _ _ gives'
  obtain ⟨_, _, -, -, rfl, rfl⟩ := gives_matching gives
  obtain ⟨_, _, -, -, rfl, rfl⟩ := gives_matching gives'
  rw [Parameters.nextName_congr alike.names]
  exact ⟨.sql _, alike.bind _ _⟩

theorem inStep_member {values values' : List Value}
    (sameLength : values.length = values'.length) (alike : item.Alike item') :
    InStep Fragment.Alike (member values item) (member values' item') := by
  refine (inStep_operand alike).bind ?_
  rintro operand _ rfl
  refine (inStep_bindAll sameLength).bind ?_
  rintro names _ rfl
  exact inStep_pure (.sql _)

end Fragment

namespace Expression

open Compile

variable {entity : Entity}

/-- Alike predicates yield fragments that are alike. -/
theorem inStep_fragment {first second : Expression} (alike : first.Alike second) :
    InStep Fragment.Alike (first.fragment entity) (second.fragment entity) := by
  induction first generalizing second with
  | column handle =>
      cases alike
      refine (inStep_lookup entity handle).bind ?_
      rintro property _ rfl
      exact inStep_pure (.sql _)
  | constant literal =>
      cases alike with
      | constant alikeLiteral => exact inStep_pure (.literal alikeLiteral)
  | captured literal =>
      cases alike with
      | captured alikeLiteral => exact inStep_pure (.literal alikeLiteral)
  | invoke inner ih =>
      cases alike with
      | invoke alikeInner =>
          have inStepInner := ih alikeInner
          exact inStepInner
  | binary operator left right ihLeft ihRight =>
      cases alike with
      | binary _ alikeLeft alikeRight =>
          cases operator with
          | connect connective =>
              apply (ihLeft alikeLeft).bind
              intro leftFragment leftFragment' alikeFragments
              apply (Fragment.inStep_side alikeFragments connective alikeLeft).bind
              rintro leftSide _ rfl
              apply (ihRight alikeRight).bind
              intro rightFragment rightFragment' alikeFragments'
              apply (Fragment.inStep_side alikeFragments' connective alikeRight).bind
              rintro rightSide _ rfl
              exact inStep_pure (.sql _)
          | compare comparison =>
              apply (ihLeft alikeLeft).bind
              intro leftFragment leftFragment' alikeFragments
              apply (ihRight alikeRight).bind
              intro rightFragment rightFragment' alikeFragments'
              exact Fragment.inStep_compare comparison alikeFragments alikeFragments'
          | compute arithmetic =>
              apply (ihLeft alikeLeft).bind
              intro leftFragment leftFragment' alikeFragments
              apply (ihRight alikeRight).bind
              intro rightFragment rightFragment' alikeFragments'
              apply (Fragment.inStep_operands alikeFragments alikeFragments').bind
              rintro operands _ rfl
              exact inStep_pure (.sql _)
          | coalesce =>
              apply (ihLeft alikeLeft).bind
              intro leftFragment leftFragment' alikeFragments
              apply (ihRight alikeRight).bind
              intro rightFragment rightFragment' alikeFragments'
              apply (Fragment.inStep_operands alikeFragments alikeFragments').bind
              rintro operands _ rfl
              exact inStep_pure (.sql _)
  | unary operator operand ih =>
      cases alike with
      | unary _ alikeOperand =>
          cases operator with
          | not =>
              apply (ih alikeOperand).bind
              intro fragment fragment' alikeFragments
              rw [alikeOperand.isBoolColumn]
              exact Fragment.inStep_not alikeFragments _
          | negate =>
              apply (ih alikeOperand).bind
              intro fragment fragment' alikeFragments
              exact Fragment.inStep_negative alikeFragments
  | call method receiver arguments ihReceiver ihArguments =>
      cases alike with
      | @call _ _ receiver' _ arguments' alikeReceiver alikeArguments =>
          cases isTextCall : method.isTextCall with
          | false =>
              cases method with
              | toText =>
                  apply (ihReceiver alikeReceiver).bind
                  intro fragment fragment' alikeFragments
                  exact Fragment.inStep_asText alikeFragments
              | other name => exact inStep_throw _ _
              | _ => simp [Method.isTextCall] at isTextCall
          | true =>
              by_cases count : arguments.length = 1
              · obtain ⟨argument, rfl⟩ := List.length_eq_one_iff.mp count
                obtain ⟨argument', _, alikeArgument, alikeRest, rfl⟩ :=
                  List.forall₂_cons_left_iff.mp alikeArguments
                obtain rfl := List.forall₂_nil_left_iff.mp alikeRest
                rw [fragment_textCall entity isTextCall, fragment_textCall entity isTextCall]
                apply (ihReceiver alikeReceiver).bind
                intro fragment fragment' alikeFragments
                have ihArgument := ihArguments argument (by simp) alikeArgument
                cases alikeFragments with
                | sql subject =>
                    apply ihArgument.bind
                    intro item item' alikeItems
                    exact Fragment.inStep_matching method subject item item'
                | literal alikeLiteral =>
                    cases alikeLiteral with
                    | scalar alikeValue => cases method <;> exact inStep_throw _ _
                    | list sameLength =>
                        cases method with
                        | contains =>
                            apply ihArgument.bind
                            intro item item' alikeItems
                            exact Fragment.inStep_member sameLength alikeItems
                        | _ => exact inStep_throw _ _
              · rw [fragment_argumentCount entity isTextCall receiver count]
                exact inStep_throw _ _

/-- Alike predicates have the same SQL form, wherever both have one. -/
theorem inStep_condition {first second : Expression} (alike : first.Alike second) :
    InStep Eq (first.condition entity) (second.condition entity) := by
  apply (inStep_fragment alike).bind
  intro fragment fragment' alikeFragments
  rw [alike.isBoolColumn]
  exact Fragment.inStep_condition alikeFragments _

end Expression

end EntitySql
