import EntitySql.Proofs.Compile.Growth
import EntitySql.Proofs.Compile.Judged
import EntitySql.Proofs.Compile.Rules
import EntitySql.Proofs.Reading.Surroundings

/-!
# Compiling a part in its surroundings

What a predicate becomes is bracketed, whatever stands in it.  A membership becomes a membership,
and everything around it becomes what stands around that.
-/

namespace EntitySql

open Compile

variable {entity : Entity} {expression : Expression} {fragment : Fragment}
  {draft after : Draft} {compiled : Condition Property}

namespace Fragment

/-- The fragment has the sides of its connectives grouped, and the connective of the expression at
its root. -/
def IsBracketed (expression : Expression) : Fragment → Prop
  | .sql own => own.isBracketed = true ∧ own.connective? = expression.connective?
  | .literal _ => expression.connective? = none

theorem IsBracketed.condition (bracketed : fragment.IsBracketed expression)
    (becomes : fragment.BecomesCondition expression.isBoolColumn compiled) :
    compiled.isBracketed = true ∧ compiled.connective? = expression.connective? := by
  cases becomes with
  | decided => exact ⟨rfl, bracketed.symm⟩
  | sql own =>
      cases isBool : expression.isBoolColumn with
      | false => exact bracketed
      | true =>
          refine ⟨rfl, ?_⟩
          unfold Expression.isBoolColumn at isBool
          unfold Expression.connective?
          split at isBool
          · next isColumn =>
              rw [isColumn]
              rfl
          · cases isBool

/-- Grouped where it needs it, it is a side of the connective. -/
theorem IsBracketed.side {connective : Connective} (bracketed : fragment.IsBracketed expression)
    (becomes : fragment.BecomesCondition expression.isBoolColumn compiled) :
    let side :=
      if expression.connective?.all (· == connective) then compiled else .group compiled
    side.isBracketed = true ∧ side.fits connective = true := by
  obtain ⟨isBracketed, sameConnective⟩ := bracketed.condition becomes
  intro side
  by_cases fits : expression.connective?.all (· == connective) = true
  · rw [show side = compiled from if_pos fits]
    exact ⟨isBracketed, by rwa [Condition.fits, sameConnective]⟩
  · rw [show side = .group compiled from if_neg fits]
    exact ⟨isBracketed, rfl⟩

end Fragment

namespace Expression

/-- Whatever a predicate says, the sides of its connectives are grouped where they need it. -/
theorem isBracketed_of_becomes (becomes : expression.Becomes entity fragment) :
    fragment.IsBracketed expression := by
  induction becomes with
  | invoke _ ih => exact ih
  | connect _ _ first second ihLeft ihRight =>
      obtain ⟨bracketedLeft, fitsLeft⟩ := ihLeft.side first
      obtain ⟨bracketedRight, fitsRight⟩ := ihRight.side second
      refine ⟨?_, rfl⟩
      simp only [Condition.isBracketed, Bool.and_eq_true]
      exact ⟨⟨⟨bracketedLeft, bracketedRight⟩, fitsLeft⟩, fitsRight⟩
  | nullTest _ _ tested =>
      unfold Fragment.nullTested? at tested
      split at tested <;> cases tested
      · rfl
      · exact ⟨rfl, rfl⟩
      · exact ⟨rfl, rfl⟩
  | @not operand own becomes ih =>
      have condition : (Fragment.sql own).BecomesCondition operand.isBoolColumn _ := .sql own
      exact ⟨(ih.condition condition).1, rfl⟩
  | constant | captured | notDecided | negateKnown | asTextKnown => rfl
  | column | compare | compute | coalesce | negate | asText | like | member => exact ⟨rfl, rfl⟩

theorem isBracketed_of_gives (gives : Gives (expression.condition entity) draft compiled after) :
    compiled.isBracketed = true := by
  obtain ⟨fragment, becomes, becomesCondition⟩ := becomes_of_gives_condition gives
  exact ((isBracketed_of_becomes becomes).condition becomesCondition).1

theorem gives_of_collection {candidates : List Value}
    (collection : expression.collection? = some candidates)
    (gives : Gives (expression.fragment entity) draft fragment after) :
    fragment = .literal (.list candidates) ∧ after = draft := by
  induction expression with
  | constant literal | captured literal =>
      cases literal with
      | scalar value => cases collection
      | list values =>
          cases collection
          exact gives_pure.mp gives
  | invoke inner ih => exact ih collection gives
  | _ => cases collection

end Expression

namespace Surroundings

variable {receiver item : Expression} {candidates : List Value}

theorem isBoolColumn_predicate (place : Surroundings Expression) (method : Method)
    (arguments : List Expression) :
    (place.predicate (.call method receiver arguments)).isBoolColumn = false := by
  induction place with
  | nil => rfl
  | cons layer rest ih =>
      cases layer with
      | enclosed => exact ih
      | negated | before | after => rfl

/-- The condition is a membership among the candidates in surroundings like those of the
predicate, and its markers are those of the candidates. -/
def FindsAmong (candidates : List Value) (place : Surroundings Expression) (after : Draft)
    (compiled : Condition Property) : Prop :=
  ∃ (around : Surroundings (Condition Property)) (operand : Condition Property) (middle : Draft),
    compiled = around.condition
        (.member operand (middle.parameters.nextNames candidates.length)) ∧
      around.steps = place.steps ∧ middle.parameters.Numbered ∧
      after.parameters.Extends (middle.parameters.bindAll candidates)

theorem FindsAmong.within {place : Surroundings Expression} {layer : Layer Expression}
    {last : Draft} (finds : place.FindsAmong candidates after compiled)
    (outer : Layer (Condition Property)) (sameStep : outer.step? = layer.step?)
    (grows : last.parameters.Extends after.parameters) :
    FindsAmong candidates (layer :: place) last (outer.condition compiled) := by
  obtain ⟨around, operand, middle, rfl, sameSteps, numbered, bound⟩ := finds
  refine ⟨outer :: around, operand, middle, rfl, ?_, numbered, grows.trans bound⟩
  simp only [steps, List.filterMap_cons, sameStep] at sameSteps ⊢
  rw [sameSteps]

/-- Parentheses around it are no operator. -/
theorem FindsAmong.side {place : Surroundings Expression} {grouped : Prop} [Decidable grouped]
    (finds : place.FindsAmong candidates after compiled) :
    place.FindsAmong candidates after (if grouped then compiled else .group compiled) := by
  split
  · exact finds
  · obtain ⟨around, operand, middle, rfl, sameSteps, numbered, bound⟩ := finds
    exact ⟨.enclosed :: around, operand, middle, rfl, sameSteps, numbered, bound⟩

/-- A membership in its place becomes a membership in its place. -/
theorem findsAmong_of_gives {place : Surroundings Expression}
    (collection : receiver.collection? = some candidates)
    (gives : Gives ((place.predicate (.call .contains receiver [item])).fragment entity) draft
      fragment after)
    (numbered : draft.parameters.Numbered) :
    ∃ own, fragment = .sql own ∧ place.FindsAmong candidates after own := by
  induction place generalizing draft fragment after with
  | nil =>
      have isTextCall : Method.contains.isTextCall = true := rfl
      obtain ⟨argument, subject, first, found, second, sameArguments, givesReceiver, givesItem,
        givesMember⟩ := Expression.gives_textCall isTextCall gives
      cases sameArguments
      obtain ⟨rfl, rfl⟩ := Expression.gives_of_collection collection givesReceiver
      obtain ⟨own, impossible, -⟩ | ⟨values, sameLiteral, givesMember⟩ := givesMember
      · cases impossible
      · cases sameLiteral
        obtain ⟨operand, middle, givesOperand, rfl, rfl⟩ := Fragment.gives_member givesMember
        have growsItem := (givesItem.grows (Expression.grows_fragment item)).parameters
        have growsOperand :=
          (givesOperand.grows (@Fragment.grows_operand entity found)).parameters
        exact ⟨_, rfl, [], operand, middle, rfl, rfl,
          growsOperand.numbered (growsItem.numbered numbered), .refl _⟩
  | cons layer rest ih =>
      have noColumn : (predicate rest (.call .contains receiver [item])).isBoolColumn = false :=
        isBoolColumn_predicate rest .contains [item]
      rw [predicate_cons] at gives
      cases layer with
      | enclosed => exact ih gives numbered
      | negated =>
          obtain ⟨inner, _, givesInner, givesNot⟩ := gives_bind_iff.mp gives
          obtain ⟨own, rfl, finds⟩ := ih givesInner numbered
          obtain ⟨rfl, ⟨_, sameFragment, rfl⟩ | ⟨_, impossible, -⟩⟩ := Fragment.gives_not givesNot
          · cases sameFragment
            rw [noColumn]
            exact ⟨_, rfl, finds.within .negated rfl (.refl _)⟩
          · cases impossible
      | before connective other =>
          simp only [Layer.predicate, Expression.fragment, gives_bind_iff, gives_pure] at gives
          obtain ⟨_, _, givesPart, _, middle, givesSide, otherFragment, _, givesOther, otherSide,
            _, givesOtherSide, rfl, rfl⟩ := gives
          obtain ⟨own, rfl, finds⟩ := ih givesPart numbered
          obtain ⟨_, givesOwn, rfl⟩ := Fragment.gives_side.mp givesSide
          rw [noColumn] at givesOwn
          obtain ⟨rfl, rfl⟩ := Expression.eq_of_gives_sql givesOwn
          -- The other side binds after the candidates, which it leaves as they are.
          have growsOther := (givesOther.grows (Expression.grows_fragment other)).parameters
          have growsSide :=
            (givesOtherSide.grows (@Fragment.grows_side entity _ _ _)).parameters
          exact ⟨_, rfl, finds.side.within (.before connective otherSide) rfl
            (growsSide.trans growsOther)⟩
      | after connective other =>
          simp only [Layer.predicate, Expression.fragment, gives_bind_iff, gives_pure] at gives
          obtain ⟨otherFragment, _, givesOther, otherSide, _, givesOtherSide, _, _, givesPart, _,
            _, givesSide, rfl, rfl⟩ := gives
          have growsOther := (givesOther.grows (Expression.grows_fragment other)).parameters
          have growsSide :=
            (givesOtherSide.grows (@Fragment.grows_side entity _ _ _)).parameters
          obtain ⟨own, rfl, finds⟩ :=
            ih givesPart (growsSide.numbered (growsOther.numbered numbered))
          obtain ⟨_, givesOwn, rfl⟩ := Fragment.gives_side.mp givesSide
          rw [noColumn] at givesOwn
          obtain ⟨rfl, rfl⟩ := Expression.eq_of_gives_sql givesOwn
          exact ⟨_, rfl, finds.side.within (.after connective otherSide) rfl (.refl _)⟩

theorem findsAmong_of_gives_condition {place : Surroundings Expression}
    (collection : receiver.collection? = some candidates)
    (gives : Gives ((place.predicate (.call .contains receiver [item])).condition entity) draft
      compiled after)
    (numbered : draft.parameters.Numbered) : place.FindsAmong candidates after compiled := by
  obtain ⟨fragment, middle, givesFragment, givesCondition⟩ := gives_bind_iff.mp gives
  obtain ⟨own, rfl, finds⟩ := findsAmong_of_gives collection givesFragment numbered
  rw [isBoolColumn_predicate] at givesCondition
  obtain ⟨rfl, rfl⟩ := Expression.eq_of_gives_sql givesCondition
  exact finds

end Surroundings

end EntitySql
