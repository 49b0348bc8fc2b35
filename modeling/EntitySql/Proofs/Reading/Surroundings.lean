import EntitySql.Predicate.Meaning
import EntitySql.Proofs.Reading.Outline

/-!
# Parts of conditions in their surroundings

A part of a predicate stands under negations and beside the other sides of connectives, and so does
the part of the condition that it is compiled to.  The condition is read as its surroundings say,
with the parts beside taken as atoms.
-/

namespace EntitySql

open EntitySql.Sql

/-- One layer around a part: a negation, a connective with its other side, or an invocation or
parentheses, which change nothing. -/
inductive Layer (α : Type) where
  | negated
  /-- The part is the left side. -/
  | before (connective : Connective) (right : α)
  /-- The part is the right side. -/
  | after (connective : Connective) (left : α)
  | enclosed

namespace Layer

variable {α β γ : Type}

def predicate : Layer Expression → Expression → Expression
  | .negated, part => .unary .not part
  | .before connective right, part => .binary (.connect connective) part right
  | .after connective left, part => .binary (.connect connective) left part
  | .enclosed, part => .invoke part

def condition : Layer (Condition γ) → Condition γ → Condition γ
  | .negated, part => .not part
  | .before connective right, part => .connect connective part right
  | .after connective left, part => .connect connective left part
  | .enclosed, part => .group part

/-- The truth of the whole, given that of the part. -/
def truth (verdict : α → Truth) : Layer α → Truth → Truth
  | .negated, part => part.not
  | .before connective right, part => connective.truth part (verdict right)
  | .after connective left, part => connective.truth (verdict left) part
  | .enclosed, part => part

def map (f : α → β) : Layer α → Layer β
  | .negated => .negated
  | .before connective right => .before connective (f right)
  | .after connective left => .after connective (f left)
  | .enclosed => .enclosed

def sibling? : Layer α → Option α
  | .before _ other | .after _ other => some other
  | .negated | .enclosed => none

/-- The operator of the layer and the side of the part. -/
def step? : Layer α → Option (Layer Unit)
  | .enclosed => none
  | layer => some (layer.map fun _ => ())

end Layer

/-- The layers around a part, the outermost first. -/
abbrev Surroundings (α : Type) := List (Layer α)

namespace Surroundings

variable {α β γ δ : Type}

def predicate (place : Surroundings Expression) (part : Expression) : Expression :=
  place.foldr Layer.predicate part

def condition (place : Surroundings (Condition γ)) (part : Condition γ) : Condition γ :=
  place.foldr Layer.condition part

/-- The truth of the whole, given that of the part. -/
def truth (verdict : α → Truth) (place : Surroundings α) (part : Truth) : Truth :=
  place.foldr (Layer.truth verdict) part

def siblings (place : Surroundings α) : List α :=
  place.filterMap Layer.sibling?

/-- The operators around the part, with the side on which it stands. -/
def steps (place : Surroundings α) : List (Layer Unit) :=
  place.filterMap Layer.step?

@[simp] theorem predicate_cons (layer : Layer Expression) (place : Surroundings Expression)
    (part : Expression) :
    predicate (layer :: place) part = layer.predicate (place.predicate part) :=
  rfl

@[simp] theorem condition_cons (layer : Layer (Condition γ)) (place : Surroundings (Condition γ))
    (part : Condition γ) :
    condition (layer :: place) part = layer.condition (place.condition part) :=
  rfl

@[simp] theorem truth_cons (verdict : α → Truth) (layer : Layer α) (place : Surroundings α)
    (part : Truth) :
    truth verdict (layer :: place) part = layer.truth verdict (place.truth verdict part) :=
  rfl

theorem map_condition (f : γ → δ) (place : Surroundings (Condition γ)) (part : Condition γ) :
    (place.condition part).map f =
      condition (place.map (Layer.map (Condition.map f))) (part.map f) := by
  induction place with
  | nil => rfl
  | cons layer rest ih =>
      rw [condition_cons, List.map_cons, condition_cons, ← ih]
      cases layer <;> rfl

theorem steps_map (f : α → β) (place : Surroundings α) :
    steps (place.map (Layer.map f)) = place.steps := by
  have sameStep : Layer.step? ∘ Layer.map f = Layer.step? := by
    funext layer
    cases layer <;> rfl
  rw [steps, List.filterMap_map, sameStep, steps]

variable {place : Surroundings (Condition String)} {part opened : Condition String}
  {dialect : Dialect}

/-- The place with everything beside the part as outlines. -/
def outline (dialect : Dialect) (place : Surroundings (Condition String)) :
    Surroundings (Condition String) :=
  place.map (Layer.map (Condition.outline dialect))

theorem connective?_outline (same : opened.connective? = part.connective?) :
    ((place.outline dialect).condition opened).connective? =
      (place.condition part).connective? := by
  cases place with
  | nil => exact same
  | cons layer rest => cases layer <;> rfl

/-- In a bracketed condition, a part may be replaced by a legible one and what stands beside it by
outlines. -/
theorem isLegible_outline (same : opened.connective? = part.connective?)
    (legible : opened.isLegible = true) (bracketed : (place.condition part).isBracketed = true) :
    ((place.outline dialect).condition opened).isLegible = true := by
  induction place with
  | nil => exact legible
  | cons layer rest ih =>
      -- What is replaced keeps its connective, and with it its need for parentheses.
      have inner : ((outline dialect rest).condition opened).connective? =
          (condition rest part).connective? := connective?_outline same
      cases layer with
      | negated => exact ih bracketed
      | enclosed => exact ih bracketed
      | before connective other =>
          simp only [condition_cons, Layer.condition, Condition.isBracketed, Condition.fits,
            Bool.and_eq_true] at bracketed
          obtain ⟨⟨⟨bracketedRest, bracketedOther⟩, fitsRest⟩, fitsOther⟩ := bracketed
          simp only [outline, List.map_cons, Layer.map, condition_cons, Layer.condition,
            Condition.isLegible, Condition.fits, Condition.connective?_outline, Bool.and_eq_true]
          rw [← inner] at fitsRest
          exact ⟨⟨⟨ih bracketedRest, Condition.isLegible_outline dialect bracketedOther⟩,
            fitsRest⟩, fitsOther⟩
      | after connective other =>
          simp only [condition_cons, Layer.condition, Condition.isBracketed, Condition.fits,
            Bool.and_eq_true] at bracketed
          obtain ⟨⟨⟨bracketedOther, bracketedRest⟩, fitsOther⟩, fitsRest⟩ := bracketed
          simp only [outline, List.map_cons, Layer.map, condition_cons, Layer.condition,
            Condition.isLegible, Condition.fits, Condition.connective?_outline, Bool.and_eq_true]
          rw [← inner] at fitsRest
          exact ⟨⟨⟨Condition.isLegible_outline dialect bracketedOther, ih bracketedRest⟩,
            fitsOther⟩, fitsRest⟩

theorem text_outline (same : opened.text dialect = part.text dialect) :
    ((place.outline dialect).condition opened).text dialect =
      (place.condition part).text dialect := by
  induction place with
  | nil => exact same
  | cons layer rest ih =>
      rw [outline] at ih ⊢
      cases layer <;>
        simp only [List.map_cons, Layer.map, condition_cons, Layer.condition, Condition.text, ih,
          Condition.text_outline]

/-- The reading of the whole has the truth that follows from the part and what stands beside it. -/
theorem truth_outline (form : MatchForm) (situation : Situation) :
    (((place.outline dialect).condition opened).reading form).truth situation =
      place.truth (fun other => ((other.outline dialect).reading form).truth situation)
        ((opened.reading form).truth situation) := by
  induction place with
  | nil => rfl
  | cons layer rest ih =>
      rw [outline] at ih ⊢
      rw [truth_cons, ← ih]
      cases layer with
      | enclosed => rfl
      | negated | before | after => exact Truth.truth_value _

end Surroundings

end EntitySql
