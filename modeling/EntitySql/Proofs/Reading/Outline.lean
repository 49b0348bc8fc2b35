import EntitySql.Proofs.Compile.Meaning
import EntitySql.Proofs.Reading.Clauses

/-!
# Outlines of conditions

What a condition says of its parts is told by negation, connectives and parentheses.  Its outline
keeps these and takes each part as an atom, whatever stands in it, so that the atoms can be
assigned any truth values.
-/

namespace EntitySql

open EntitySql.Text EntitySql.Sql

namespace Condition

variable {γ δ : Type}

/-- The sides of connectives are grouped where they need it. -/
def isBracketed : Condition γ → Bool
  | .not operand => operand.isBracketed
  | .connect connective left right =>
      left.isBracketed && right.isBracketed && left.fits connective && right.fits connective
  | .group inner => inner.isBracketed
  | _ => true

/-- The condition with each of its parts as an atom.  Constants stay as they are. -/
def outline (dialect : Dialect) : Condition String → Condition String
  | .not operand => .not (operand.outline dialect)
  | .connect connective left right =>
      .connect connective (left.outline dialect) (right.outline dialect)
  | .group inner => .group (inner.outline dialect)
  | .always outcome => .always outcome
  | part => .column (part.text dialect)

/-- The truth of a condition, given that of its parts. -/
def truthGiven (verdict : Condition γ → Truth) : Condition γ → Truth
  | .not operand => (operand.truthGiven verdict).not
  | .connect connective left right =>
      connective.truth (left.truthGiven verdict) (right.truthGiven verdict)
  | .group inner => inner.truthGiven verdict
  | .always outcome => some outcome
  | part => verdict part

theorem truthGiven_map (f : γ → δ) (verdict : Condition δ → Truth) (condition : Condition γ) :
    (condition.map f).truthGiven verdict =
      condition.truthGiven fun part => verdict (part.map f) := by
  induction condition with
  | not operand ih => simp only [map, truthGiven, ih]
  | connect connective left right ihLeft ihRight => simp only [map, truthGiven, ihLeft, ihRight]
  | group inner ih => simp only [map, truthGiven, ih]
  | _ => rfl

@[simp] theorem isBracketed_map (f : γ → δ) (condition : Condition γ) :
    (condition.map f).isBracketed = condition.isBracketed := by
  induction condition with
  | not operand ih => exact ih
  | connect connective left right ihLeft ihRight =>
      simp only [map, isBracketed, ihLeft, ihRight, fits_map]
  | group inner ih => exact ih
  | _ => rfl

variable (dialect : Dialect)

theorem connective?_outline (condition : Condition String) :
    (condition.outline dialect).connective? = condition.connective? := by
  cases condition <;> rfl

theorem isLegible_outline {condition : Condition String}
    (bracketed : condition.isBracketed = true) :
    (condition.outline dialect).isLegible = true := by
  induction condition with
  | not operand ih => exact ih bracketed
  | connect connective left right ihLeft ihRight =>
      simp only [isBracketed, fits, Bool.and_eq_true] at bracketed
      simp [outline, isLegible, fits, connective?_outline, ihLeft bracketed.1.1.1,
        ihRight bracketed.1.1.2, bracketed.1.2, bracketed.2]
  | group inner ih => exact ih bracketed
  | _ => rfl

theorem text_outline (condition : Condition String) :
    (condition.outline dialect).text dialect = condition.text dialect := by
  induction condition with
  | not operand ih => simp only [outline, text, ih]
  | connect connective left right ihLeft ihRight => simp only [outline, text, ihLeft, ihRight]
  | group inner ih => simp only [outline, text, ih]
  | _ => rfl

/-- Spelled out, the outline of a condition is its text. -/
theorem spelling_outline (form : MatchForm) (condition : Condition String) :
    spelling dialect ((condition.outline dialect).script form) = condition.text dialect := by
  induction condition with
  | not operand ih => simp [outline, script, text, ih, String.append_assoc]
  | connect connective left right ihLeft ihRight =>
      simp [outline, script, text, ihLeft, ihRight, String.append_assoc]
  | group inner ih => simp [outline, script, text, ih, String.append_assoc]
  | always outcome => cases outcome <;> simp [outline, script, text]
  | _ => simp [outline, script, Sign.text]

/-- On a row that assigns values to the parts, the outline has the truth that follows from them. -/
theorem truth_outline_of_row (form : MatchForm) (situation : Situation)
    (condition : Condition String) :
    ((condition.outline dialect).reading form).truth situation =
      condition.truthGiven fun part => (situation.row (part.text dialect)).truth := by
  induction condition with
  | not operand ih =>
      rw [truthGiven, ← ih]
      exact Truth.truth_value _
  | connect connective left right ihLeft ihRight =>
      rw [truthGiven, ← ihLeft, ← ihRight]
      exact Truth.truth_value _
  | group inner ih => exact ih
  | always outcome => exact @truthIn_always form (fun _ => "") _ outcome
  | _ => rfl

/-- So it has on a row that assigns truth values. -/
theorem truth_outline (form : MatchForm) (truths : String → Truth) (database : Database)
    (parameters : Parameters) (condition : Condition String) :
    ((condition.outline dialect).reading form).truth
        ⟨database, fun part => (truths part).value, parameters⟩ =
      condition.truthGiven fun part => truths (part.text dialect) := by
  rw [truth_outline_of_row]
  simp only [Truth.truth_value]

end Condition

namespace WhereClause

/-- The clause with each part of its conditions as an atom. -/
def outline (dialect : Dialect) (clause : WhereClause) : WhereClause where
  first := clause.first.outline dialect
  firstGrouped := clause.firstGrouped
  rest := clause.rest.map fun link => (link.1, link.2.outline dialect)

/-- Each condition of a clause is a unit of it: the sides of connectives are grouped, and so is
the first condition if it is a connective. -/
structure Bracketed (clause : WhereClause) : Prop where
  first : clause.first.isBracketed = true
  single : clause.firstGrouped = true ∨ clause.first.connective? = none
  links : ∀ link ∈ clause.rest, link.2.isBracketed = true

theorem firstUnit_outline (dialect : Dialect) (clause : WhereClause) :
    (clause.outline dialect).firstUnit = clause.firstUnit.outline dialect := by
  unfold firstUnit
  cases grouped : clause.firstGrouped with
  | true => simp only [outline, grouped, if_true, Condition.outline]
  | false => simp only [outline, grouped, Bool.false_eq_true, if_false]

/-- The first unit of a bracketed clause stands for itself. -/
theorem Bracketed.firstUnit {clause : WhereClause} (bracketed : clause.Bracketed) :
    clause.firstUnit.isBracketed = true ∧ clause.firstUnit.connective? = none := by
  unfold WhereClause.firstUnit
  split
  · exact ⟨bracketed.first, rfl⟩
  · next ungrouped => exact ⟨bracketed.first, bracketed.single.resolve_left ungrouped⟩

theorem text_outline (dialect : Dialect) (clause : WhereClause) :
    (clause.outline dialect).text dialect = clause.text dialect := by
  have links : (clause.outline dialect).rest.map (linkText dialect) =
      clause.rest.map (linkText dialect) := by
    rw [outline, List.map_map]
    refine List.map_congr_left fun link _ => ?_
    simp only [Function.comp, linkText, Condition.text, Condition.text_outline]
  rw [text, text, links, firstUnit_outline, Condition.text_outline]

/-- Spelled out, the outline of a clause is its text. -/
theorem text_eq_spelling_outline (form : MatchForm) (dialect : Dialect) (clause : WhereClause) :
    clause.text dialect =
      " where " ++ spelling dialect ((clause.outline dialect).script form) := by
  have spelled (condition : Condition String) :
      spelling dialect ((condition.outline dialect).script form) =
        (condition.outline dialect).text dialect :=
    (condition.spelling_outline dialect form).trans (condition.text_outline dialect).symm
  rw [← clause.text_outline dialect]
  apply text_eq_spelling
  · exact spelled clause.first
  · intro link member
    obtain ⟨own, -, rfl⟩ := List.mem_map.mp member
    exact spelled own.2

/-- The outline of a bracketed clause is read as the disjunction of the groups of its conditions,
whatever truth values are assigned to their parts. -/
theorem Bracketed.read?_outline (form : MatchForm) (dialect : Dialect) {clause : WhereClause}
    (bracketed : clause.Bracketed) :
    ∃ reading, read? ((clause.outline dialect).script form) = some reading ∧
      ∀ (truths : String → Truth) (database : Database) (parameters : Parameters),
        let verdict := fun part : Condition String => truths (part.text dialect)
        reading.truth ⟨database, fun part => (truths part).value, parameters⟩ =
          Truth.ofChain (clause.first.truthGiven verdict)
            (clause.rest.map fun link => (link.1, link.2.truthGiven verdict)) := by
  obtain ⟨bracketedFirst, single⟩ := bracketed.firstUnit
  have legible : (clause.outline dialect).firstUnit.isLegible = true := by
    rw [firstUnit_outline]
    exact Condition.isLegible_outline dialect bracketedFirst
  rw [← Condition.connective?_outline dialect, ← firstUnit_outline] at single
  have links : ∀ link ∈ (clause.outline dialect).rest, link.2.isLegible = true := by
    intro link member
    obtain ⟨own, isOwn, rfl⟩ := List.mem_map.mp member
    exact Condition.isLegible_outline dialect (bracketed.links own isOwn)
  obtain ⟨reading, reads, truth⟩ := read?_script form legible single links
  refine ⟨reading, reads, fun truths database parameters => ?_⟩
  rw [truth]
  simp only [outline, List.map_map, Function.comp_def, Condition.truth_outline]

end WhereClause

end EntitySql
