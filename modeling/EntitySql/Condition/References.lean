import EntitySql.Condition.Script

/-!
# The columns that a text refers to

Among the signs of a text the columns stand for themselves.  They are the columns of the
condition in order, and what else there is does not depend on how they are named.
-/

namespace EntitySql

open EntitySql.Sql

namespace Sql

/-- The column that a sign stands for. -/
def Sign.column? : Sign → Option String
  | .column name => some name
  | _ => none

/-- The sign, without its name if it is a column. -/
def Sign.unnamed : Sign → Sign
  | .column _ => .column ""
  | sign => sign

/-- The columns that a text refers to, from left to right. -/
def references (script : List Sign) : List String :=
  script.filterMap Sign.column?

@[simp] theorem references_nil : references [] = [] :=
  rfl

@[simp] theorem references_append (first second : List Sign) :
    references (first ++ second) = references first ++ references second :=
  List.filterMap_append

@[simp] theorem references_signs (text : String) : references (signs text) = [] := by
  simp [references, signs, Sign.column?]

@[simp] theorem references_marker (parameter : String) (rest : List Sign) :
    references (.marker parameter :: rest) = references rest :=
  rfl

@[simp] theorem references_markerScript (parameters : List String) :
    references (markerScript parameters) = [] := by
  induction parameters with
  | nil => rfl
  | cons parameter rest ih =>
      cases rest with
      | nil => rfl
      | cons next rest => simp [markerScript, ih]

@[simp] theorem map_unnamed_signs (text : String) :
    (signs text).map Sign.unnamed = signs text := by
  simp [signs, Sign.unnamed]

@[simp] theorem map_unnamed_markerScript (parameters : List String) :
    (markerScript parameters).map Sign.unnamed = markerScript parameters := by
  induction parameters with
  | nil => rfl
  | cons parameter rest ih =>
      cases rest with
      | nil => rfl
      | cons next rest => simp [markerScript, ih, Sign.unnamed]

end Sql

namespace Condition

variable {γ δ ε : Type}

@[simp] theorem map_map (f : γ → δ) (g : δ → ε) (condition : Condition γ) :
    (condition.map f).map g = condition.map (g ∘ f) := by
  induction condition <;> simp_all [map]

/-- A condition refers to its columns, to each where it stands. -/
theorem references_script (form : MatchForm) (condition : Condition String) :
    references (condition.script form) = condition.columns := by
  induction condition with
  | column name => rfl
  | always outcome => cases outcome <;> simp [script, columns]
  | nullTest operand expected ih => cases expected <;> simp [script, columns, ih]
  | member operand parameters ih => cases parameters <;> simp [script, columns, ih]
  | like operand parameter ih => cases form <;> simp [script, MatchForm.script, columns, ih]
  | _ => simp_all [script, columns]

/-- Whatever the columns are named, the rest of the text is the same. -/
theorem script_map_unnamed (form : MatchForm) (condition : Condition String) :
    (condition.script form).map Sign.unnamed = (condition.map fun _ => "").script form := by
  induction condition with
  | column | marker => rfl
  | always outcome => cases outcome <;> simp [script, map]
  | nullTest operand expected ih => cases expected <;> simp [script, map, ih]
  | member operand parameters ih => cases parameters <;> simp [script, map, ih]
  | like operand parameter ih =>
      cases form <;> simp [script, map, MatchForm.script, ih, Sign.unnamed]
  | _ => simp_all [script, map]

theorem script_map_unnamed_congr (form : MatchForm) (f g : γ → String)
    (condition : Condition γ) :
    ((condition.map f).script form).map Sign.unnamed =
      ((condition.map g).script form).map Sign.unnamed := by
  rw [script_map_unnamed, script_map_unnamed, map_map, map_map]
  rfl

end Condition

end EntitySql
