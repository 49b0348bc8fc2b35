import EntitySql.Condition.Script

/-!
# Conditions under other names of parameters

The parameters of a condition can be renamed.  That changes no column, and of the signs of
its text the markers only.
-/

namespace EntitySql

open EntitySql.Sql

/-- The sign under another name if it is a marker. -/
def Sql.Sign.rename (f : String → String) : Sign → Sign
  | .marker parameter => .marker (f parameter)
  | sign => sign

@[simp] theorem map_rename_signs (f : String → String) (text : String) :
    (signs text).map (Sign.rename f) = signs text := by
  simp [signs, Sign.rename]

theorem markerScript_map (f : String → String) (parameters : List String) :
    markerScript (parameters.map f) = (markerScript parameters).map (Sign.rename f) := by
  induction parameters with
  | nil => rfl
  | cons parameter rest ih =>
      cases rest with
      | nil => rfl
      | cons next rest =>
          rw [List.map_cons] at ih ⊢
          simp [markerScript, ih, Sign.rename]

namespace Condition

variable {γ δ : Type}

/-- Renames the parameters. -/
def rename (f : String → String) : Condition γ → Condition γ
  | .column reference => .column reference
  | .marker parameter => .marker (f parameter)
  | .holds operand => .holds (operand.rename f)
  | .always outcome => .always outcome
  | .compare comparison left right => .compare comparison (left.rename f) (right.rename f)
  | .nullTest operand expected => .nullTest (operand.rename f) expected
  | .compute arithmetic left right => .compute arithmetic (left.rename f) (right.rename f)
  | .coalesce left right => .coalesce (left.rename f) (right.rename f)
  | .negative operand => .negative (operand.rename f)
  | .not operand => .not (operand.rename f)
  | .connect connective left right => .connect connective (left.rename f) (right.rename f)
  | .group inner => .group (inner.rename f)
  | .asText operand => .asText (operand.rename f)
  | .member operand parameters => .member (operand.rename f) (parameters.map f)
  | .like operand parameter => .like (operand.rename f) (f parameter)

theorem rename_map (f : String → String) (g : γ → δ) (condition : Condition γ) :
    (condition.rename f).map g = (condition.map g).rename f := by
  induction condition <;> simp_all [rename, map]

theorem script_rename (f : String → String) (form : MatchForm) (condition : Condition String) :
    (condition.rename f).script form = (condition.script form).map (Sign.rename f) := by
  induction condition with
  | always outcome => cases outcome <;> simp [rename, script]
  | nullTest operand expected ih => cases expected <;> simp [rename, script, ih]
  | member operand parameters ih =>
      cases parameters with
      | nil => simp [rename, script, ih]
      | cons parameter rest => simp [rename, script, ih, ← markerScript_map]
  | like operand parameter ih =>
      cases form <;> simp [rename, script, MatchForm.script, ih, Sign.rename]
  | column | marker => rfl
  | _ => simp_all [rename, script]

end Condition

end EntitySql
