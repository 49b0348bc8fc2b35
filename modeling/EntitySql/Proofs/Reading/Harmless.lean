import EntitySql.Condition.Shape
import EntitySql.Proofs.Reading.Markers
import Mathlib.Data.List.Chain
import Mathlib.Data.List.Infix

/-!
# Texts without comments and ends of statements

Two hyphens or a slash with an asterisk open a comment, and a semicolon ends a statement.  In the
text of a condition the parts are joined by blanks, commas and parentheses, so that none of these
comes about between two parts.  The one exception is a change of sign, which is written right
before its operand.
-/

namespace EntitySql

open EntitySql.Sql EntitySql.Text

/-- What opens a comment or ends a statement. -/
def breakingSigns : List String :=
  ["--", "/*", ";"]

/-- A text that opens no comment and ends no statement. -/
def Harmless (text : String) : Prop :=
  ∀ sign ∈ breakingSigns, ¬sign.toList <:+: text.toList

instance (text : String) : Decidable (Harmless text) :=
  inferInstanceAs (Decidable (∀ sign ∈ breakingSigns, ¬sign.toList <:+: text.toList))

/-- Two characters side by side that open no comment. -/
def KeptApart (first second : Char) : Prop :=
  ¬(first = '-' ∧ second = '-') ∧ ¬(first = '/' ∧ second = '*')

/-- A text that can stand between any two others: it is harmless, and so are the places where it
meets them. -/
def isJoint (text : String) : Bool :=
  decide (Harmless text) && text.toList.head?.any (fun c => c != '-' && c != '*') &&
    text.toList.getLast?.any fun c => c != '-' && c != '/'

/-- A sign of a number can be written before the text. -/
def takesSign (text : String) : Bool :=
  text.toList.head? != some '-'

section Texts

variable {first second middle : String}

theorem harmless_iff {text : String} :
    Harmless text ↔ text.toList.IsChain KeptApart ∧ ';' ∉ text.toList := by
  rw [List.isChain_iff_forall_rel_of_append_cons_cons]
  constructor
  · intro harmless
    refine ⟨fun a b before after split => ⟨?_, ?_⟩, fun member => ?_⟩
    · rintro ⟨rfl, rfl⟩
      exact harmless "--" (by simp [breakingSigns]) ⟨before, after, by simp [split]⟩
    · rintro ⟨rfl, rfl⟩
      exact harmless "/*" (by simp [breakingSigns]) ⟨before, after, by simp [split]⟩
    · exact harmless ";" (by simp [breakingSigns]) ((List.singleton_infix_iff _ _).mpr member)
  · rintro ⟨apart, noSemicolon⟩ sign member ⟨before, after, split⟩
    rcases (by simpa [breakingSigns] using member : sign = "--" ∨ sign = "/*" ∨ sign = ";") with
      rfl | rfl | rfl
    · exact (@apart '-' '-' before after (by simp [← split])).1 ⟨rfl, rfl⟩
    · exact (@apart '/' '*' before after (by simp [← split])).2 ⟨rfl, rfl⟩
    · exact noSemicolon (by simp [← split])

/-- Two texts in a row are harmless when both are and the place where they meet is. -/
theorem harmless_append :
    Harmless (first ++ second) ↔ Harmless first ∧ Harmless second ∧
      ∀ a ∈ first.toList.getLast?, ∀ b ∈ second.toList.head?, KeptApart a b := by
  rw [harmless_iff, harmless_iff, harmless_iff, String.toList_append, List.isChain_append,
    List.mem_append, not_or]
  tauto

theorem Harmless.of_isJoint (joint : isJoint middle = true) : Harmless middle := by
  simp only [isJoint, Bool.and_eq_true, decide_eq_true_eq] at joint
  exact joint.1.1

theorem keptApart_before_joint (joint : isJoint middle = true) (a : Char) :
    ∀ b ∈ (middle ++ second).toList.head?, KeptApart a b := by
  simp only [isJoint, Bool.and_eq_true, Option.any_eq_true] at joint
  obtain ⟨⟨-, c, isFirst, begins⟩, -⟩ := joint
  intro b member
  obtain rfl : c = b := by
    simpa [String.toList_append, List.head?_append, isFirst] using member
  simp only [bne_iff_ne, ne_eq] at begins
  exact ⟨fun both => begins.1 both.2, fun both => begins.2 both.2⟩

theorem keptApart_after_joint (joint : isJoint middle = true) (b : Char) :
    ∀ a ∈ middle.toList.getLast?, KeptApart a b := by
  simp only [isJoint, Bool.and_eq_true, Option.any_eq_true] at joint
  obtain ⟨-, c, isLast, ends⟩ := joint
  intro a member
  obtain rfl : c = a := by simpa [isLast] using member
  simp only [bne_iff_ne, ne_eq] at ends
  exact ⟨fun both => ends.1 both.1, fun both => ends.2 both.1⟩

theorem harmless_joint_append (joint : isJoint middle = true) :
    Harmless (middle ++ second) ↔ Harmless second := by
  rw [harmless_append]
  constructor
  · exact fun harmless => harmless.2.1
  · intro harmless
    exact ⟨.of_isJoint joint, harmless, fun a member b _ => keptApart_after_joint joint b a member⟩

theorem harmless_append_joint (joint : isJoint middle = true) :
    Harmless (first ++ middle) ↔ Harmless first := by
  have apart (a : Char) := @keptApart_before_joint "" middle joint a
  rw [String.append_empty] at apart
  rw [harmless_append]
  constructor
  · exact fun harmless => harmless.1
  · exact fun harmless => ⟨harmless, .of_isJoint joint, fun a _ b member => apart a b member⟩

/-- Around a joint two texts do not touch each other. -/
theorem harmless_joined (joint : isJoint middle = true) :
    Harmless (first ++ middle ++ second) ↔ Harmless first ∧ Harmless second := by
  rw [String.append_assoc, harmless_append, harmless_joint_append joint]
  constructor
  · exact fun harmless => ⟨harmless.1, harmless.2.1⟩
  · exact fun harmless => ⟨harmless.1, harmless.2, fun a _ b => keptApart_before_joint joint a b⟩

theorem harmless_infix {symbol : String} (joint : isJoint (" " ++ symbol ++ " ") = true) :
    Harmless (first ++ " " ++ symbol ++ " " ++ second) ↔ Harmless first ∧ Harmless second := by
  rw [← harmless_joined joint]
  simp only [String.append_assoc]

theorem harmless_sign : Harmless ("-" ++ second) ↔ Harmless second ∧ takesSign second = true := by
  have sign : Harmless "-" := by decide
  rw [harmless_append]
  constructor
  · rintro ⟨-, harmless, apart⟩
    refine ⟨harmless, ?_⟩
    simp only [takesSign, bne_iff_ne, ne_eq]
    intro begins
    exact (apart '-' (by decide) '-' begins).1 ⟨rfl, rfl⟩
  · rintro ⟨harmless, takes⟩
    refine ⟨sign, harmless, fun a isLast b begins => ?_⟩
    obtain rfl : a = '-' := by simpa [eq_comm] using isLast
    refine ⟨?_, fun both => by cases both.1⟩
    rintro ⟨-, rfl⟩
    simp only [Option.mem_def] at begins
    simp [takesSign, begins] at takes

theorem takesSign_joint_append (joint : isJoint middle = true) :
    takesSign (middle ++ second) = true := by
  simp only [takesSign, bne_iff_ne, ne_eq]
  intro begins
  exact (keptApart_before_joint joint '-' '-' begins).1 ⟨rfl, rfl⟩

theorem Harmless.of_isWord {name : String} (word : IsWord name) : Harmless name := by
  have notIn (c : Char) (notWord : isWordChar c = false) : c ∉ name.toList := by
    intro member
    simp [word c member] at notWord
  rw [harmless_iff, List.isChain_iff_forall_rel_of_append_cons_cons]
  refine ⟨fun a b before after split => ⟨?_, ?_⟩, notIn ';' (by decide)⟩
  · rintro ⟨rfl, -⟩
    exact notIn '-' (by decide) (by simp [split])
  · rintro ⟨rfl, -⟩
    exact notIn '/' (by decide) (by simp [split])

theorem harmless_atMarker {name : String} (word : IsWord name) : Harmless (atMarker name) := by
  have joint : isJoint "@" = true := by decide
  exact (harmless_joint_append joint).mpr (.of_isWord word)

theorem harmless_commaSeparated {items : List String} (harmless : ∀ item ∈ items, Harmless item) :
    Harmless (commaSeparated items) := by
  have comma : isJoint ", " = true := by decide
  induction items with
  | nil => decide
  | cons item others ih =>
      cases others with
      | nil => simpa [commaSeparated] using harmless item (by simp)
      | cons next others =>
          have rest := ih fun other member => harmless other (List.mem_cons_of_mem item member)
          have whole := (harmless_joined comma).mpr ⟨harmless item (by simp), rest⟩
          simpa [commaSeparated] using whole

end Texts

theorem isJoint_comparison (comparison : Comparison) :
    isJoint (" " ++ comparison.symbol ++ " ") = true := by
  cases comparison <;> decide

theorem isJoint_connective (connective : Connective) :
    isJoint (" " ++ connective.symbol ++ " ") = true := by
  cases connective <;> decide

theorem isJoint_arithmetic (arithmetic : Arithmetic) :
    isJoint (" " ++ arithmetic.symbol ++ " ") = true := by
  cases arithmetic <;> decide

namespace Condition

variable {γ δ : Type}

/-- Wherever the condition changes a sign, the text after the sign does not begin with another. -/
def signsApart (dialect : Dialect) : Condition String → Bool
  | .negative operand => operand.signsApart dialect && takesSign (operand.text dialect)
  | .column _ | .marker _ | .always _ => true
  | .compare _ left right | .compute _ left right | .coalesce left right
  | .connect _ left right => left.signsApart dialect && right.signsApart dialect
  | .holds operand | .nullTest operand _ | .not operand | .group operand | .asText operand
  | .member operand _ | .like operand _ => operand.signsApart dialect

/-- The condition is a column, a marker, or enclosed in parentheses of its own. -/
def isUnit : Condition γ → Bool
  | .column _ | .marker _ | .compute _ _ _ | .coalesce _ _ | .asText _ => true
  | _ => false

/-- The condition changes the signs of units only. -/
def negatesUnits : Condition γ → Bool
  | .negative operand => operand.negatesUnits && operand.isUnit
  | .column _ | .marker _ | .always _ => true
  | .compare _ left right | .compute _ left right | .coalesce left right
  | .connect _ left right => left.negatesUnits && right.negatesUnits
  | .holds operand | .nullTest operand _ | .not operand | .group operand | .asText operand
  | .member operand _ | .like operand _ => operand.negatesUnits

/-- The condition changes the signs of units, and signs that were changed already. -/
def negatesValues : Condition γ → Bool
  | .negative operand => operand.negatesValues && (operand.isUnit || operand.isNegative)
  | .column _ | .marker _ | .always _ => true
  | .compare _ left right | .compute _ left right | .coalesce left right
  | .connect _ left right => left.negatesValues && right.negatesValues
  | .holds operand | .nullTest operand _ | .not operand | .group operand | .asText operand
  | .member operand _ | .like operand _ => operand.negatesValues

@[simp] theorem isUnit_map (f : γ → δ) (condition : Condition γ) :
    (condition.map f).isUnit = condition.isUnit := by
  cases condition <;> rfl

@[simp] theorem negatesUnits_map (f : γ → δ) (condition : Condition γ) :
    (condition.map f).negatesUnits = condition.negatesUnits := by
  induction condition <;> simp_all [map, negatesUnits]

@[simp] theorem negatesValues_map (f : γ → δ) (condition : Condition γ) :
    (condition.map f).negatesValues = condition.negatesValues := by
  induction condition <;> simp_all [map, negatesValues]

/-- The text of a condition is harmless exactly when its columns are and no sign is changed of a
text that begins with one. -/
theorem harmless_text_iff (kind : DialectKind) {condition : Condition String}
    (words : ∀ name ∈ condition.parameters, IsWord name) :
    Harmless (condition.text kind.dialect) ↔
      (∀ name ∈ condition.columns, Harmless name) ∧
        condition.signsApart kind.dialect = true := by
  have markerEq : kind.dialect.marker = atMarker := by cases kind <;> rfl
  have opening : isJoint "(" = true := by decide
  have closing : isJoint ")" = true := by decide
  have both {left right : Condition String} :
      ((∀ name ∈ left.columns, Harmless name) ∧ left.signsApart kind.dialect = true) ∧
          ((∀ name ∈ right.columns, Harmless name) ∧ right.signsApart kind.dialect = true) ↔
        (∀ name ∈ left.columns ++ right.columns, Harmless name) ∧
          (left.signsApart kind.dialect && right.signsApart kind.dialect) = true := by
    rw [List.forall_mem_append, Bool.and_eq_true]
    tauto
  induction condition with
  | column name => simp [text, columns, signsApart]
  | marker parameter =>
      have harmless := harmless_atMarker (words parameter (by simp [parameters]))
      simp [text, columns, signsApart, markerEq, harmless]
  | holds operand ih =>
      have test : isJoint " = '1'" = true := by decide
      rw [text, harmless_append_joint test]
      exact ih words
  | always outcome =>
      have harmless : Harmless "1 = 1" ∧ Harmless "1 = 0" := by decide
      cases outcome <;> simp [text, columns, signsApart, harmless]
  | compare comparison left right ihLeft ihRight =>
      simp only [parameters, List.forall_mem_append] at words
      rw [text, harmless_infix (isJoint_comparison comparison)]
      exact (and_congr (ihLeft words.1) (ihRight words.2)).trans both
  | nullTest operand expected ih =>
      have whenNull : isJoint " is null" = true := by decide
      have whenNotNull : isJoint " is not null" = true := by decide
      cases expected with
      | true =>
          rw [text, harmless_append_joint whenNull]
          exact ih words
      | false =>
          rw [text, harmless_append_joint whenNotNull]
          exact ih words
  | compute arithmetic left right ihLeft ihRight =>
      simp only [parameters, List.forall_mem_append] at words
      rw [text, harmless_append_joint closing, harmless_infix (isJoint_arithmetic arithmetic),
        harmless_joint_append opening]
      exact (and_congr (ihLeft words.1) (ihRight words.2)).trans both
  | coalesce left right ihLeft ihRight =>
      have choice : isJoint "COALESCE(" = true := by decide
      have comma : isJoint ", " = true := by decide
      simp only [parameters, List.forall_mem_append] at words
      rw [text, harmless_append_joint closing, harmless_joined comma,
        harmless_joint_append choice]
      exact (and_congr (ihLeft words.1) (ihRight words.2)).trans both
  | negative operand ih =>
      -- The sign is no joint, so it matters what the operand begins with.
      rw [text, harmless_sign, columns, signsApart, Bool.and_eq_true, ← and_assoc]
      exact and_congr_left fun _ => ih words
  | not operand ih =>
      have negation : isJoint "not (" = true := by decide
      rw [text, harmless_append_joint closing, harmless_joint_append negation]
      exact ih words
  | connect connective left right ihLeft ihRight =>
      simp only [parameters, List.forall_mem_append] at words
      rw [text, harmless_infix (isJoint_connective connective)]
      exact (and_congr (ihLeft words.1) (ihRight words.2)).trans both
  | group inner ih =>
      rw [text, harmless_append_joint closing, harmless_joint_append opening]
      exact ih words
  | asText operand ih =>
      have cast : isJoint "CAST(" = true := by decide
      have char : isJoint " AS CHAR)" = true := by decide
      rw [text, harmless_append_joint char, harmless_joint_append cast]
      exact ih words
  | member operand found ih =>
      simp only [parameters, List.forall_mem_append] at words
      have membership : isJoint " in (" = true := by decide
      have null : Harmless "null" := by decide
      have harmlessFound : Harmless (if found.isEmpty then "null"
          else commaSeparated (found.map kind.dialect.marker)) := by
        split
        · exact null
        · refine harmless_commaSeparated fun item member => ?_
          obtain ⟨name, isFound, rfl⟩ := List.mem_map.mp member
          rw [markerEq]
          exact harmless_atMarker (words.2 name isFound)
      rw [text, harmless_append_joint closing, harmless_joined membership]
      exact (and_iff_left harmlessFound).trans (ih words.1)
  | like operand parameter ih =>
      simp only [parameters, List.forall_mem_append, List.mem_singleton, forall_eq] at words
      have harmless := harmless_atMarker words.2
      rw [text, markerEq, kind.like_eq_matchForm_text]
      cases kind.matchForm with
      | lowered =>
          have lower : isJoint "lower(" = true := by decide
          have middle : isJoint ") like lower(" = true := by decide
          rw [MatchForm.text, harmless_append_joint closing, harmless_joined middle,
            harmless_joint_append lower]
          exact (and_iff_left harmless).trans (ih words.1)
      | ilike =>
          have middle : isJoint " ilike " = true := by decide
          rw [MatchForm.text, harmless_joined middle]
          exact (and_iff_left harmless).trans (ih words.1)

theorem takesSign_of_isUnit (kind : DialectKind) {condition : Condition String}
    (isUnit : condition.isUnit = true)
    (takeSigns : ∀ name ∈ condition.columns, takesSign name = true) :
    takesSign (condition.text kind.dialect) = true := by
  have markerEq : kind.dialect.marker = atMarker := by cases kind <;> rfl
  cases condition with
  | column name => exact takeSigns name (by simp [columns])
  | marker parameter =>
      rw [text, markerEq]
      exact takesSign_joint_append (by decide)
  | compute arithmetic left right =>
      simp only [text, String.append_assoc]
      exact takesSign_joint_append (by decide)
  | coalesce left right =>
      simp only [text, String.append_assoc]
      exact takesSign_joint_append (by decide)
  | asText operand =>
      simp only [text, String.append_assoc]
      exact takesSign_joint_append (by decide)
  | _ => cases isUnit

theorem takesSign_eq_isUnit (kind : DialectKind) {condition : Condition String}
    (isValue : condition.isUnit = true ∨ condition.isNegative = true)
    (takeSigns : ∀ name ∈ condition.columns, takesSign name = true) :
    takesSign (condition.text kind.dialect) = condition.isUnit := by
  rcases isValue with unit | negative
  · rw [takesSign_of_isUnit kind unit takeSigns, unit]
  · cases condition with
    | negative operand => simp [text, takesSign, isUnit, String.toList_append]
    | _ => cases negative

/-- Where the signs of values only are changed, and no column begins with a sign, signs stand apart
exactly when no sign is changed twice in a row. -/
theorem signsApart_eq_negatesUnits (kind : DialectKind) {condition : Condition String}
    (negates : condition.negatesValues = true)
    (takeSigns : ∀ name ∈ condition.columns, takesSign name = true) :
    condition.signsApart kind.dialect = condition.negatesUnits := by
  induction condition with
  | negative operand ih =>
      rw [negatesValues, Bool.and_eq_true, Bool.or_eq_true] at negates
      rw [signsApart, negatesUnits, ih negates.1 takeSigns,
        takesSign_eq_isUnit kind negates.2 takeSigns]
  | compare _ left right ihLeft ihRight | compute _ left right ihLeft ihRight
  | coalesce left right ihLeft ihRight | connect _ left right ihLeft ihRight =>
      rw [negatesValues, Bool.and_eq_true] at negates
      rw [columns, List.forall_mem_append] at takeSigns
      rw [signsApart, negatesUnits, ihLeft negates.1 takeSigns.1, ihRight negates.2 takeSigns.2]
  | holds operand ih | nullTest operand _ ih | not operand ih | group operand ih
  | asText operand ih | member operand _ ih | like operand _ ih => exact ih negates takeSigns
  | column | marker | always => rfl

end Condition

end EntitySql
