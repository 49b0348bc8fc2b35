import EntitySql.Sql.Database
import Mathlib.Data.List.Infix

/-!
# Patterns of matches

In a pattern a percent sign stands for any characters, an underscore for any one character, and
every other character for itself.  No character takes this from another.
-/

namespace EntitySql

namespace Sql

/-- A character that stands for others. -/
def isWildcard (c : Char) : Bool :=
  c == '%' || c == '_'

theorem isWildcard_iff {c : Char} : isWildcard c = true ↔ c = '%' ∨ c = '_' := by
  simp [isWildcard]

/-- The text is one of those for which the pattern stands. -/
def likeMatches : (pattern text : List Char) → Bool
  | [], text => text.isEmpty
  | c :: pattern, text =>
      if c = '%' then text.tails.any fun rest => likeMatches pattern rest
      else
        match text with
        | [] => false
        | d :: rest => (c == '_' || c == d) && likeMatches pattern rest

theorem likeMatches_nil {text : List Char} : likeMatches [] text = true ↔ text = [] := by
  simp [likeMatches]

/-- A percent sign stands for what comes before some end of the text. -/
theorem likeMatches_percent {pattern text : List Char} :
    likeMatches ('%' :: pattern) text = true ↔
      ∃ rest, rest <:+ text ∧ likeMatches pattern rest = true := by
  simp [likeMatches]

theorem likeMatches_cons {c : Char} (notPercent : c ≠ '%') {pattern text : List Char} :
    likeMatches (c :: pattern) text = true ↔
      ∃ d rest, text = d :: rest ∧ (c = '_' ∨ c = d) ∧ likeMatches pattern rest = true := by
  cases text with
  | nil => simp [likeMatches, notPercent]
  | cons d rest => simp [likeMatches, notPercent]

/-- How a database folds the case of a text, character by character.  Wildcards stay as they are,
and no other character becomes one. -/
structure CaseFolding where
  fold : Char → List Char
  wildcard : ∀ c, isWildcard c = true → fold c = [c]
  other : ∀ c, isWildcard c = false → ∀ d ∈ fold c, isWildcard d = false

namespace CaseFolding

def apply (folding : CaseFolding) (text : List Char) : List Char :=
  text.flatMap folding.fold

theorem isWildcard_toLower (c : Char) : isWildcard c.toLower = isWildcard c := by
  have codes (c : Char) : isWildcard c = true ↔ c.toNat = 37 ∨ c.toNat = 95 := by
    simp [isWildcard, ← Char.toNat_inj]
  rw [Bool.eq_iff_iff, codes, codes]
  unfold Char.toLower
  split
  · next upper =>
      have bounds : 65 ≤ c.toNat ∧ c.toNat ≤ 90 := by
        simpa [UInt32.le_iff_toNat_le] using upper
      have moved : (c.val + 32).toNat = c.val.toNat + 32 := by
        rw [UInt32.toNat_add, UInt32.toNat_ofNat]
        exact Nat.mod_eq_of_lt (by have := bounds.2; simp at this ⊢; omega)
      have lowered : (c.val + ('a'.val - 'A'.val)).toNat = c.toNat + 32 := moved
      simp only [Char.toNat] at lowered bounds ⊢
      omega
  · rfl

/-- Letters of the alphabet become lower case. -/
def lower : CaseFolding where
  fold c := [c.toLower]
  wildcard c isWild := by
    rcases isWildcard_iff.mp isWild with rfl | rfl <;> rfl
  other c notWild d member := by
    obtain rfl := List.mem_singleton.mp member
    rw [isWildcard_toLower, notWild]

end CaseFolding

end Sql

open Sql

/-- What a text method asks of a part and a whole. -/
def Method.Asks (method : Method) (part whole : List Char) : Prop :=
  match method with
  | .startsWith => part <+: whole
  | .endsWith => part <:+ whole
  | _ => part <:+: whole

/-- The database matches texts with patterns, and folds the case of both when it is to ignore
case. -/
structure Database.MatchesLike (database : Database) (folding : CaseFolding) : Prop where
  lower : ∀ text : String,
    database.lower (.text text) = .text (String.ofList (folding.apply text.toList))
  pattern : ∀ subject pattern : String,
    database.matchesPattern (.text subject) (.text pattern) =
      likeMatches pattern.toList subject.toList

end EntitySql
