import EntitySql.Declaration.Lexer
import EntitySql.Declaration.Statement

/-!
# Declarations

A declaration is the definition of a type with its attributes and its visibility.
It is read by the grammar of the depth that its tokens call for: a level is used
up only by what stands in something else, and few levels lie between two tokens.
-/

namespace EntitySql

/-- A declaration of a type. -/
structure Declaration where
  attributes : List Attribute
  visibility : String
  definition : TypeDefinition

namespace Grammar

open Reader

/-- The grammar whose readers use those of another for what they contain. -/
def above (g : Grammar) : Grammar where
  type := g.typeLevel
  bound := g.boundLevel
  expression := g.expressionLevel
  operand := g.operandLevel
  continued := g.continuedLevel
  statementExpression := g.statementExpressionLevel
  pattern := g.patternLevel
  fields := g.fieldsLevel
  statements := g.statementsLevel
  item := g.itemLevel
  importTree := g.importTreeLevel

/-- The grammar with so many levels. -/
def ofDepth : Nat → Grammar
  | 0 => empty
  | depth + 1 => (ofDepth depth).above

/-- Reads a declaration. -/
def declaration (g : Grammar) : Reader Declaration := do
  let attributes ← g.attributes
  let visibility ← visibility
  let definition ← g.typeDefinition
  return ⟨attributes, visibility, definition⟩

/-- How many levels the tokens of a declaration can call for. -/
def depthBound (tokens : List Token) : Nat :=
  8 * (Token.sizeAll tokens + 2)

end Grammar

/-- The declaration in a source text, which holds nothing else. -/
def Declaration.ofSource? (source : String) : Option Declaration := do
  let tokens ← lex? source
  (Grammar.ofDepth (Grammar.depthBound tokens)).declaration.run? tokens

end EntitySql
