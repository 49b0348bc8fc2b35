import EntitySql.Declaration.Reader
import EntitySql.Declaration.TypeExpression

/-!
# The grammar of declarations

Types, expressions, patterns, statements and items contain one another.  A
grammar holds a reader for each of them, and the readers of one level use those
of the level below, so that every reader is defined without recursion.  Of what
is read, the text is kept, and with it what decides how the text may go on.
-/

namespace EntitySql

/-- How strongly an operator binds its operands, from the weakest. -/
inductive Precedence where
  | jump
  | assignment
  | range
  | disjunction
  | conjunction
  | binding
  | comparison
  | bitOr
  | bitXor
  | bitAnd
  | shift
  | sum
  | product
  | cast
  deriving DecidableEq

/-- The rank of a precedence: the stronger, the higher. -/
def Precedence.rank : Precedence → Nat
  | .jump => 0
  | .assignment => 1
  | .range => 2
  | .disjunction => 3
  | .conjunction => 4
  | .binding => 5
  | .comparison => 6
  | .bitOr => 7
  | .bitXor => 8
  | .bitAnd => 9
  | .shift => 10
  | .sum => 11
  | .product => 12
  | .cast => 13

/-- What decides how a type may go on. -/
inductive TypeForm where
  /-- A path behind a type in angle brackets. -/
  | qualified
  /-- Any other path, and whether it is a single segment. -/
  | path (single : Bool)
  /-- A single bound, with its text without parentheses around it. -/
  | bound (inner : String)
  | other

/-- A type that was read. -/
structure TypeReading where
  type : TypeExpression
  form : TypeForm

/-- The text of the type. -/
def TypeReading.text (reading : TypeReading) : String :=
  reading.type.text

/-- A type that is no path. -/
def TypeReading.other (text : String) : TypeReading :=
  ⟨.other text, .other⟩

/-- What a bound asks for. -/
inductive BoundKind where
  | trait
  | lifetime
  /-- A list of the parameters that are used. -/
  | capture
  /-- A trait whose functions can be evaluated at compile time. -/
  | constant
  deriving DecidableEq

/-- A bound that was read, and its text without parentheses around it. -/
structure BoundReading where
  kind : BoundKind
  text : String
  inner : String

/-- What decides how an expression may go on. -/
inductive ExpressionForm where
  | range
  | comparison
  /-- An expression that ends with its own block. -/
  | block
  /-- A macro call with braces. -/
  | bracedMacro
  | other
  deriving DecidableEq

/-- An expression that was read. -/
structure ExpressionReading where
  text : String
  form : ExpressionForm := .other
  /-- The leftmost operand stands as it is written and takes no attributes. -/
  fixed : Bool := false

namespace ExpressionReading

/-- The expression behind attributes.  A range is enclosed in parentheses there, so
that the attributes do not belong to its lower end alone. -/
def behind (attributes : String) (reading : ExpressionReading) : ExpressionReading :=
  if reading.fixed || attributes = "" then reading
  else if reading.form = .range then
    { reading with text := attributes ++ Reader.enclosed .parentheses reading.text }
  else { reading with text := attributes ++ reading.text }

/-- The expression may stand as a statement without a semicolon. -/
def endsStatement (reading : ExpressionReading) : Bool :=
  reading.form = .block || reading.form = .bracedMacro

end ExpressionReading

/-- What decides where a pattern may stand. -/
inductive PatternForm where
  /-- Two dots for all that is left. -/
  | rest
  /-- A range without a bound at one end. -/
  | openRange
  /-- A pattern that stands as it is written and takes no attributes. -/
  | fixed
  | other
  deriving DecidableEq

/-- A pattern that was read. -/
structure PatternReading where
  text : String
  form : PatternForm := .other

/-- Readers for what can contain itself. -/
structure Grammar where
  /-- A type.  With the flag, it may consist of several bounds. -/
  type : Bool → Reader TypeReading
  /-- A bound.  The flags allow a list of used parameters, and constant traits. -/
  bound : Bool → Bool → Reader BoundReading
  /-- An expression.  With the flag, it may be a structure between braces. -/
  expression : Bool → Reader ExpressionReading
  /-- An operand with the signs before it and the calls behind it. -/
  operand : Bool → Reader ExpressionReading
  /-- An expression that goes on behind its first operand, with operators that
  bind at least so strongly. -/
  continued : Bool → Precedence → ExpressionReading → Reader ExpressionReading
  /-- An expression in the place of a statement, which ends with its block. -/
  statementExpression : Reader ExpressionReading
  /-- A pattern without alternatives. -/
  pattern : Reader PatternReading
  /-- The fields of a structure, with the braces around them. -/
  fields : Reader String
  /-- The statements of a block. -/
  statements : Reader String
  /-- An item, such as a function. -/
  item : Reader String
  /-- A tree of imported names.  With the flag, paths in it may begin with `::`.
  Yields whether one of them does. -/
  importTree : Bool → Reader Bool

namespace Grammar

/-- The grammar that has nothing in it. -/
def empty : Grammar where
  type _ := Reader.refuse
  bound _ _ := Reader.refuse
  expression _ := Reader.refuse
  operand _ := Reader.refuse
  continued _ _ _ := Reader.refuse
  statementExpression := Reader.refuse
  pattern := Reader.refuse
  fields := Reader.refuse
  statements := Reader.refuse
  item := Reader.refuse
  importTree _ := Reader.refuse

variable (g : Grammar)

/-- Reads a type, perhaps of several bounds, as text. -/
def typeText : Reader String := do
  return (← g.type true).text

/-- Reads a type that is no sum of bounds, as text. -/
def simpleTypeText : Reader String := do
  return (← g.type false).text

/-- Reads an expression as text. -/
def expressionText : Reader String := do
  return (← g.expression true).text

/-- Reads an expression that ends before a brace, as text. -/
def conditionText : Reader String := do
  return (← g.expression false).text

/-- Reads a pattern without alternatives as text. -/
def patternText : Reader String := do
  return (← g.pattern).text

/-- Reads a block of statements. -/
def block : Reader String :=
  Reader.bracketed .braces g.statements

end Grammar

end EntitySql
