import EntitySql.Declaration.Pattern

/-!
# Operators

An expression goes on behind an operand with operators, ranges and casts.  An
operator takes to its right what binds more strongly than itself; assignments
group to the right, comparisons do not group at all, and nothing but the end of
the expression follows a range.
-/

namespace EntitySql

/-- The operators between two operands, longer ones before those that they begin
with. -/
def binaryOperators : List (String × Precedence) :=
  [ ("+=", .assignment), ("-=", .assignment), ("*=", .assignment), ("/=", .assignment),
    ("%=", .assignment), ("^=", .assignment), ("&=", .assignment), ("|=", .assignment),
    ("<<=", .assignment), (">>=", .assignment), ("&&", .conjunction), ("||", .disjunction),
    ("<<", .shift), (">>", .shift), ("==", .comparison), ("<=", .comparison),
    ("!=", .comparison), (">=", .comparison), ("+", .sum), ("-", .sum), ("*", .product),
    ("/", .product), ("%", .product), ("^", .bitXor), ("&", .bitAnd), ("|", .bitOr),
    ("<", .comparison), (">", .comparison) ]

namespace Reader

/-- The operator between two operands that comes first. -/
def operatorAhead? (tokens : List Token) : Option (String × Precedence) :=
  binaryOperators.find? fun (signs, _) => signsAhead signs tokens

/-- An assignment comes first. -/
def assignmentAhead (tokens : List Token) : Bool :=
  signsApart "=" ["=>"] tokens

/-- The precedence of what an expression goes on with. -/
def nextPrecedence (tokens : List Token) : Precedence :=
  match operatorAhead? tokens with
  | some (_, precedence) => precedence
  | none =>
      if assignmentAhead tokens then .assignment
      else if signsAhead ".." tokens then .range
      else if wordAhead "as" tokens then .cast
      else .jump

/-- A range has no upper end here. -/
def endsRange (structures : Bool) (tokens : List Token) : Bool :=
  tokens.isEmpty || signsApart "." [".."] tokens
    || anySignsAhead [",", ";", "?", "=>", "=", "+", "/", "%", "^", ">", "<=", "!=", "-=", "*=",
        "&=", "|=", "<<="] tokens
    || (!structures && groupAhead .braces tokens) || wordAhead "as" tokens

/-- What comes first would apply to the type of a cast and not to the cast. -/
def appliesToCast (tokens : List Token) : Bool :=
  signsApart "." [".."] tokens || signsAhead "?" tokens || groupAhead .brackets tokens
    || groupAhead .parentheses tokens

end Reader

namespace Grammar

open Reader

variable (g : Grammar)

/-- Extends the right operand of an operator by what binds more strongly. -/
def extendOperand (structures : Bool) (precedence : Precedence) (found : ExpressionReading) :
    Reader (Option ExpressionReading) := do
  let tokens ← get
  let next := nextPrecedence tokens
  if precedence.rank < next.rank || (next = .assignment && precedence = .assignment) then do
    let longer ← g.continued structures next found
    return if (← get).length < tokens.length then some longer else none
  else return none

/-- Reads the right operand of an operator. -/
def rightOperand (structures : Bool) (precedence : Precedence) : Reader ExpressionReading := do
  extended (g.extendOperand structures precedence) (← g.operand structures)

/-- Reads the upper end of a range, if there is one. -/
def upperEnd (structures closed : Bool) : Reader String := do
  if !closed && (← ahead (endsRange structures)) then return ""
  else return (← g.rightOperand structures .range).text

/-- Reads a range behind its lower end. -/
def rangeBehind (structures : Bool) (lower : String) : Reader ExpressionReading := do
  let (closed, between) ← rangeSign false
  return { text := lower ++ between ++ (← g.upperEnd structures closed), form := .range }

/-- Reads the type of a cast. -/
def castBehind (found : ExpressionReading) : Reader ExpressionReading := do
  let cast ← inOrder [word "as", g.simpleTypeText]
  require !(← ahead appliesToCast)
  return { text := found.text ++ cast, fixed := found.fixed }

/-- Extends an expression by an operator that binds at least so strongly. -/
def extendExpression (structures : Bool) (base : Precedence) (found : ExpressionReading) :
    Reader (Option ExpressionReading) := do
  let tokens ← get
  if found.form = .range then return none
  else
    match operatorAhead? tokens with
    | some (signs, precedence) =>
        if precedence.rank < base.rank then return none
        else do
          require !(precedence = .comparison && found.form = .comparison)
          let operator ← sign signs
          let right ← g.rightOperand structures precedence
          return some
            { text := found.text ++ operator ++ right.text
              form := if precedence = .comparison then .comparison else .other
              fixed := found.fixed }
    | none =>
        if base.rank ≤ Precedence.assignment.rank && assignmentAhead tokens then do
          let operator ← sign "="
          let right ← g.rightOperand structures .assignment
          return some { text := found.text ++ operator ++ right.text, fixed := found.fixed }
        else if base.rank ≤ Precedence.range.rank && signsAhead ".." tokens then
          return some (← g.rangeBehind structures found.text)
        else if wordAhead "as" tokens then return some (← g.castBehind found)
        else return none

/-- One level of expressions behind their first operand. -/
def continuedLevel (structures : Bool) (base : Precedence) (found : ExpressionReading) :
    Reader ExpressionReading :=
  extended (g.extendExpression structures base) found

/-- One level of expressions. -/
def expressionLevel (structures : Bool) : Reader ExpressionReading := do
  g.continued structures .jump (← g.operand structures)

end Grammar

end EntitySql
