import EntitySql.Declaration.Control
import EntitySql.Declaration.Lexeme
import EntitySql.Declaration.Type

/-!
# Operands

An operand is a literal, a path, a group or an expression that begins with a word
of its own, with signs before it and with calls, members and indices behind it.
-/

namespace EntitySql

namespace Reader

/-- The address of a place is taken without a reference. -/
def rawAddressAhead (tokens : List Token) : Bool :=
  wordAhead "raw" tokens && anyWordAhead ["const", "mut"] (behindFirst tokens)

/-- A path that begins with the word `try` comes first. -/
def keywordPathAhead (tokens : List Token) : Bool :=
  wordAhead "try" tokens && anySignsAhead ["!", "::"] (behindFirst tokens)

/-- The index that stands between the dots of a number. -/
def index? (digits : String) : Option String :=
  match Lexeme.integer? digits.toList with
  | some (.integer value true, []) => if value < UInt32.size then some (toString value) else none
  | _ => none

/-- The indices in a number that stands behind a dot, and whether another dot
ends it. -/
def indices? (number : String) : Option (String × Bool) := do
  let parts := Text.segments '.' number
  let dotted := parts.getLast? == some ""
  let indices ← (if dotted then parts.dropLast else parts).mapM index?
  return (".".intercalate indices, dotted)

end Reader

namespace Grammar

open Reader

variable (g : Grammar)

/-! ## Behind an operand -/

/-- Reads arguments in parentheses. -/
def callArguments : Reader String :=
  bracketed .parentheses (commaSeparated g.expressionText)

/-- Reads the name of a member, and arguments in angle brackets with those of the
call. -/
def memberName : Reader String := do
  if ← ahead (wordAhead "await") then word "await"
  else do
    let (named, found) ← member
    if named && (← ahead (signsAhead "::")) then
      return found ++ (← g.angleArguments).2 ++ (← g.callArguments)
    else return found

/-- Reads a member behind a dot.  Two indices may be written as one number. -/
def memberBehindDot : Reader String := do
  match ← get with
  | .literal number .fraction :: rest =>
      match indices? number with
      | none => refuse
      | some (indices, dotted) => do
          set rest
          if dotted then return indices ++ "." ++ (← g.memberName) else return indices
  | _ => g.memberName

/-- Extends an operand by a call, an index or a member. -/
def extendOperandBehind (found : ExpressionReading) : Reader (Option ExpressionReading) := do
  let tokens ← get
  let behind? : Option (Reader String) :=
    if groupAhead .parentheses tokens then some g.callArguments
    else if groupAhead .brackets tokens then some (bracketed .brackets g.expressionText)
    else if found.form = .range then none
    else if signsApart "." [".."] tokens then some (inOrder [sign ".", g.memberBehindDot])
    else if signsAhead "?" tokens then some (sign "?")
    else none
  match behind? with
  | none => return none
  | some behind => return some { text := found.text ++ (← behind) }

/-! ## Operands without signs -/

/-- Reads a field of a structure with its value, or what the other fields are
taken from. -/
def fieldValue : Reader String := do
  if ← ahead (signsAhead "..") then do
    let rest ← inOrder [sign "..", whenAhead (!·.isEmpty) g.expressionText]
    require (← atEnd)
    return rest
  else do
    let attributes ← g.attributesText
    let (named, field) ← member
    let value ←
      if named && !(← ahead (signsAhead ":")) then pure ""
      else inOrder [sign ":", g.expressionText]
    return attributes ++ field ++ value ++ (← commaOrEnd)

/-- Reads a path, a macro call, or a structure. -/
def pathExpression (structures : Bool) : Reader ExpressionReading := do
  let path ← g.path .expression
  let tokens ← get
  if path.isPlain && macroMarkAhead tokens then do
    let (delimiter, call) ← macroCall
    return { text := path.text ++ call
             form := if delimiter = .braces then .bracedMacro else .other }
  else if structures && groupAhead .braces tokens then
    return { text := path.text ++ (← bracketed .braces (manyTexts atEnd g.fieldValue)) }
  else return { text := path.text }

/-- Reads what stands in the brackets of an array. -/
def arrayContent : Reader String := do
  if ← atEnd then return ""
  else do
    let first ← g.expressionText
    if ← ahead (signsAhead ";") then
      return first ++ (← inOrder [sign ";", g.expressionText])
    else return first ++ (← commaOrEnd) ++ (← commaSeparated g.expressionText)

/-- Reads an operand that begins with a word of its own and has no special
form. -/
def wordExpression? (structures : Bool) (tokens : List Token) : Option (Reader String) :=
  if asyncBlockAhead tokens then some g.asyncBlock
  else if closureAhead tokens then some (g.closure structures)
  else if wordAhead "break" tokens then some (g.breakExpression structures)
  else if wordAhead "continue" tokens then
    some (inOrder [word "continue", whenAhead lifetimeAhead lifetime])
  else if wordAhead "return" tokens then some (g.jumpWithValue "return")
  else if wordAhead "yield" tokens then some (g.jumpWithValue "yield")
  else if wordAhead "let" tokens then some (g.letExpression structures)
  else if wordAhead "_" tokens then some (word "_")
  else none

/-- Reads an operand without the signs around it. -/
def atom (structures : Bool) : Reader ExpressionReading := do
  let tokens ← get
  match g.blockExpression? tokens, g.wordExpression? structures tokens with
  | some block, _ => return { text := ← block, form := .block }
  | none, some expression => return { text := ← expression }
  | none, none =>
      if literalAhead tokens then return { text := ← literal }
      else if builtInAhead tokens then return { text := ← asWritten builtIn, fixed := true }
      else if pathAhead tokens || keywordPathAhead tokens then g.pathExpression structures
      else if groupAhead .parentheses tokens then return { text := ← g.callArguments }
      else if groupAhead .brackets tokens then
        return { text := ← bracketed .brackets g.arrayContent }
      else if wordAhead "become" tokens then
        return { text := ← asWritten (inOrder [word "become", g.expressionText]), fixed := true }
      else g.rangeBehind structures ""

/-! ## Operands -/

/-- Reads how a reference may be used. -/
def referenceKind : Reader String := do
  if ← ahead rawAddressAhead then inOrder [word "raw", oneOf ["const", "mut"]]
  else optionalWord "mut"

/-- Reads an operand behind its attributes: a sign and another operand, or what
goes without a sign. -/
def operandBehindAttributes (structures : Bool) : Reader ExpressionReading := do
  let tokens ← get
  if signsAhead "&" tokens then do
    let start ← inOrder [sign "&", referenceKind]
    return { text := start ++ (← g.operand structures).text }
  else
    match ["*", "!", "-"].find? (signsAhead · tokens) with
    | some signs => do
        let start ← sign signs
        return { text := start ++ (← g.operand structures).text }
    | none => do extended g.extendOperandBehind (← g.atom structures)

/-- One level of operands.  A range that is an operand has no attributes. -/
def operandLevel (structures : Bool) : Reader ExpressionReading := do
  let ((attributes, found), tokens) ← withTokens do
    let attributes ← g.attributesText
    return (attributes, ← g.operandBehindAttributes structures)
  if found.fixed then return { found with text := Token.textAll tokens }
  else do
    require (attributes = "" || found.form ≠ .range)
    return found.behind attributes

/-- One level of expressions in the place of a statement.  Behind an expression
with its own block, only a member or a question mark goes on. -/
def statementExpressionLevel : Reader ExpressionReading := do
  let attributes ← g.attributesText
  match g.blockExpression? (← get) with
  | none => g.continued true .jump ((← g.operand true).behind attributes)
  | some block => do
      let found : ExpressionReading := { text := attributes ++ (← block), form := .block }
      if ← ahead fun tokens => signsApart "." [".."] tokens || signsAhead "?" tokens then
        g.continued true .jump (← extended g.extendOperandBehind found)
      else return found

end Grammar

end EntitySql
