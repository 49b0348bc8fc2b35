import EntitySql.Declaration.Generic
import EntitySql.Declaration.Operator

/-!
# Control flow

Expressions with blocks of their own, closures, and jumps.  A condition ends
before the brace of its block, so that no structure stands in it outside of
parentheses.
-/

namespace EntitySql

namespace Reader

/-- Parameters for a closure come first, behind `for`. -/
def closureParametersAhead (tokens : List Token) : Bool :=
  let inner := behindFirst tokens
  signsAhead "<" tokens && (lifetimeAhead inner || signsAhead ">" inner)

/-- A closure comes first. -/
def closureAhead (tokens : List Token) : Bool :=
  let next := behindFirst tokens
  signsAhead "|" tokens || anyWordAhead ["move", "static"] tokens
    || (wordAhead "for" tokens && closureParametersAhead next)
    || (wordAhead "const" tokens && !groupAhead .braces next)
    || (wordAhead "async" tokens && (signsAhead "|" next || wordAhead "move" next))

/-- An asynchronous block comes first. -/
def asyncBlockAhead (tokens : List Token) : Bool :=
  let next := behindFirst tokens
  wordAhead "async" tokens
    && (groupAhead .braces next
      || (wordAhead "move" next && groupAhead .braces (behindFirst next)))

/-- An expression comes first. -/
def expressionAhead (tokens : List Token) : Bool :=
  (identifierAhead tokens && !wordAhead "as" tokens) || someGroupAhead tokens
    || literalAhead tokens || lifetimeAhead tokens
    || signsApart "!" ["!="] tokens || signsApart "-" ["-=", "->"] tokens
    || signsApart "*" ["*="] tokens || signsApart "|" ["|="] tokens
    || signsApart "&" ["&="] tokens || signsApart "<" ["<=", "<<="] tokens
    || anySignsAhead ["..", "::", "#"] tokens

end Reader

namespace Grammar

open Reader

variable (g : Grammar)

/-! ## Blocks -/

/-- Reads a condition and its block. -/
def conditional : Reader String :=
  inOrder [word "if", g.conditionText, g.block]

/-- Reads a choice between blocks. -/
def ifExpression : Reader String :=
  inOrder [g.conditional,
    manyTexts
      (return !(← ahead fun tokens =>
        wordAhead "else" tokens && wordAhead "if" (behindFirst tokens)))
      (inOrder [word "else", g.conditional]),
    whenAhead (wordAhead "else") (inOrder [word "else", g.block])]

/-- Reads a case of a match with its comma.  The comma may be left out behind a
block and at the end. -/
def matchArm : Reader String := do
  let start ← inOrder [g.attributesText, g.alternativesText,
    whenAhead (wordAhead "if") (inOrder [word "if", g.expressionText]), sign "=>"]
  let body ← g.statementExpression
  let comma ← if body.form = .block then optionalSign "," else commaOrEnd
  return start ++ body.text ++ comma

/-- Reads a match. -/
def matchExpression : Reader String :=
  inOrder [word "match", g.conditionText,
    bracketed .braces (inOrder [g.innerAttributes, manyTexts atEnd g.matchArm])]

/-- Reads a loop with a condition. -/
def whileLoop : Reader String :=
  inOrder [word "while", g.conditionText, g.attributedBlock]

/-- Reads a loop over items. -/
def forLoop : Reader String :=
  inOrder [word "for", g.alternativesText, word "in", g.conditionText, g.attributedBlock]

/-- Reads a loop or a block behind a label. -/
def labelled : Reader String := do
  let label ← inOrder [lifetime, sign ":"]
  let tokens ← get
  let body ←
    if wordAhead "while" tokens then g.whileLoop
    else if wordAhead "for" tokens then g.forLoop
    else inOrder [optionalWord "loop", g.attributedBlock]
  return label ++ body

/-- The reader for an expression that ends with its own block, if one comes
first. -/
def blockExpression? (tokens : List Token) : Option (Reader String) :=
  let next := behindFirst tokens
  if wordAhead "if" tokens then some g.ifExpression
  else if wordAhead "while" tokens then some g.whileLoop
  else if wordAhead "for" tokens && !closureParametersAhead next then some g.forLoop
  else if anyWordAhead ["loop", "unsafe"] tokens then
    some (inOrder [oneOf ["loop", "unsafe"], g.attributedBlock])
  else if wordAhead "match" tokens then some g.matchExpression
  else if wordAhead "try" tokens && groupAhead .braces next then
    some (inOrder [word "try", g.block])
  else if wordAhead "const" tokens && groupAhead .braces next then
    some (inOrder [word "const", g.attributedBlock])
  else if groupAhead .braces tokens then some g.attributedBlock
  else if lifetimeAhead tokens then some g.labelled
  else none

/-- Reads an asynchronous block. -/
def asyncBlock : Reader String :=
  inOrder [word "async", optionalWord "move", g.block]

/-! ## Closures -/

/-- Reads an input of a closure. -/
def closureInput : Reader String := do
  let attributes ← g.attributesText
  let found ← g.pattern
  if ← ahead (signsAhead ":") then
    return attributes ++ found.text ++ (← inOrder [sign ":", g.typeText])
  else if found.form = .fixed then return found.text
  else return attributes ++ found.text

/-- Reads a closure. -/
def closure (structures : Bool) : Reader String := do
  let start ← inOrder [g.boundParameters, optionalWord "const", optionalWord "static",
    optionalWord "async", optionalWord "move", sign "|",
    separatedTexts "," (ahead (signsAhead "|")) g.closureInput, sign "|"]
  if ← ahead (signsAhead "->") then
    return start ++ (← inOrder [sign "->", g.typeText, g.block])
  else return start ++ (← g.expression structures).text

/-! ## Jumps -/

/-- Reads the end of a loop or a block, perhaps with a label and a value. -/
def breakExpression (structures : Bool) : Reader String := do
  let start ← inOrder [word "break", whenAhead lifetimeAhead lifetime]
  require !(start ≠ "break" && (← ahead (signsAhead ":")))
  let value ← whenAhead
    (fun tokens => expressionAhead tokens && (structures || !groupAhead .braces tokens))
    g.expressionText
  return start ++ value

/-- Reads a jump that may take a value with it. -/
def jumpWithValue (jump : String) : Reader String :=
  inOrder [word jump, whenAhead expressionAhead g.expressionText]

/-- Reads a match of a pattern as a condition. -/
def letExpression (structures : Bool) : Reader String := do
  let start ← inOrder [word "let", g.alternativesText, sign "="]
  let value ← g.continued structures .comparison (← g.operand structures)
  return start ++ value.text

end Grammar

end EntitySql
