import EntitySql.Declaration.Item
import EntitySql.Declaration.Operand

/-!
# Statements

A block holds statements: definitions of variables, items, macro calls and
expressions.  An expression needs a semicolon behind it unless it ends with its
own block or is the last statement.
-/

namespace EntitySql

/-- How a statement begins that is a macro call. -/
inductive MacroStart where
  /-- The call defines something, and a name follows its mark. -/
  | item
  /-- The call has braces and is a statement. -/
  | statement
  | other
  deriving DecidableEq

namespace Reader

/-- How the tokens begin, if they are a macro call. -/
def macroStart (tokens : List Token) : MacroStart :=
  match plainPath.run tokens with
  | none => .other
  | some (_, rest) =>
      let next := behindFirst rest
      let third := behindFirst next
      if !signsAhead "!" rest then .other
      else if nameAhead next || wordAhead "try" next then .item
      else if groupAhead .braces next && !signsApart "." [".."] third && !signsAhead "?" third then
        .statement
      else .other

/-- A variable that belongs to the program comes first, and no closure. -/
def staticItemAhead (tokens : List Token) : Bool :=
  let next := behindFirst tokens
  wordAhead "static" tokens && (wordAhead "mut" next || nameAhead next)

/-- A constant or a function comes first, behind `const`. -/
def constItemAhead (tokens : List Token) : Bool :=
  let next := behindFirst tokens
  let asyncClosure := wordAhead "async" next
    && !anyWordAhead ["unsafe", "extern", "fn"] (behindFirst next)
  wordAhead "const" tokens
    && !(groupAhead .braces next || anyWordAhead ["static", "move"] next || signsAhead "|" next
      || asyncClosure)

/-- An item comes first that begins with a word of its own. -/
def itemAhead (tokens : List Token) : Bool :=
  let next := behindFirst tokens
  anyWordAhead ["pub", "extern", "use", "fn", "mod", "type", "struct", "enum", "trait", "impl",
      "macro"] tokens
    || staticItemAhead tokens || constItemAhead tokens
    || (wordAhead "crate" tokens && !signsAhead "::" next)
    || (wordAhead "unsafe" tokens && !groupAhead .braces next)
    || (wordAhead "async" tokens && anyWordAhead ["unsafe", "extern", "fn"] next)
    || (wordAhead "union" tokens && nameAhead next)
    || (wordAhead "auto" tokens && wordAhead "trait" next)
    || (wordAhead "default" tokens && anyWordAhead ["unsafe", "impl"] next)

/-- Reads a macro call and the semicolon behind it. -/
def macroStatement : Reader String :=
  inOrder [return (← plainPath).text, return (← macroCall).2, optionalSign ";"]

/-- The tokens end with a group between braces. -/
def endsWithBraces (tokens : List Token) : Bool :=
  match tokens.getLast? with
  | some (.group .braces _) => true
  | _ => false

end Reader

namespace Grammar

open Reader

variable (g : Grammar)

/-- Reads the value of a variable, and a block for a pattern that it does not
match.  Behind a brace, no such block may follow. -/
def initialValue : Reader String := do
  let start ← sign "="
  let (value, tokens) ← withTokens g.expressionText
  let otherwise ← whenAhead
    (fun rest => !endsWithBraces tokens && wordAhead "else" rest)
    (inOrder [word "else", g.block])
  return start ++ value ++ otherwise

/-- Reads the definition of a variable. -/
def letStatement : Reader String :=
  inOrder [word "let", g.patternText,
    whenAhead (signsAhead ":") (inOrder [sign ":", g.typeText]),
    whenAhead (signsAhead "=") g.initialValue, sign ";"]

/-- Reads a statement behind its attributes.  Yields its text, unless it stands
as it is written, and whether another statement may follow. -/
def statementBehind (attributes : String) : Reader (Option String × Bool) := do
  let tokens ← get
  let start := macroStart tokens
  if start = .statement then return (some (attributes ++ (← macroStatement)), true)
  else if wordAhead "let" tokens then return (some (attributes ++ (← g.letStatement)), true)
  else if start = .item || itemAhead tokens then
    return ((← g.itemBehindAttributes).map (attributes ++ ·), true)
  else do
    let found := (← g.statementExpression).behind attributes
    match ← sign? ";" with
    | some semicolon => return (some (found.text ++ semicolon), true)
    | none => return (some found.text, found.endsStatement)

/-- Reads a statement. -/
def statement : Reader String := do
  match ← sign? ";" with
  | some semicolon => return semicolon
  | none => do
      let ((text, complete), tokens) ← withTokens do
        g.statementBehind (← g.attributesText)
      require (complete || (← atEnd))
      return text.getD (Token.textAll tokens)

/-- One level of statements. -/
def statementsLevel : Reader String :=
  manyTexts atEnd g.statement

end Grammar

end EntitySql
