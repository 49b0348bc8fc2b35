import EntitySql.Declaration.Member
import EntitySql.Declaration.TypeDefinition

/-!
# Items

What stands on its own in a module or among the statements of a block.  An item
that is understood only in part stands as it is written, with its attributes.
-/

namespace EntitySql

namespace Reader

/-- A mark that a trait is not implemented comes first. -/
def negationAhead (tokens : List Token) : Bool :=
  signsAhead "!" tokens && !groupAhead .braces (behindFirst tokens)

/-- A mark that an implementation is constant comes first. -/
def constantMarkAhead (tokens : List Token) : Bool :=
  wordAhead "const" tokens || (signsAhead "?" tokens && wordAhead "const" (behindFirst tokens))

/-- Bounds behind the name of a trait end here. -/
def endsTraitBounds (tokens : List Token) : Bool :=
  wordAhead "where" tokens || groupAhead .braces tokens || signsAhead ";" tokens

/-- Reads another name for something, if there is one. -/
def otherName : Reader String :=
  whenAhead (wordAhead "as") (inOrder [word "as", return (← nameOr ["_"]).text])

/-- Reads a macro call in the place of an item, perhaps with a name. -/
def macroItem : Reader String :=
  inOrder [return (← plainPath).text, sign "!",
    whenAhead (fun tokens => nameAhead tokens || wordAhead "try" tokens)
      (return (← identifier).text),
    macroGroup]

/-- Reads the definition of a macro. -/
def macroDefinition : Reader String :=
  inOrder [visibility, word "macro", nameText,
    whenAhead (groupAhead .parentheses) (bracketed .parentheses remaining),
    bracketed .braces remaining]

/-- Reads the import of a library. -/
def libraryImport : Reader String :=
  inOrder [visibility, word "extern", word "crate", return (← nameOr ["self"]).text, otherName,
    sign ";"]

end Reader

namespace Grammar

open Reader

variable (g : Grammar)

/-! ## Imports -/

/-- Reads a tree of imported names in a group. -/
def importBranch (rooted : Bool) : Reader Bool := do
  let root ← if rooted then do pure (← sign? "::").isSome else pure false
  let inner ← g.importTree (rooted && !root)
  return root || inner

/-- One level of trees of imported names. -/
def importTreeLevel (rooted : Bool) : Reader Bool := do
  let tokens ← get
  if nameAhead tokens || anyWordAhead ["self", "super", "crate", "try"] tokens then do
    let _ ← identifier
    match ← sign? "::" with
    | some _ => g.importTree false
    | none => do
        let _ ← otherName
        return false
  else if signsAhead "*" tokens then do
    let _ ← sign "*"
    return false
  else do
    let branches ← group .braces (separated "," atEnd (g.importBranch rooted))
    return branches.any (·.1)

/-- Reads an import. -/
def importItem : Reader (Option String) := do
  let start ← inOrder [visibility, word "use"]
  let root ← optionalSign "::"
  let (rooted, tokens) ← withTokens (g.importTree (root = ""))
  let semicolon ← sign ";"
  return if rooted then none else some (start ++ root ++ Token.textAll tokens ++ semicolon)

/-! ## Functions, variables and constants -/

/-- Reads a function. -/
def functionItem : Reader (Option String) := do
  let start ← inOrder [visibility, g.signature]
  if (← sign? ";").isSome then return none
  else return some (start ++ (← g.attributedBlock))

/-- Reads a variable. -/
def variableItem : Reader (Option String) := do
  let start ← inOrder [visibility, word "static", optionalWord "mut", nameText]
  let type ← if ← ahead (signsAhead "=") then pure "" else inOrder [sign ":", g.typeText]
  let value ← whenAhead (signsAhead "=") (inOrder [sign "=", g.expressionText])
  let semicolon ← sign ";"
  return if type = "" || value = "" then none else some (start ++ type ++ value ++ semicolon)

/-- Reads a constant. -/
def constantItem : Reader (Option String) := do
  let start ← visibility
  let found ← g.typedConstant
  return if found.plain && found.defined then some (start ++ found.text) else none

/-- Reads a name for a type. -/
def typeItem : Reader (Option String) := do
  let found ← g.namedType false .beforeType
  return if found.defined && !found.bounded then some found.text else none

/-! ## Items that hold others -/

/-- Reads what holds members between braces. -/
def holding (member : Reader String) : Reader String :=
  bracketed .braces (inOrder [g.innerAttributes, manyTexts atEnd member])

/-- Reads a module. -/
def moduleItem : Reader String := do
  let start ← inOrder [visibility, optionalWord "unsafe", word "mod",
    return (← nameOr ["try"]).text]
  match ← sign? ";" with
  | some semicolon => return start ++ semicolon
  | none => return start ++ (← g.holding g.item)

/-- Reads what is linked from a library. -/
def linkedLibrary : Reader String :=
  inOrder [optionalWord "unsafe", linkage, g.holding g.linkedMember]

/-- Reads a trait, or another name for bounds. -/
def traitItem : Reader String := do
  let visibility ← visibility
  let marks ← inOrder [optionalWord "unsafe", optionalWord "auto"]
  let start ← inOrder [word "trait", nameText, return (← g.genericParameters).text]
  let rest ←
    if marks = "" && (← ahead (signsAhead "=")) then
      inOrder [sign "=",
        separatedTexts "+" (ahead endsTraitBounds) (return (← g.bound false false).text),
        g.restrictionsText, sign ";"]
    else
      inOrder [colonAndBounds endsTraitBounds g.parameterBound, g.restrictionsText,
        g.holding g.traitMember]
  return visibility ++ marks ++ start ++ rest

/-- Reads an implementation. -/
def implementationItem : Reader (Option String) := do
  let visibility ← visibility
  let start ← inOrder [optionalWord "default", optionalWord "unsafe", word "impl"]
  let parameters ← if ← ahead parametersAhead then g.genericParameters else pure .none
  let constant ← whenAhead constantMarkAhead (inOrder [optionalSign "?", word "const"])
  let ((negation, first), tokens) ← withTokens do
    let negation ← whenAhead negationAhead (sign "!")
    return (negation, ← g.type true)
  let forTrait ← ahead (wordAhead "for")
  let target ← whenAhead (wordAhead "for") (inOrder [word "for", g.typeText])
  let rest ← inOrder [g.restrictionsText, g.holding g.implementationMember]
  let isPath := match first.form with
    | .path _ => true
    | _ => false
  let head :=
    if forTrait || negation = "" then negation ++ first.text else Token.textAll tokens
  return if visibility ≠ "" || constant ≠ "" || (forTrait && !isPath) then none
    else some (start ++ parameters.text ++ head ++ target ++ rest)

/-! ## All items -/

/-- Reads an item behind its attributes.  Yields nothing for an item that stands
as it is written. -/
def itemBehindAttributes : Reader (Option String) := do
  match behindVisibility? (← get) with
  | none => refuse
  | some (visible, tokens) =>
      let next := behindFirst tokens
      if signatureAhead false tokens then g.functionItem
      else if wordAhead "extern" tokens then
        return some (← if wordAhead "crate" next then libraryImport else g.linkedLibrary)
      else if wordAhead "use" tokens then g.importItem
      else if wordAhead "static" tokens then g.variableItem
      else if wordAhead "const" tokens then g.constantItem
      else if wordAhead "unsafe" tokens && wordAhead "extern" next then
        return some (← g.linkedLibrary)
      else if wordAhead "mod" (behindWord "unsafe" tokens) then return some (← g.moduleItem)
      else if wordAhead "trait" (behindWord "auto" (behindWord "unsafe" tokens)) then
        return some (← g.traitItem)
      else if wordAhead "type" tokens then g.typeItem
      else if anyWordAhead ["struct", "enum"] tokens
          || (wordAhead "union" tokens && nameAhead next) then
        return some (← inOrder [visibility, return (← g.typeDefinition).text])
      else if wordAhead "impl" (behindWord "unsafe" tokens)
          || (wordAhead "default" tokens && !signsAhead "!" next) then
        g.implementationItem
      else if wordAhead "macro" tokens then do
        let _ ← macroDefinition
        return none
      else do
        require (!visible && macroPathAhead tokens)
        return some (← macroItem)

/-- One level of items. -/
def itemLevel : Reader String :=
  orAsWritten do
    let attributes ← g.attributesText
    return (← g.itemBehindAttributes).map (attributes ++ ·)

end Grammar

end EntitySql
