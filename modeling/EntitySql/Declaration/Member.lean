import EntitySql.Declaration.Function

/-!
# Members

What traits, implementations and linked libraries hold: functions, constants,
types and macro calls.  A member that says more than its kind of holder allows
for stands as it is written.
-/

namespace EntitySql

/-- Where restrictions may stand in the definition of a type by another. -/
inductive RestrictionPlace where
  | beforeType
  | behindType
  | both
  deriving DecidableEq

/-- A type that goes by a name, and may be said to be another type. -/
structure NamedType where
  text : String
  /-- Bounds may be asked for. -/
  bounded : Bool
  /-- The type is said to be another type. -/
  defined : Bool

/-- A constant with a type. -/
structure TypedConstant where
  text : String
  /-- The constant has neither parameters nor restrictions on them. -/
  plain : Bool
  /-- The constant has a value. -/
  defined : Bool

namespace Reader

/-- A macro call comes first. -/
def macroPathAhead (tokens : List Token) : Bool :=
  nameAhead tokens || anyWordAhead ["self", "super", "crate"] tokens || signsAhead "::" tokens

/-- Reads the group of a macro call, and a semicolon unless it has braces. -/
def macroGroup : Reader String := do
  let (delimiter, tokens) ← someGroup
  let semicolon ← if delimiter = .braces then pure "" else sign ";"
  return enclosed delimiter (Token.textAll tokens) ++ semicolon

/-- Reads a macro call. -/
def macroMember : Reader String :=
  inOrder [return (← plainPath).text, sign "!", macroGroup]

/-- The tokens behind a visibility, and whether one is there. -/
def behindVisibility? (tokens : List Token) : Option (Bool × List Token) :=
  (visibility.run tokens).map fun (found, rest) => (found ≠ "", rest)

/-- Bounds of a named type end here. -/
def endsTypeBounds (tokens : List Token) : Bool :=
  wordAhead "where" tokens || anySignsAhead ["=", ";"] tokens

end Reader

namespace Grammar

open Reader

variable (g : Grammar)

/-- Reads a type that goes by a name.  With the flag, it may be a default. -/
def namedType (default : Bool) (place : RestrictionPlace) : Reader NamedType := do
  let start ← inOrder [visibility, whenAhead (fun _ => default) (optionalWord "default"),
    word "type", nameText, return (← g.genericParameters).text]
  let bounded ← ahead (signsAhead ":")
  let bounds ← colonAndBounds endsTypeBounds g.parameterBound
  let before ← if place = .behindType then pure none else g.restrictions?
  let definition ← whenAhead (signsAhead "=") (inOrder [sign "=", g.typeText])
  let behind ←
    if place = .beforeType || before.isSome then pure "" else g.restrictionsText
  let text := start ++ bounds ++ before.getD "" ++ definition ++ behind ++ (← sign ";")
  return ⟨text, bounded, definition ≠ ""⟩

/-- Reads a constant with a type. -/
def typedConstant : Reader TypedConstant := do
  let start ← inOrder [word "const", return (← nameOr ["_"]).text]
  let parameters ← g.genericParameters
  let type ← inOrder [sign ":", g.typeText]
  let value ← whenAhead (signsAhead "=") (inOrder [sign "=", g.expressionText])
  let restrictions ← g.restrictions?
  let semicolon ← sign ";"
  return ⟨start ++ parameters.text ++ type ++ value ++ semicolon,
    !parameters.present && restrictions.isNone, value ≠ ""⟩

/-! ## Members of traits -/

/-- Reads what a trait has a member for.  With `plain`, nothing stands before
it. -/
def traitMemberBody (plain : Bool) : Reader (Option String) := do
  let tokens ← get
  if signatureAhead false tokens then do
    let start ← g.signature
    if ← ahead (groupAhead .braces) then return some (start ++ (← g.attributedBlock))
    else return some (start ++ (← sign ";"))
  else if wordAhead "const" tokens then do
    let found ← g.typedConstant
    return if found.plain then some found.text else none
  else if ← ahead fun tokens => macroPathAhead tokens && plain then return some (← macroMember)
  else do
    let visible ← ahead (wordAhead "pub")
    let found ← g.namedType false .behindType
    return if visible then none else some found.text

/-- Reads a member of a trait. -/
def traitMember : Reader String :=
  orAsWritten do
    let attributes ← g.attributesText
    let start ← inOrder [visibility, optionalWord "default"]
    let found ← g.traitMemberBody (start = "")
    return if start = "" then found.map (attributes ++ ·) else none

/-! ## Members of implementations -/

/-- Reads what an implementation has a member for, given what comes behind its
visibility and the mark of a default. -/
def implementationMemberBody (plain : Bool) (behind : List Token) : Reader (Option String) := do
  if signatureAhead false behind then do
    let start ← inOrder [visibility, optionalWord "default", g.signature]
    if (← sign? ";").isSome then return none
    else return some (start ++ (← g.attributedBlock))
  else if wordAhead "const" behind then do
    let start ← inOrder [visibility, optionalWord "default"]
    let found ← g.typedConstant
    return if found.plain && found.defined then some (start ++ found.text) else none
  else if wordAhead "type" behind then do
    let found ← g.namedType true .behindType
    return if found.defined && !found.bounded then some found.text else none
  else do
    require (plain && macroPathAhead behind)
    return some (← macroMember)

/-- Reads a member of an implementation. -/
def implementationMember : Reader String :=
  orAsWritten do
    let attributes ← g.attributesText
    match behindVisibility? (← get) with
    | none => refuse
    | some (visible, tokens) =>
        let next := behindFirst tokens
        let default := wordAhead "default" tokens && !signsAhead "!" next
        let found ← g.implementationMemberBody (!visible && !default)
          (if default then next else tokens)
        return found.map (attributes ++ ·)

/-! ## Members of linked libraries -/

/-- Reads a function that is linked. -/
def linkedFunction : Reader (Option String) := do
  let start ← visibility
  let (safe, text) ← g.markedSignature true
  if ← ahead (groupAhead .braces) then do
    let _ ← g.attributedBlock
    return none
  else do
    let semicolon ← sign ";"
    return if safe then none else some (start ++ text ++ semicolon)

/-- Reads a variable that is linked. -/
def linkedVariable : Reader (Option String) := do
  let start ← visibility
  let safety ← oneOf? ["unsafe", "safe"]
  let text ← inOrder [word "static", optionalWord "mut", nameText, sign ":", g.typeText]
  let value ← whenAhead (signsAhead "=") (inOrder [sign "=", g.expressionText])
  let semicolon ← sign ";"
  return if safety.isNone && value = "" then some (start ++ text ++ semicolon) else none

/-- A variable that is linked comes first. -/
def linkedVariableAhead (tokens : List Token) : Bool :=
  wordAhead "static" tokens
    || (anyWordAhead ["unsafe", "safe"] tokens && wordAhead "static" (behindFirst tokens))

/-- Reads a member of a linked library. -/
def linkedMember : Reader String :=
  orAsWritten do
    let attributes ← g.attributesText
    match behindVisibility? (← get) with
    | none => refuse
    | some (visible, tokens) =>
        let found ←
          if signatureAhead true tokens then g.linkedFunction
          else if linkedVariableAhead tokens then g.linkedVariable
          else if wordAhead "type" tokens then do
            let found ← g.namedType false .both
            pure (if found.defined || found.bounded then none else some found.text)
          else do
            require (!visible && macroPathAhead tokens)
            pure (some (← macroMember))
        return found.map (attributes ++ ·)

end Grammar

end EntitySql
