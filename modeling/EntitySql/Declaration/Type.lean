import EntitySql.Declaration.Bound

/-!
# Types

A type is a path, possibly behind bounds of its own, or one of the other forms:
a function, a tuple, an array, a pointer, a choice at run time.  In parentheses a
path may turn out to be the first of several bounds.
-/

namespace EntitySql

namespace Reader

/-- Reads the linkage of a function, if there is one. -/
def linkage : Reader String :=
  whenAhead (wordAhead "extern") (inOrder [word "extern", whenAhead textAhead textLiteral])

/-- A form that the language has built in comes first. -/
def builtInAhead (tokens : List Token) : Bool :=
  wordAhead "builtin" tokens && signsAhead "#" (behindFirst tokens)

/-- Reads a form that the language has built in. -/
def builtIn : Reader String :=
  inOrder [word "builtin", sign "#", nameText, bracketed .parentheses remaining]

/-- A function takes any number of further inputs from here on. -/
def furtherInputsAhead (tokens : List Token) : Bool :=
  signsAhead "..." tokens
    || ((nameAhead tokens || wordAhead "_" tokens) && signsAhead ":" (behindFirst tokens)
      && signsAhead "..." (behindTwo tokens))

/-- Reads a sign for any number of further inputs, perhaps behind a name. -/
def furtherInputs : Reader String := do
  let label ←
    if ← ahead identifierAhead then inOrder [return (← identifier).text, sign ":"] else pure ""
  let text := label ++ (← sign "...") ++ (← optionalSign ",")
  require (← atEnd)
  return text

/-- The receiver of a method comes first, and it can be changed. -/
def mutableReceiverAhead (tokens : List Token) : Bool :=
  wordAhead "mut" tokens && wordAhead "self" (behindFirst tokens)

end Reader

/-- What stands in the parentheses of a type. -/
inductive ParenthesesContent where
  /-- A tuple, or a type that cannot be a bound. -/
  | closed (text : String)
  /-- A type that can be the first of several bounds. -/
  | type (text inner : String)
  /-- A bound that is no type. -/
  | bound (text : String)

namespace Grammar

open Reader

variable (g : Grammar)

/-! ## Function types -/

/-- Reads the type of an input of a function, perhaps behind a name.  The first
input may be the receiver of a method, which stands as it is written where it can
be changed. -/
def inputType (first : Bool) : Reader String :=
  orAsWritten do
    let mutable ← whenAhead (fun tokens => first && mutableReceiverAhead tokens) (word "mut")
    let labelled ← ahead fun tokens =>
      (nameAhead tokens || wordAhead "_" tokens || (first && wordAhead "self" tokens))
        && signsApart ":" ["::"] (behindFirst tokens)
    let label ← if labelled then inOrder [return (← identifier).text, sign ":"] else pure ""
    if first && (← ahead mutableReceiverAhead) then do
      let _ ← inOrder [word "mut", word "self"]
      return none
    else if mutable ≠ "" && label = "" then do
      let _ ← word "self"
      return none
    else do
      let type ← g.typeText
      return if mutable = "" then some (label ++ type) else none

/-- Reads an input of a function type with the comma behind it. -/
def functionInput (first : Bool) : Reader String := do
  let attributes ← g.attributesText
  if ← ahead furtherInputsAhead then return attributes ++ (← furtherInputs)
  else do
    let type ← g.inputType first
    return attributes ++ type ++ (← commaOrEnd)

/-- Reads the inputs of a function type. -/
def functionInputs : Reader String := do
  if ← atEnd then return ""
  else return (← g.functionInput true) ++ (← manyTexts atEnd (g.functionInput false))

/-- Reads a function type. -/
def functionType : Reader String :=
  inOrder [optionalWord "unsafe", linkage, word "fn",
    bracketed .parentheses g.functionInputs, g.resultType false]

/-! ## Types in parentheses -/

/-- Reads further bounds, each behind a plus. -/
def plusBounds : Reader String :=
  manyTexts (return !(← ahead (signsAhead "+")))
    (inOrder [sign "+", return (← g.bound false false).text])

/-- Reads what stands in the parentheses of a type. -/
def parenthesesContent : Reader ParenthesesContent := do
  let tokens ← get
  if tokens.isEmpty then return .closed ""
  else if lifetimeAhead tokens then
    return .closed (← g.traitBounds true false false)
  else if signsAhead "?" tokens then return .bound (← g.traitBound false).2
  else do
    let first ← g.type true
    if ← ahead (signsAhead ",") then
      return .closed (first.text ++ (← sign ",") ++ (← commaSeparated g.typeText))
    else
      match first.form with
      | .path _ => return .type first.text first.text
      | .bound inner => return .type first.text inner
      | _ => return .closed first.text

/-- Reads a tuple, a type in parentheses, or a bound in parentheses and what is
added to it. -/
def parenthesizedType (plus : Bool) : Reader TypeReading := do
  match ← group .parentheses g.parenthesesContent with
  | .closed text => return .other (enclosed .parentheses text)
  | .bound text => do
      let further ← g.plusBounds
      return ⟨.other (enclosed .parentheses text ++ further),
        if further = "" then .bound text else .other⟩
  | .type text inner => do
      if plus && (← ahead (signsAhead "+")) then
        return .other (enclosed .parentheses inner ++ (← g.plusBounds))
      else return .other (enclosed .parentheses text)

/-! ## Other types -/

/-- Reads a type that begins with a path: the path, a macro call, or bounds. -/
def pathType (parameters : String) (plus : Bool) : Reader TypeReading := do
  let path ← g.path .type
  if path.qualified then return path.type
  else if path.isPlain && (← ahead macroMarkAhead) then
    return .other (path.text ++ (← macroCall).2)
  else if plus && (← ahead (signsAhead "+")) then do
    let sum ← sign "+"
    let further ← g.bounds true false false
    return .other (parameters ++ path.text ++ sum ++ boundsText further)
  else if parameters ≠ "" then
    return ⟨.other (parameters ++ path.text), .bound (parameters ++ path.text)⟩
  else return path.type

/-- Reads a type that is chosen at run time. -/
def dynamicType (plus : Bool) : Reader String :=
  inOrder [word "dyn", optionalSign "*", g.traitBounds plus false false]

/-- Reads an array or a slice. -/
def arrayType : Reader String :=
  bracketed .brackets
    (inOrder [g.typeText, whenAhead (signsAhead ";") (inOrder [sign ";", g.expressionText])])

/-- Reads a pointer. -/
def pointerType : Reader String :=
  inOrder [sign "*", oneOf ["const", "mut"], g.simpleTypeText]

/-- Reads a reference. -/
def referenceType : Reader String :=
  inOrder [sign "&", whenAhead lifetimeAhead lifetime, optionalWord "mut", g.simpleTypeText]

/-- The words that begin a function type. -/
def functionWords : List String :=
  ["fn", "unsafe", "extern"]

/-- One level of types. -/
def typeLevel (plus : Bool) : Reader TypeReading := do
  let parameters ← g.boundParameters
  let tokens ← get
  require (parameters = ""
    || (nameAhead tokens || anyWordAhead (pathWords ++ functionWords) tokens))
  if groupAhead .parentheses tokens then g.parenthesizedType plus
  else if anyWordAhead functionWords tokens then
    return .other (parameters ++ (← g.functionType))
  else if builtInAhead tokens then return .other (parameters ++ (← asWritten builtIn))
  else if pathAhead tokens then g.pathType parameters plus
  else if wordAhead "dyn" tokens then return .other (← g.dynamicType plus)
  else if groupAhead .brackets tokens then return .other (← g.arrayType)
  else if signsAhead "*" tokens then return .other (← g.pointerType)
  else if signsAhead "&" tokens then return .other (← g.referenceType)
  else if signsAhead "!" tokens then return .other (← sign "!")
  else if wordAhead "impl" tokens then
    return .other (← inOrder [word "impl", g.traitBounds plus true true])
  else if wordAhead "_" tokens then return .other (← word "_")
  else do
    require (lifetimeAhead tokens)
    return .other (← g.traitBounds plus false false)

end Grammar

end EntitySql
