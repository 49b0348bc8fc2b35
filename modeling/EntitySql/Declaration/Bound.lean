import EntitySql.Declaration.Generic

/-!
# Bounds

A bound is a lifetime or a trait; elsewhere than in types that are chosen at run
time it may also list the parameters that are used, or ask for a constant trait.
-/

namespace EntitySql

namespace Reader

/-- Another bound may come first, after a plus. -/
def boundAhead (tokens : List Token) : Bool :=
  identifierAhead tokens || anySignsAhead ["::", "?"] tokens || lifetimeAhead tokens
    || groupAhead .parentheses tokens

/-- Another bound may come first, and constant traits are allowed. -/
def boundOrConstantAhead (tokens : List Token) : Bool :=
  boundAhead tokens || groupAhead .brackets tokens

/-- A list of parameters of a trait comes first. -/
def inputsAhead (tokens : List Token) : Bool :=
  groupAhead .parentheses tokens
    || (signsAhead "::" tokens && groupAhead .parentheses (behindTwo tokens))

/-- Reads a parameter that is used. -/
def usedParameter : Reader AngleItem := do
  if ← ahead lifetimeAhead then return ⟨true, ← lifetime, none⟩
  else return ⟨false, (← nameOr ["Self"]).text, none⟩

/-- Reads a list of the parameters that are used. -/
def usedParameters : Reader String :=
  inOrder [word "use", sign "<",
    return angleText (← separated "," endsAtAngle usedParameter), sign ">"]

end Reader

namespace Grammar

open Reader

variable (g : Grammar)

/-- Reads the type of a result, if there is one.  With `plus`, it may consist of
several bounds. -/
def resultType (plus : Bool) : Reader String :=
  whenAhead (signsAhead "->") (inOrder [sign "->", return (← g.type plus).text])

/-- Reads types in parentheses and the type of a result. -/
def inputsAndResult : Reader String :=
  inOrder [bracketed .parentheses (commaSeparated g.typeText), g.resultType false]

/-- Reads the mark of a constant trait, if there is one, and tells whether there
is. -/
def constantMark : Reader Bool := do
  if ← ahead (groupAhead .brackets) then do
    let _ ← group .brackets (word "const")
    return true
  else return (← word? "const").isSome

/-- Reads a trait, and tells whether it is a constant one. -/
def traitBound (constants : Bool) : Reader (Bool × String) := do
  let lifetimes ← g.boundParameters
  let constant ← constantMark
  require (constants || !constant)
  let relaxed ← optionalSign "?"
  require (relaxed = "" || (lifetimes = "" && !(← ahead (wordAhead "for"))))
  let path ← g.unqualifiedPath .type
  let text ←
    if path.last.arguments.isEmpty && (← ahead inputsAhead) then do
      let _ ← optionalSign "::"
      pure (path.bare ++ (← g.inputsAndResult))
    else pure path.text
  return (constant, relaxed ++ lifetimes ++ text)

/-- Reads a trait, perhaps in parentheses. -/
def traitBoundReading (constants : Bool) : Reader BoundReading := do
  let enclosing ← ahead (groupAhead .parentheses)
  let ((constant, inner), tokens) ← withTokens
    (if enclosing then group .parentheses (g.traitBound constants) else g.traitBound constants)
  if constant then
    return ⟨.constant, Token.textAll tokens, inner⟩
  else
    return ⟨.trait, if enclosing then enclosed .parentheses inner else inner, inner⟩

/-- One level of bounds. -/
def boundLevel (captures constants : Bool) : Reader BoundReading := do
  let tokens ← get
  if lifetimeAhead tokens then do
    let text ← lifetime
    return ⟨.lifetime, text, text⟩
  else if wordAhead "use" tokens then do
    let text ← usedParameters
    require captures
    return ⟨.capture, text, text⟩
  else g.traitBoundReading constants

/-- Reads bounds between plus signs, and perhaps one behind the last.  Without
`plus`, reads a single one. -/
def bounds (plus captures constants : Bool) : Reader (List (BoundReading × Bool)) := do
  let stop := ahead fun tokens =>
    !(if constants then boundOrConstantAhead tokens else boundAhead tokens)
  if plus then separated "+" stop (g.bound captures constants)
  else return [(← g.bound captures constants, false)]

/-- The text of bounds. -/
def boundsText (bounds : List (BoundReading × Bool)) : String :=
  separatedText "+" (bounds.map fun (bound, followed) => (bound.text, followed))

/-- Reads bounds that do not just name lifetimes and used parameters. -/
def traitBounds (plus captures constants : Bool) : Reader String := do
  let found ← g.bounds plus captures constants
  require (found.any fun (bound, _) => bound.kind = .trait || bound.kind = .constant)
  return boundsText found

end Grammar

end EntitySql
