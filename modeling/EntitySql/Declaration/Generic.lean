import EntitySql.Declaration.Path

/-!
# Generic parameters and restrictions on them

Parameters stand in angle brackets and have bounds and defaults; what they stand
for may be restricted behind `where`.  Empty lists of parameters, of bounds and
of restrictions are not written.
-/

namespace EntitySql

/-- The parameters of an item. -/
structure GenericParameters where
  /-- Angle brackets are there, even if nothing stands in them. -/
  present : Bool
  isEmpty : Bool
  text : String

/-- No parameters. -/
def GenericParameters.none : GenericParameters :=
  ⟨false, true, ""⟩

namespace Reader

/-- Angle brackets that come first hold parameters, and do not begin a path. -/
def parametersAhead (tokens : List Token) : Bool :=
  let inner := behindFirst tokens
  let next := behindFirst inner
  signsAhead "<" tokens
    && (anySignsAhead [">", "#"] inner
      || ((lifetimeAhead inner || nameAhead inner)
        && (anySignsAhead [">", ",", "="] next || signsApart ":" ["::"] next))
      || wordAhead "const" inner)

/-- A list of restrictions ends here. -/
def endsRestrictions (tokens : List Token) : Bool :=
  tokens.isEmpty || groupAhead .braces tokens || anySignsAhead [",", ";", "="] tokens
    || signsApart ":" ["::"] tokens

/-- The bounds of a parameter end here. -/
def endsParameterBounds (tokens : List Token) : Bool :=
  tokens.isEmpty || anySignsAhead [",", ">", "="] tokens

/-- Reads a colon and the bounds behind it, if there are any. -/
def colonAndBounds (ends : List Token → Bool) (bound : Reader String) : Reader String := do
  match ← sign? ":" with
  | none => return ""
  | some colon => do
      let bounds ← separated "+" (ahead ends) bound
      return if bounds.isEmpty then "" else colon ++ separatedText "+" bounds

end Reader

namespace Grammar

open Reader

variable (g : Grammar)

/-- Reads a bound of a parameter as text. -/
def parameterBound : Reader String := do
  return (← g.bound false true).text

/-- Reads the default of a constant parameter. -/
def constantDefault : Reader String := do
  if ← ahead nameAhead then nameText
  else do
    require (← ahead constantAhead)
    g.constantArgument

/-- Reads a parameter.  With `blank`, it may go without a name. -/
def genericParameter (blank : Bool) : Reader AngleItem := do
  let attributes ← g.attributesText
  let tokens ← get
  if lifetimeAhead tokens then
    return ⟨true, attributes ++ (← inOrder
      [lifetime, colonAndBounds endsParameterBounds lifetime]), none⟩
  else if nameAhead tokens then
    return ⟨false, attributes ++ (← inOrder
      [nameText, colonAndBounds endsParameterBounds g.parameterBound,
        whenAhead (signsAhead "=") (inOrder [sign "=", g.typeText])]), none⟩
  else if wordAhead "const" tokens then
    return ⟨false, attributes ++ (← inOrder
      [word "const", nameText, sign ":", g.typeText,
        whenAhead (signsAhead "=") (inOrder [sign "=", g.constantDefault])]), none⟩
  else do
    require blank
    return ⟨false, attributes ++ (← word "_"), none⟩

/-- Reads the parameters of an item, if there are any. -/
def genericParameters : Reader GenericParameters := do
  match ← sign? "<" with
  | none => return .none
  | some opening => do
      let items ← separated "," endsAtAngle (g.genericParameter true)
      let closing ← sign ">"
      return ⟨true, items.isEmpty,
        if items.isEmpty then "" else opening ++ angleText items ++ closing⟩

/-- Reads the parameters that a type or a bound is read for, if there are any. -/
def boundParameters : Reader String :=
  whenAhead (wordAhead "for")
    (inOrder [word "for", sign "<",
      separatedTexts "," endsAtAngle (return (← g.genericParameter false).text), sign ">"])

/-- Reads a restriction on parameters. -/
def restrictionOnParameter : Reader String := do
  let tokens ← get
  if lifetimeAhead tokens && signsAhead ":" (behindFirst tokens) then
    inOrder [lifetime, sign ":", separatedTexts "+" (ahead endsRestrictions) lifetime]
  else
    inOrder [g.boundParameters, g.typeText, sign ":",
      separatedTexts "+" (ahead endsRestrictions) g.parameterBound]

/-- Reads restrictions on parameters, if there are any. -/
def restrictions? : Reader (Option String) := do
  match ← word? "where" with
  | none => return none
  | some start => do
      require !(← ahead parametersAhead)
      let found ← separated "," (ahead endsRestrictions) g.restrictionOnParameter
      return some (if found.isEmpty then "" else start ++ separatedText "," found)

/-- Reads restrictions on parameters, if there are any, as text. -/
def restrictionsText : Reader String := do
  return (← g.restrictions?).getD ""

end Grammar

end EntitySql
