import EntitySql.Declaration.Path

/-!
# Patterns

A pattern is a name, a constant, a range, or the shape of a value with patterns
in it.  Alternatives stand between bars.
-/

namespace EntitySql

namespace Reader

/-- Reads the name of a field, or its index, which is written in decimal digits
without leading zeros.  Yields whether it is a name. -/
def member : Reader (Bool × String) := do
  match ← get with
  | .literal _ (.integer value true) :: rest =>
      require (value < UInt32.size)
      set rest
      return (false, toString value)
  | _ => return (true, ← nameText)

/-- Reads the sign between the ends of a range, and tells whether the range
includes its upper end.  In a pattern, three dots stand for `..=`. -/
def rangeSign (inPattern : Bool) : Reader (Bool × String) := do
  let tokens ← get
  if signsAhead "..=" tokens then return (true, ← sign "..=")
  else if signsAhead "..." tokens then do
    require inPattern
    let _ ← sign "..."
    return (true, "..=")
  else return (false, ← sign "..")

/-- A range in a pattern has no upper end here. -/
def endsPatternRange (tokens : List Token) : Bool :=
  tokens.isEmpty || anySignsAhead ["|", "=", ",", ";"] tokens || signsApart ":" ["::"] tokens
    || wordAhead "if" tokens

/-- A pattern begins with a path and not with a plain name. -/
def pathPatternAhead (tokens : List Token) : Bool :=
  let next := behindFirst tokens
  (nameAhead tokens
      && (anySignsAhead ["::", "!", ".."] next || groupAhead .braces next
        || groupAhead .parentheses next))
    || (wordAhead "self" tokens && signsAhead "::" next)
    || anySignsAhead ["::", "<"] tokens || anyWordAhead ["Self", "super", "crate"] tokens

/-- Another alternative comes first. -/
def alternativeAhead (tokens : List Token) : Bool :=
  signsApart "|" ["||", "|="] tokens

end Reader

namespace Grammar

open Reader

variable (g : Grammar)

/-- Reads patterns between bars. -/
def alternatives : Reader PatternReading := do
  let start ← optionalSign "|"
  let first ← g.pattern
  let others ← manyTexts (return !(← ahead alternativeAhead)) (inOrder [sign "|", g.patternText])
  if start = "" && others = "" then return first
  else return { text := start ++ first.text ++ others }

/-- Reads patterns between bars as text. -/
def alternativesText : Reader String := do
  return (← g.alternatives).text

/-! ## Ranges -/

/-- Reads an end of a range, if there is one. -/
def rangeEnd? : Reader (Option String) := do
  let tokens ← get
  if endsPatternRange tokens then return none
  else if literalAhead tokens then return some (← literal)
  else if pathAhead tokens then return some (← g.path .expression).text
  else return some (← inOrder [word "const", g.attributedBlock])

/-- Reads what follows the lower end of a range. -/
def rangeFrom (lower : String) : Reader PatternReading := do
  let (closed, between) ← rangeSign true
  let upper ← g.rangeEnd?
  require (upper.isSome || !closed)
  return ⟨lower ++ between ++ upper.getD "", if upper.isNone then .openRange else .other⟩

/-- Reads a range without a lower end, or two dots for all that is left. -/
def rangeWithoutLowerEnd : Reader PatternReading := do
  let (closed, between) ← rangeSign false
  match ← g.rangeEnd? with
  | some upper => return ⟨between ++ upper, .openRange⟩
  | none => do
      require !closed
      return ⟨between, .rest⟩

/-- Reads a constant, or a range that begins with one. -/
def constantPattern : Reader PatternReading := do
  match ← g.rangeEnd? with
  | none => refuse
  | some lower =>
      if ← ahead (signsAhead "..") then g.rangeFrom lower else return { text := lower }

/-! ## Structures -/

/-- Reads a pattern for a field of a structure. -/
def fieldPattern : Reader String := do
  let binding ← inOrder [optionalWord "box", optionalWord "ref", optionalWord "mut"]
  if binding ≠ "" then return binding ++ (← nameText)
  else do
    let (named, field) ← member
    if named && !(← ahead (signsAhead ":")) then return field
    else return field ++ (← inOrder [sign ":", g.alternativesText])

/-- Reads a pattern for a field, or two dots for all other fields. -/
def fieldOrRest : Reader String := do
  let attributes ← g.attributesText
  if ← ahead (signsAhead "..") then do
    let rest ← sign ".."
    require (← atEnd)
    return attributes ++ rest
  else return attributes ++ (← inOrder [g.fieldPattern, commaOrEnd])

/-- Reads a pattern that begins with a path. -/
def pathPattern : Reader PatternReading := do
  let path ← g.path .expression
  let tokens ← get
  if path.isPlain && macroMarkAhead tokens then
    return { text := path.text ++ (← macroCall).2 }
  else if groupAhead .braces tokens then
    return { text := path.text ++ (← bracketed .braces (manyTexts atEnd g.fieldOrRest)) }
  else if groupAhead .parentheses tokens then
    return { text := path.text
        ++ (← bracketed .parentheses (commaSeparated g.alternativesText)) }
  else if signsAhead ".." tokens then g.rangeFrom path.text
  else return { text := path.text }

/-! ## Other patterns -/

/-- Reads a name, perhaps with a pattern for what it stands for. -/
def namePattern : Reader String :=
  inOrder [optionalWord "ref", optionalWord "mut", return (← nameOr ["self"]).text,
    whenAhead (signsAhead "@") (inOrder [sign "@", g.patternText])]

/-- Reads a pattern in a slice.  A range needs both of its ends there. -/
def slicePatternItem : Reader String := do
  let found ← g.alternatives
  require (found.form ≠ .openRange)
  return found.text

/-- One level of patterns. -/
def patternLevel : Reader PatternReading := do
  let tokens ← get
  if pathPatternAhead tokens then g.pathPattern
  else if wordAhead "_" tokens then return { text := ← word "_" }
  else if wordAhead "box" tokens then
    return ⟨← asWritten (inOrder [word "box", g.patternText]), .fixed⟩
  else if signsAhead "-" tokens || literalAhead tokens || wordAhead "const" tokens then
    g.constantPattern
  else if nameAhead tokens || anyWordAhead ["ref", "mut", "self"] tokens then
    return { text := ← g.namePattern }
  else if signsAhead "&" tokens then
    return { text := ← inOrder [sign "&", optionalWord "mut", g.patternText] }
  else if groupAhead .parentheses tokens then
    return { text := ← bracketed .parentheses (commaSeparated g.alternativesText) }
  else if groupAhead .brackets tokens then
    return { text := ← bracketed .brackets (commaSeparated g.slicePatternItem) }
  else do
    require (!signsAhead "..." tokens)
    g.rangeWithoutLowerEnd

end Grammar

end EntitySql
