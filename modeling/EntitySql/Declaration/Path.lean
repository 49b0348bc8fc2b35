import EntitySql.Declaration.Attribute

/-!
# Paths and their arguments

A path is made of segments, and a segment may be applied to arguments in angle
brackets.  In an expression, such arguments follow a `::`.  Lifetimes among the
arguments are written before the rest.
-/

namespace EntitySql

/-- What stands between angle brackets. -/
structure AngleItem where
  isLifetime : Bool
  text : String
  /-- The item as a type, if it is one. -/
  type : Option TypeExpression := none

/-- The text of items in angle brackets, without the brackets.  A lifetime that
was written last is set off from the items that come after it by a comma. -/
def angleText (items : List (AngleItem × Bool)) : String :=
  let lifetimes := items.filter (·.1.isLifetime)
  let others := items.filter fun entry => !entry.1.isLifetime
  let closed := lifetimes.getLast?.all (·.2)
  written lifetimes ++ (if closed || others.isEmpty then "" else ",") ++ written others
where
  /-- Items in the order in which they were written. -/
  written (items : List (AngleItem × Bool)) : String :=
    Reader.separatedText "," (items.map fun (item, followed) => (item.text, followed))

/-- A segment of a path. -/
structure PathSegment where
  identifier : Identifier
  /-- Angle brackets follow, even if nothing stands in them. -/
  bracketed : Bool := false
  arguments : List AngleItem := []
  text : String

/-- A path that was read. -/
structure PathReading where
  /-- The path begins with a type in angle brackets. -/
  qualified : Bool
  /-- Nothing stands before the last segment. -/
  single : Bool
  /-- Before the last segment there are no angle brackets. -/
  plainStart : Bool
  /-- What stands before the last segment. -/
  start : String
  last : PathSegment

namespace PathReading

/-- The text of the path. -/
def text (path : PathReading) : String :=
  path.start ++ path.last.text

/-- The path has no angle brackets. -/
def isPlain (path : PathReading) : Bool :=
  path.plainStart && !path.last.bracketed

/-- The path as a type. -/
def type (path : PathReading) : TypeReading :=
  ⟨.path path.text path.last.identifier (path.last.arguments.filterMap AngleItem.type),
    if path.qualified then .qualified else .path path.single⟩

/-- The path with one more segment. -/
def extend (path : PathReading) (segment : PathSegment) : PathReading :=
  { path with
    single := false
    plainStart := path.isPlain
    start := path.text ++ "::"
    last := segment }

/-- The path without the arguments of its last segment. -/
def bare (path : PathReading) : String :=
  path.start ++ path.last.identifier.text

end PathReading

/-- Where a path stands. -/
inductive PathPlace where
  | type
  | expression
  deriving DecidableEq

namespace Reader

/-- A path comes first. -/
def pathAhead (tokens : List Token) : Bool :=
  nameAhead tokens || anyWordAhead pathWords tokens || anySignsAhead ["::", "<"] tokens

/-- Another segment of a path comes first, and no list of parameters. -/
def segmentAhead (tokens : List Token) : Bool :=
  signsAhead "::" tokens && !groupAhead .parentheses (behindTwo tokens)

/-- A macro call goes on behind its path. -/
def macroMarkAhead (tokens : List Token) : Bool :=
  signsApart "!" ["!="] tokens

/-- A closing angle bracket comes next. -/
def endsAtAngle : Reader Bool :=
  ahead (signsAhead ">")

/-- Reads the mark of a macro call and the group behind it.  Yields the brackets
besides. -/
def macroCall : Reader (Delimiter × String) := do
  let mark ← sign "!"
  let (delimiter, tokens) ← someGroup
  return (delimiter, mark ++ enclosed delimiter (Token.textAll tokens))

end Reader

namespace Grammar

open Reader

variable (g : Grammar)

/-- A literal or a block comes first. -/
def constantAhead (tokens : List Token) : Bool :=
  literalAhead tokens || groupAhead .braces tokens

/-- Reads a constant argument: a literal or a block. -/
def constantArgument : Reader String := do
  if ← ahead literalAhead then literal else g.attributedBlock

/-- Reads what a name in angle brackets is equal to. -/
def equatedArgument : Reader String := do
  if ← ahead constantAhead then g.constantArgument else g.typeText

/-- Reads bounds behind a name in angle brackets. -/
def argumentBounds : Reader String :=
  separatedTexts "+" (ahead (anySignsAhead [",", ">"])) (return (← g.bound false true).text)

/-- Reads an argument in angle brackets. -/
def angleArgument : Reader AngleItem := do
  let tokens ← get
  if lifetimeAhead tokens && !signsAhead "+" (behindFirst tokens) then
    return ⟨true, ← lifetime, none⟩
  else if constantAhead tokens then
    return ⟨false, ← g.constantArgument, none⟩
  else do
    let found ← g.type true
    match found.form with
    | .path true =>
        let tokens ← get
        if signsAhead "=" tokens then
          return ⟨false, found.text ++ (← inOrder [sign "=", g.equatedArgument]), none⟩
        else if signsAhead ":" tokens then
          return ⟨false, found.text ++ (← inOrder [sign ":", g.argumentBounds]), none⟩
        else return ⟨false, found.text, some found.type⟩
    | _ => return ⟨false, found.text, some found.type⟩

/-- Reads arguments in angle brackets, perhaps behind a `::`. -/
def angleArguments : Reader (List AngleItem × String) := do
  let colon ← optionalSign "::"
  let opening ← sign "<"
  let items ← separated "," endsAtAngle g.angleArgument
  let closing ← sign ">"
  return (items.map (·.1), colon ++ opening ++ angleText items ++ closing)

/-- Arguments of a segment come first. -/
def argumentsAhead (place : PathPlace) (tokens : List Token) : Bool :=
  (place = .type && signsApart "<" ["<="] tokens)
    || (signsAhead "::" tokens && signsAhead "<" (behindTwo tokens))

/-- Reads a segment of a path. -/
def segment (place : PathPlace) : Reader PathSegment := do
  match ← oneOf? ["super", "self", "crate", "try"] with
  | some found => return { identifier := ⟨found, false⟩, text := found }
  | none => do
      let identifier ← nameOr ["Self"]
      if ← ahead (argumentsAhead place) then do
        let (arguments, text) ← g.angleArguments
        return ⟨identifier, true, arguments, identifier.text ++ text⟩
      else return { identifier, text := identifier.text }

/-- Reads a path that begins with a segment. -/
def unqualifiedPath (place : PathPlace) : Reader PathReading := do
  let colon ← sign? "::"
  let first ← g.segment place
  extended (moreSegments place) ⟨false, colon.isNone, true, colon.getD "", first⟩
where
  /-- Reads another segment if there is one. -/
  moreSegments (place : PathPlace) (path : PathReading) : Reader (Option PathReading) := do
    if ← ahead segmentAhead then do
      let _ ← sign "::"
      return some (path.extend (← g.segment place))
    else return none

/-- Reads the type in angle brackets at the beginning of a path. -/
def qualifier : Reader String :=
  inOrder [sign "<", g.typeText,
    whenAhead (wordAhead "as")
      (inOrder [word "as", return (← g.unqualifiedPath .type).text]),
    sign ">"]

/-- Reads a path. -/
def path (place : PathPlace) : Reader PathReading := do
  if ← ahead (signsAhead "<") then do
    let start ← g.qualifier
    let colon ← sign "::"
    let segments ← separated "::" (return false) (g.segment place)
    match segments.map (·.1) with
    | [] => refuse
    | first :: others =>
        return others.foldl PathReading.extend ⟨true, false, false, start ++ colon, first⟩
  else g.unqualifiedPath place

end Grammar

end EntitySql
