import EntitySql.Declaration.TypeExpression
import EntitySql.Entity.Basic

/-!
# What the type of a field holds

The type of a property follows from the last segment of the field's type and from
what that segment is applied to.  An optional type is looked through once.  For a
navigation, pointers are looked through as well, up to the related entity or to a
collection of such.
-/

namespace EntitySql

/-- The names of integer types. -/
def integerTypeNames : List String :=
  [ "i8", "i16", "i32", "i64", "i128", "isize", "u8", "u16", "u32", "u64", "u128", "usize" ]

/-- The names of floating-point types. -/
def floatTypeNames : List String :=
  ["f32", "f64"]

/-- The names of text types. -/
def textTypeNames : List String :=
  ["String", "str", "char"]

/-- The names of types of dates and times. -/
def dateTimeTypeNames : List String :=
  ["NaiveDate", "NaiveDateTime", "NaiveTime", "DateTime"]

/-- The names of pointers to a single value. -/
def pointerTypeNames : List String :=
  ["Box", "Arc", "Rc"]

/-- The identifier is one of these words, written as such. -/
def Identifier.isAmong (identifier : Identifier) (words : List String) : Bool :=
  words.any identifier.isWord

namespace TypeExpression

/-- The last segment of the type is this word. -/
def isNamed (word : String) : TypeExpression → Bool
  | .path _ last _ => last.isWord word
  | .other _ => false

/-- What an optional type may hold. -/
def optional? : TypeExpression → Option TypeExpression
  | .path _ last [inner] => if last.isWord "Option" then some inner else none
  | _ => none

/-- What the type holds apart from being optional. -/
def present (type : TypeExpression) : TypeExpression :=
  type.optional?.getD type

/-- The type of a property with a column, for a type that is not optional. -/
def presentColumnType : TypeExpression → PropertyType
  | .path _ last arguments =>
      if last.isWord "bool" then .bool
      else if last.isAmong integerTypeNames then .int
      else if last.isAmong floatTypeNames then .float
      else if last.isAmong textTypeNames then .text
      else if last.isAmong dateTimeTypeNames then .dateTime
      else if last.isWord "Vec" && arguments.head?.any (isNamed "u8") then .bytes
      else .other
  | .other _ => .other

/-- The type of a property with a column. -/
def columnType (type : TypeExpression) : PropertyType :=
  type.present.presentColumnType

/-- The name of the entity that a path leads to. -/
def entityName? : TypeExpression → Option String
  | .path _ last _ => some last.name
  | .other _ => none

/-- Where a navigation leads, for a type that is not optional. -/
def presentNavigationType? : TypeExpression → Option PropertyType
  | .path _ last [inner] =>
      if last.isAmong pointerTypeNames then inner.presentNavigationType?
      else if last.isWord "Vec" then inner.entityName?.map .collection
      else some (.entity last.name)
  | .path _ last _ => some (.entity last.name)
  | .other _ => none

/-- Where a navigation leads, if it names an entity. -/
def navigationType? (type : TypeExpression) : Option PropertyType :=
  type.present.presentNavigationType?

end TypeExpression

end EntitySql
