import EntitySql.Dialect.Basic

/-!
# Dialects made to order

A dialect for a product that is not built in, given by its name, the sign before
a parameter and the two quotes around an identifier.
-/

namespace EntitySql

open EntitySql.Text

/-- The signs of a dialect made to order. -/
structure CustomSigns where
  name : String
  parameterSign : String
  opening : String
  closing : String

/-- The signs as diagnostics show them. -/
def CustomSigns.describe (signs : CustomSigns) : String :=
  record "CustomDialect"
    [ ("name", quoted signs.name),
      ("prefix", quoted signs.parameterSign),
      ("open", quoted signs.opening),
      ("close", quoted signs.closing) ]

/-- Items separated by a bare comma. -/
def tightlySeparated (items : List String) : String :=
  ",".intercalate items

/-- The dialect with these signs.  Identifiers are enclosed as they are. -/
def CustomSigns.dialect (signs : CustomSigns) : Dialect where
  name := signs.name
  description := signs.describe
  marker name := signs.parameterSign ++ name
  quoteIdentifier identifier := signs.opening ++ identifier ++ signs.closing
  insert insertion :=
    "INSERT " ++ insertion.table ++ " (" ++ tightlySeparated insertion.columns
      ++ ") VALUES (" ++ tightlySeparated insertion.markers
      ++ ") RET (" ++ tightlySeparated insertion.generatedKeys ++ ")"
  paging ordering page :=
    ordering ++ " PAGE " ++ toString page.number.toInt ++ " SIZE " ++ toString page.size.toNat
      ++ " OFF " ++ toString page.offset.toNat

end EntitySql
