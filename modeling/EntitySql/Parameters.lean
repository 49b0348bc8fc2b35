import EntitySql.Value

/-!
# Parameters of a statement

Values are bound one after another, and the names follow the order of binding:
`p1`, `p2`, and so on.
-/

namespace EntitySql

open EntitySql.Text

/-- The bound values under their names, in the order of binding. -/
structure Parameters where
  entries : List (String × Value) := []
  deriving DecidableEq

namespace Parameters

/-- The name of the parameter at a position counted from zero. -/
def nameAt (position : Nat) : String :=
  "p" ++ toString (position + 1)

/-- The number of bound values. -/
def size (parameters : Parameters) : Nat :=
  parameters.entries.length

/-- Nothing is bound. -/
def isEmpty (parameters : Parameters) : Bool :=
  parameters.entries.isEmpty

/-- The names in the order of binding. -/
def names (parameters : Parameters) : List String :=
  parameters.entries.map (·.1)

/-- The values in the order of binding. -/
def values (parameters : Parameters) : List Value :=
  parameters.entries.map (·.2)

/-- The value bound to a name. -/
def get? (parameters : Parameters) (name : String) : Option Value :=
  parameters.entries.lookup name

/-- The name that the next bound value gets. -/
def nextName (parameters : Parameters) : String :=
  nameAt parameters.size

/-- Binds a value under the next name. -/
def bind (parameters : Parameters) (value : Value) : Parameters :=
  ⟨parameters.entries ++ [(parameters.nextName, value)]⟩

/-- Binds several values one after another. -/
def bindAll (parameters : Parameters) (values : List Value) : Parameters :=
  values.foldl bind parameters

/-- The parameters that bind these values only. -/
def ofValues (values : List Value) : Parameters :=
  bindAll {} values

/-- Drops all but the first so many values. -/
def truncate (parameters : Parameters) (count : Nat) : Parameters :=
  ⟨parameters.entries.take count⟩

/-- The parameters as diagnostics show them. -/
def describe (parameters : Parameters) : String :=
  record "Parameters"
    [("values", sequence (parameters.entries.map fun (name, value) =>
      "(" ++ commaSeparated [quoted name, value.describe] ++ ")"))]

end Parameters

end EntitySql
