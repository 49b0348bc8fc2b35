import EntitySql.Text.Visible

/-!
# Quoted text

Diagnostics show text between double quotes.  A quote and a backslash are
escaped by a backslash, the four common control characters have a letter, and
any other character that is not visible is written by its code point in
hexadecimal.
-/

namespace EntitySql.Text

/-- Lower-case hexadecimal digits without leading zeros. -/
def hexadecimal (n : Nat) : String :=
  String.ofList (Nat.toDigits 16 n)

/-- One character as it stands between double quotes. -/
def escape (c : Char) : String :=
  if c = '\x00' then "\\0"
  else if c = '\t' then "\\t"
  else if c = '\n' then "\\n"
  else if c = '\r' then "\\r"
  else if c = '\x22' then "\\\""
  else if c = '\\' then "\\\\"
  else if isVisible c then c.toString
  else "\\u\x7b" ++ hexadecimal c.toNat ++ "\x7d"

/-- Text between double quotes. -/
def quoted (text : String) : String :=
  "\"" ++ String.join (text.toList.map escape) ++ "\""

end EntitySql.Text
