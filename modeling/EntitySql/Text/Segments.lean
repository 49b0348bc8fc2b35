/-!
# Cutting text at a separator

Text is cut at every occurrence of a separator, so there is always one segment
more than there are separators, and joining the segments with the separator
gives the text back.
-/

namespace EntitySql.Text

/-- The segments of a list of characters between separators. -/
def splitAt (separator : Char) : List Char → List (List Char)
  | [] => [[]]
  | c :: rest =>
      if c = separator then [] :: splitAt separator rest
      else
        match splitAt separator rest with
        | [] => [[c]]
        | segment :: others => (c :: segment) :: others

/-- The segments of a text between separators. -/
def segments (separator : Char) (text : String) : List String :=
  (splitAt separator text.toList).map String.ofList

/-- The characters after the last `::`, or all of them when there is none. -/
def afterLastPathSeparator (text : List Char) : List Char :=
  go text text
where
  go (best : List Char) : List Char → List Char
    | [] => best
    | ':' :: ':' :: rest => go rest (':' :: rest)
    | _ :: rest => go best rest

/-- White space as Unicode defines it. -/
def isBlank (c : Char) : Bool :=
  let n := c.toNat
  (0x9 ≤ n && n ≤ 0xd) || n = 0x20 || n = 0x85 || n = 0xa0 || n = 0x1680
    || (0x2000 ≤ n && n ≤ 0x200a) || n = 0x2028 || n = 0x2029 || n = 0x202f
    || n = 0x205f || n = 0x3000

/-- Text without the blanks at its two ends. -/
def trimBlanks (text : List Char) : List Char :=
  ((text.dropWhile isBlank).reverse.dropWhile isBlank).reverse

/-- Equality up to the case of ASCII letters. -/
def equalIgnoringCase (left right : String) : Bool :=
  left.toLower == right.toLower

end EntitySql.Text
