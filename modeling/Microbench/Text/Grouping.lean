/-!
# Thousands groups

A comma before every third digit of the whole part, counted from the point; sign and places stay
as they are.
-/

namespace Microbench.Grouping

/-- Digits after the first, a comma before each that begins a group. -/
def groupRest : List Char → List Char
  | [] => []
  | digit :: rest =>
    if (rest.length + 1) % 3 = 0 then ',' :: digit :: groupRest rest else digit :: groupRest rest

def groupWhole : List Char → List Char
  | [] => []
  | digit :: rest => digit :: groupRest rest

/-- A number's text without its sign, in groups of three. -/
def groupUnsigned (text : List Char) : List Char :=
  groupWhole (text.takeWhile (· != '.')) ++ text.dropWhile (· != '.')

/-- The text of a number with the digits of its whole part in groups of three. -/
def thousands : List Char → List Char
  | '-' :: rest => '-' :: groupUnsigned rest
  | text => groupUnsigned text

end Microbench.Grouping
