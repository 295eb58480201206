/-!
# White space

The characters with the property White_Space, and texts without them at either end.
-/

namespace Microbench.Text

/-- Ranges of code points with the property White_Space. -/
def whiteSpaceRanges : List (Nat × Nat) :=
  [(0x09, 0x0d), (0x20, 0x20), (0x85, 0x85), (0xa0, 0xa0), (0x1680, 0x1680), (0x2000, 0x200a),
    (0x2028, 0x2029), (0x202f, 0x202f), (0x205f, 0x205f), (0x3000, 0x3000)]

/-- Whether a character is white space. -/
def isWhiteSpace (char : Char) : Bool :=
  whiteSpaceRanges.any fun range => range.1 ≤ char.toNat && char.toNat ≤ range.2

def trimStart (text : List Char) : List Char := text.dropWhile isWhiteSpace

def trimEnd (text : List Char) : List Char := (text.reverse.dropWhile isWhiteSpace).reverse

/-- A text without white space at either end. -/
def trim (text : List Char) : List Char := trimEnd (trimStart text)

/-- Whether a text has nothing but white space. -/
def isBlank (text : List Char) : Bool := text.all isWhiteSpace

end Microbench.Text
