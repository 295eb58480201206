/-!
# Base64

Three bytes are written as four digits of six bits each; one or two bytes that are left over are
filled up with marks.
-/

namespace Microbench.Base64

/-- The digits by their values. -/
def alphabet : List Char :=
  "ABCDEFGHIJKLMNOPQRSTUVWXYZabcdefghijklmnopqrstuvwxyz0123456789+/".toList

/-- The digit of a value below sixty-four. -/
def digit (value : Nat) : Char := alphabet.getD value '='

def encode : List UInt8 → List Char
  | [] => []
  | [first] => [digit (first.toNat / 4), digit (first.toNat % 4 * 16), '=', '=']
  | [first, second] =>
    [digit (first.toNat / 4), digit (first.toNat % 4 * 16 + second.toNat / 16),
      digit (second.toNat % 16 * 4), '=']
  | first :: second :: third :: rest =>
    digit (first.toNat / 4) :: digit (first.toNat % 4 * 16 + second.toNat / 16) ::
      digit (second.toNat % 16 * 4 + third.toNat / 64) :: digit (third.toNat % 64) :: encode rest

/-- The digits of a text's bytes. -/
def encodeText (text : String) : List Char :=
  encode (text.toList.flatMap String.utf8EncodeChar)

end Microbench.Base64
