import Microbench.Text.Base64

/-!
# Reading Base64

Four digits are read as three bytes again, or as fewer if marks stand in for the last digits. Free
text that was written in Base64 is its UTF-8 bytes, and these are the text.
-/

namespace Microbench.Base64

/-- The value of a digit. -/
def value? (char : Char) : Option Nat := alphabet.idxOf? char

/-- The bytes that digits stand for. Marks are at the end only. -/
def decode? : List Char → Option (List UInt8)
  | [] => some []
  | [first, second, '=', '='] => do
    let first ← value? first
    let second ← value? second
    return [.ofNat (first * 4 + second / 16)]
  | [first, second, third, '='] => do
    let first ← value? first
    let second ← value? second
    let third ← value? third
    return [.ofNat (first * 4 + second / 16), .ofNat (second % 16 * 16 + third / 4)]
  | first :: second :: third :: fourth :: rest => do
    let first ← value? first
    let second ← value? second
    let third ← value? third
    let fourth ← value? fourth
    let bytes ← decode? rest
    return .ofNat (first * 4 + second / 16) :: .ofNat (second % 16 * 16 + third / 4) ::
      .ofNat (third % 4 * 64 + fourth) :: bytes
  | _ => none

/-- The text that digits stand for. -/
def decodeText? (digits : List Char) : Option String := do
  let bytes ← decode? digits
  String.fromUTF8? bytes.toByteArray

theorem value?_digit {value : Nat} (inside : value < 64) : value? (digit value) = some value := by
  revert value
  decide +kernel

theorem digit_mem_alphabet {value : Nat} (inside : value < 64) : digit value ∈ alphabet := by
  revert value
  decide +kernel

theorem digit_ne_mark {value : Nat} (inside : value < 64) : digit value ≠ '=' := by
  revert value
  decide +kernel

/-- Nothing but digits and marks is written. -/
theorem mem_encode (bytes : List UInt8) : ∀ char ∈ encode bytes, char ∈ alphabet ∨ char = '=' := by
  induction bytes using encode.induct with
  | case1 => simp [encode]
  | case2 first =>
      have byte := first.toNat_lt
      rw [encode]
      simp only [List.forall_mem_cons, or_true, List.not_mem_nil, false_implies, implies_true,
        and_true]
      exact ⟨.inl (digit_mem_alphabet (by omega)), .inl (digit_mem_alphabet (by omega))⟩
  | case3 first second =>
      have byte := first.toNat_lt
      have other := second.toNat_lt
      rw [encode]
      simp only [List.forall_mem_cons, or_true, List.not_mem_nil, false_implies, implies_true,
        and_true]
      exact ⟨.inl (digit_mem_alphabet (by omega)), .inl (digit_mem_alphabet (by omega)),
        .inl (digit_mem_alphabet (by omega))⟩
  | case4 first second third rest ih =>
      have byte := first.toNat_lt
      have other := second.toNat_lt
      have last := third.toNat_lt
      rw [encode]
      simp only [List.forall_mem_cons]
      exact ⟨.inl (digit_mem_alphabet (by omega)), .inl (digit_mem_alphabet (by omega)),
        .inl (digit_mem_alphabet (by omega)), .inl (digit_mem_alphabet (by omega)), ih⟩

theorem notMem_encode {char : Char} (noDigit : char ∉ alphabet) (noMark : char ≠ '=')
    (bytes : List UInt8) : char ∉ encode bytes := by
  intro member
  rcases mem_encode bytes char member with isDigit | isMark
  · exact noDigit isDigit
  · exact noMark isMark

theorem ofNat_eq (byte : UInt8) {number : Nat} (same : number = byte.toNat) :
    UInt8.ofNat number = byte := by
  rw [same, UInt8.ofNat_toNat]

/-- The bytes that were written are read. -/
theorem decode?_encode (bytes : List UInt8) : decode? (encode bytes) = some bytes := by
  induction bytes using encode.induct with
  | case1 => rfl
  | case2 first =>
      have byte := first.toNat_lt
      rw [encode, decode?, value?_digit (by omega), value?_digit (by omega)]
      change some [UInt8.ofNat _] = _
      rw [ofNat_eq first (by omega)]
  | case3 first second =>
      have byte := first.toNat_lt
      have other := second.toNat_lt
      rw [encode, decode?, value?_digit (by omega), value?_digit (by omega),
        value?_digit (by omega)]
      · change some [UInt8.ofNat _, UInt8.ofNat _] = _
        rw [ofNat_eq first (by omega), ofNat_eq second (by omega)]
      · exact digit_ne_mark (by omega)
  | case4 first second third rest ih =>
      have byte := first.toNat_lt
      have other := second.toNat_lt
      have last := third.toNat_lt
      have isDigit : digit (third.toNat % 64) ≠ '=' := digit_ne_mark (by omega)
      rw [encode, decode?, value?_digit (by omega), value?_digit (by omega),
        value?_digit (by omega), value?_digit (by omega), ih]
      · change some (UInt8.ofNat _ :: UInt8.ofNat _ :: UInt8.ofNat _ :: rest) = _
        rw [ofNat_eq first (by omega), ofNat_eq second (by omega), ofNat_eq third (by omega)]
      · intro _ isMark _
        exact absurd isMark isDigit
      · intro isMark _
        exact absurd isMark isDigit

theorem utf8_eq (text : String) :
    (text.toList.flatMap String.utf8EncodeChar).toByteArray = text.toUTF8 :=
  String.utf8Encode_toList

/-- A text in Base64 is its UTF-8 bytes. -/
theorem decode?_encodeText (text : String) :
    decode? (encodeText text) = some text.toUTF8.data.toList := by
  rw [encodeText, decode?_encode, ← utf8_eq, List.toList_data_toByteArray]

theorem decodeText?_encodeText (text : String) : decodeText? (encodeText text) = some text := by
  rw [decodeText?, encodeText, decode?_encode]
  change String.fromUTF8? _ = _
  rw [utf8_eq]
  exact dif_pos text.isValidUTF8

end Microbench.Base64
