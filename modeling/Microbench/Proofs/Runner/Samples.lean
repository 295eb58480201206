import Mathlib.Data.List.Basic
import Microbench.Proofs.Binary64.Characters
import Microbench.Proofs.Binary64.PlainText
import Microbench.Proofs.Text.Numerals
import Microbench.Proofs.Text.Parts
import Microbench.Runner.Samples

/-!
# Samples in files read back

The samples that one step leaves are what a later step reads: one after the other in the file of a
run, and behind the path of a run's descriptor in the file of all results. The count of invocations
reads back as well.

Texts of samples have neither commas nor colons nor white space in them, so nothing in them is
taken for a separator.
-/

namespace Microbench

namespace Binary64

theorem plain_ne_nil (datum : Binary64) : datum.plain ≠ [] := by
  rw [plain]
  split
  · simp
  · split
    · simp
    · rcases exists_head_text plainStyle (datum.shortest .up) with ⟨digit, rest, shape, -⟩
      simp [shape]

end Binary64

namespace Text

theorem isWhiteSpace_of_isPlainChar {char : Char} (isPlain : Binary64.IsPlainChar char) :
    isWhiteSpace char = false := by
  rcases isPlain with digit | other
  · exact isWhiteSpace_of_isDigit digit
  · simp only [List.mem_cons, List.not_mem_nil, or_false] at other
    rcases other with rfl | rfl | rfl | rfl | rfl | rfl | rfl <;> decide

end Text

namespace Binary64

theorem notMem_plain (datum : Binary64) {char : Char} (noDigit : char.isDigit = false)
    (other : char ∉ ['-', '.', 'i', 'n', 'f', 'N', 'a']) : char ∉ datum.plain := by
  intro member
  rcases isPlainChar_of_mem_plain member with digit | isOther
  · rw [noDigit] at digit
    cases digit
  · exact other isOther

theorem trim_plain (datum : Binary64) : Text.trim datum.plain = datum.plain := by
  apply Text.trim_of_solid
  · intro char first
    exact Text.isWhiteSpace_of_isPlainChar
      (isPlainChar_of_mem_plain (List.mem_of_mem_head? first))
  · intro char last
    exact Text.isWhiteSpace_of_isPlainChar
      (isPlainChar_of_mem_plain (List.mem_of_getLast? last))

end Binary64

namespace Samples

theorem toList_text (samples : List Binary64) :
    (text samples).toList = [',', ' '].intercalate (samples.map Binary64.plain) := by
  rw [text, String.toList_intercalate, List.map_map]
  congr 1
  apply List.map_congr_left
  intro sample _
  exact String.toList_ofList

/-- The text of samples of which there is one at least. -/
theorem toList_text_cons (sample : Binary64) (samples : List Binary64) :
    (text (sample :: samples)).toList =
      sample.plain ++ samples.flatMap fun sample => ',' :: ' ' :: sample.plain := by
  rw [toList_text]
  induction samples generalizing sample with
  | nil => simp
  | cons next samples ih =>
      have later := ih next
      rw [List.map_cons] at later
      rw [List.map_cons, List.map_cons, List.intercalate_cons_cons, later, List.flatMap_cons]
      simp

theorem isPlainChar_of_getLast? {samples : List Binary64} {char : Char}
    (last : (text samples).toList.getLast? = some char) : Binary64.IsPlainChar char := by
  cases samples with
  | nil => cases last
  | cons sample samples =>
      rw [toList_text_cons] at last
      induction samples generalizing sample with
      | nil =>
          rw [List.flatMap_nil, List.append_nil] at last
          exact Binary64.isPlainChar_of_mem_plain (List.mem_of_getLast? last)
      | cons next samples ih =>
          have parts : sample.plain ++ (next :: samples).flatMap (fun sample =>
              ',' :: ' ' :: sample.plain) = (sample.plain ++ [',', ' ']) ++
                (next.plain ++ samples.flatMap fun sample => ',' :: ' ' :: sample.plain) := by
            simp
          apply ih next
          rw [parts, List.getLast?_append_of_ne_nil] at last
          · exact last
          · exact List.append_ne_nil_of_left_ne_nil (Binary64.plain_ne_nil next) _

theorem isPlainChar_of_head? {samples : List Binary64} {char : Char}
    (first : (text samples).toList.head? = some char) : Binary64.IsPlainChar char := by
  cases samples with
  | nil => cases first
  | cons sample samples =>
      cases chars : sample.plain with
      | nil => exact absurd chars (Binary64.plain_ne_nil sample)
      | cons leading others =>
          rw [toList_text_cons, chars, List.cons_append, List.head?_cons] at first
          apply Binary64.isPlainChar_of_mem_plain
          rw [chars]
          exact List.mem_of_mem_head? first

theorem toList_text_ne_nil {samples : List Binary64} (some : samples ≠ []) :
    (text samples).toList ≠ [] := by
  cases samples with
  | nil => exact absurd rfl some
  | cons sample samples =>
      rw [toList_text_cons]
      exact List.append_ne_nil_of_left_ne_nil (Binary64.plain_ne_nil sample) _

theorem notMem_text {samples : List Binary64} {char : Char} (noPlain : ¬ Binary64.IsPlainChar char)
    (noSeparator : char ∉ [',', ' ']) : char ∉ (text samples).toList := by
  intro member
  rw [toList_text, Text.mem_intercalate_iff] at member
  rcases member with ⟨part, inParts, inPart⟩ | ⟨between, -⟩
  · rcases List.mem_map.mp inParts with ⟨sample, -, rfl⟩
    exact noPlain (Binary64.isPlainChar_of_mem_plain inPart)
  · exact noSeparator between

theorem splitAll_text (sample : Binary64) (samples : List Binary64) :
    Text.splitAll ',' (text (sample :: samples)).toList =
      sample.plain :: samples.map fun sample => ' ' :: sample.plain := by
  have noComma (sample : Binary64) : ',' ∉ sample.plain :=
    sample.notMem_plain (by decide) (by decide)
  rw [toList_text_cons]
  induction samples generalizing sample with
  | nil =>
      rw [List.flatMap_nil, List.append_nil, Text.splitAll_of_notMem (noComma sample)]
      rfl
  | cons next samples ih =>
      rw [List.flatMap_cons, List.cons_append, List.cons_append,
        Text.splitAll_append (noComma sample), Text.splitAll, if_neg (by decide), ih next]
      rfl

theorem readPiece_plain {sample : Binary64} (reads : Binary64.read? sample.plain = some sample) :
    readPiece sample.plain = .ok sample := by
  rw [readPiece, sample.trim_plain, reads]

theorem readPiece_blank {sample : Binary64} (reads : Binary64.read? sample.plain = some sample) :
    readPiece (' ' :: sample.plain) = .ok sample := by
  rw [readPiece, Text.trim_cons_blank (by decide), sample.trim_plain, reads]

/-- The text of samples is read as these samples. -/
theorem read_text {samples : List Binary64} (some : samples ≠ [])
    (reads : ∀ sample ∈ samples, Binary64.read? sample.plain = .some sample) :
    read (text samples).toList = .ok samples := by
  have trimmed : Text.trim (text samples).toList = (text samples).toList := by
    apply Text.trim_of_solid
    · intro char first
      exact Text.isWhiteSpace_of_isPlainChar (isPlainChar_of_head? first)
    · intro char last
      exact Text.isWhiteSpace_of_isPlainChar (isPlainChar_of_getLast? last)
  have solid : (text samples).toList.isEmpty = false := by
    simpa using toList_text_ne_nil some
  cases samples with
  | nil => exact absurd rfl some
  | cons sample samples =>
      have others : readPieces (samples.map fun sample => ' ' :: sample.plain) = .ok samples := by
        have later : ∀ sample ∈ samples, Binary64.read? sample.plain = .some sample := by
          intro other member
          exact reads other (by simp [member])
        clear reads trimmed solid some
        induction samples with
        | nil => rfl
        | cons next samples ih =>
            rw [List.map_cons, readPieces, readPiece_blank (later next (by simp)),
              ih fun other member => later other (by simp [member])]
            rfl
      rw [read, trimmed, solid, splitAll_text, readPieces, readPiece_plain (reads sample (by simp)),
        others]
      rfl

end Samples

namespace ResultLine

/-- The line of a run's samples is read as the path and the samples, even if the path has a colon
in it. -/
theorem read_append (path : String) (samples : List Binary64) :
    read (path ++ ": " ++ Samples.text samples).toList =
      .ok ⟨path, (Samples.text samples).toList⟩ := by
  have noColon : ':' ∉ (Samples.text samples).toList := by
    apply Samples.notMem_text
    · rintro (digit | other)
      · cases digit
      · simp at other
    · decide
  have absent : ':' ∉ ' ' :: (Samples.text samples).toList := by simp [noColon]
  have found := Text.splitAtLast?_append path.toList
    (@Text.splitAtLast?_mark ':' [' '] (Samples.text samples).toList absent)
  have parts : (path ++ ": " ++ Samples.text samples).toList =
      path.toList ++ (':' :: [' '] ++ (Samples.text samples).toList) := by
    simp
  rw [List.append_nil] at found
  rw [read, parts, show ": ".toList = [':', ' '] from rfl, found]
  simp

end ResultLine

namespace Samples

theorem isLine_result {path : String} (noFeed : '\n' ∉ path.toList) {samples : List Binary64}
    (some : samples ≠ []) : Text.IsLine (path ++ ": " ++ text samples).toList := by
  constructor
  · have inText : '\n' ∉ (text samples).toList := by
      apply notMem_text
      · rintro (digit | other)
        · cases digit
        · simp at other
      · decide
    simp [noFeed, inText]
  · rw [String.toList_append, List.getLast?_append_of_ne_nil _ (toList_text_ne_nil some)]
    intro last
    rcases isPlainChar_of_getLast? last with digit | other
    · cases digit
    · simp at other

end Samples

theorem readCycles_toString (count : UInt64) :
    readCycles (toString count.toNat) = .ok count := by
  have solid (char : Char) (member : char ∈ Decimal.digits count.toNat) :
      Text.isWhiteSpace char = false :=
    Text.isWhiteSpace_of_isDigit (Decimal.isDigit_of_mem_digits member)
  have trimmed : Text.trim (Decimal.digits count.toNat) = Decimal.digits count.toNat := by
    apply Text.trim_of_solid
    · intro char first
      exact solid char (List.mem_of_mem_head? first)
    · intro char last
      exact solid char (List.mem_of_getLast? last)
  have someDigits : (Decimal.digits count.toNat).isEmpty = false := by
    simpa using Decimal.digits_ne_nil count.toNat
  have noNull : Decimal.digits count.toNat ≠ nullText.toList := by
    intro equal
    have letter : 'n' ∈ Decimal.digits count.toNat := by
      rw [equal]
      decide
    cases Decimal.isDigit_of_mem_digits letter
  rw [readCycles, Decimal.toList_toString, trimmed, someDigits]
  simp [noNull, Numeral.readUInt64?_digits]

end Microbench
