import Mathlib.Data.List.Basic
import Microbench.Proofs.Text.Parts
import Microbench.Report.DenseNames

/-!
# What the names of a report share

The package of a name is the run of lower-case segments in front of it. What a report drops or
shrinks is the longest beginning that the packages of all names have, in whatever order the names
are listed. Which of both happens depends on the name that is listed first: its segments are dropped
if they are its whole package. So names keep their short forms in every order unless for some of
them, but not for all, the package is what all names share.
-/

namespace Microbench.Report

namespace Segments

variable {beginning shared segments : Segments}

theorem prefix_leading_iff :
    beginning <+: leading segments ↔
      beginning <+: segments ∧ ∀ segment ∈ beginning, Text.isLowerCase segment = true := by
  induction beginning generalizing segments with
  | nil => simp
  | cons first beginning ih =>
      cases segments with
      | nil => simp [leading]
      | cons segment segments =>
          by_cases isLower : Text.isLowerCase segment = true
          · rw [leading, List.takeWhile_cons_of_pos isLower, ← leading]
            simp only [List.cons_prefix_cons, ih, List.forall_mem_cons]
            constructor
            · rintro ⟨rfl, begins, lower⟩
              exact ⟨⟨rfl, begins⟩, isLower, lower⟩
            · rintro ⟨⟨rfl, begins⟩, -, lower⟩
              exact ⟨rfl, begins, lower⟩
          · rw [leading, List.takeWhile_cons_of_neg isLower]
            simp only [List.prefix_nil, reduceCtorEq, List.cons_prefix_cons, List.forall_mem_cons,
              false_iff]
            rintro ⟨⟨rfl, -⟩, lower, -⟩
            exact isLower lower

theorem prefix_common_iff :
    beginning <+: common shared segments ↔
      beginning <+: shared ∧ beginning <+: leading segments := by
  induction beginning generalizing shared segments with
  | nil => simp
  | cons first beginning ih =>
      cases shared with
      | nil => simp [common]
      | cons own shared =>
          cases segments with
          | nil => simp [common, leading]
          | cons segment segments =>
              by_cases goesOn : own = segment ∧ Text.isLowerCase segment = true
              · rcases goesOn with ⟨rfl, isLower⟩
                rw [common, if_pos ⟨rfl, isLower⟩, leading, List.takeWhile_cons_of_pos isLower,
                  ← leading, List.cons_prefix_cons, List.cons_prefix_cons, List.cons_prefix_cons,
                  ih, and_and_left]
              · rw [common, if_neg goesOn, leading, List.takeWhile_cons]
                simp only [List.prefix_nil, reduceCtorEq, List.cons_prefix_cons, false_iff]
                rintro ⟨⟨rfl, -⟩, begins⟩
                split at begins
                · rename_i isLower
                  rw [List.cons_prefix_cons] at begins
                  exact goesOn ⟨begins.1, isLower⟩
                · simp at begins

theorem eq_of_prefixes (begins : beginning <+: segments) (back : segments <+: beginning) :
    beginning = segments :=
  begins.eq_of_length_le back.length_le

/-- The segments that a name may share. -/
def ofPackage (name : String) : Segments := leading (ofName name)

theorem ofPackage_prefix (name : String) : ofPackage name <+: ofName name :=
  List.takeWhile_prefix _

end Segments

namespace SharedPackage

variable {shared : SharedPackage} {beginning : Segments} {names order rest : List String}
  {first name : String}

theorem prefix_meet_iff :
    beginning <+: (shared.meet name).segments ↔
      beginning <+: shared.segments ∧ beginning <+: Segments.ofPackage name :=
  Segments.prefix_common_iff

theorem isCut_meet :
    (shared.meet name).isCut = true ↔
      shared.isCut = true ∨ ¬ shared.segments <+: Segments.ofPackage name := by
  have begins : (shared.meet name).segments <+: shared.segments :=
    (prefix_meet_iff.mp List.prefix_rfl).1
  have sameLength : (shared.meet name).segments.length = shared.segments.length ↔
      shared.segments <+: Segments.ofPackage name := by
    constructor
    · intro same
      rw [← begins.eq_of_length same]
      exact (prefix_meet_iff.mp List.prefix_rfl).2
    · intro own
      exact Nat.le_antisymm begins.length_le
        (prefix_meet_iff.mpr ⟨List.prefix_rfl, own⟩).length_le
  rw [← sameLength]
  simp [meet]

theorem prefix_foldl_meet_iff :
    beginning <+: (names.foldl meet shared).segments ↔
      beginning <+: shared.segments ∧ ∀ name ∈ names, beginning <+: Segments.ofPackage name := by
  induction names generalizing shared with
  | nil => simp
  | cons name names ih =>
      rw [List.foldl_cons, ih, prefix_meet_iff, List.forall_mem_cons, and_assoc]

/-- What is shared is cut as soon as some name does not begin with all of it. -/
theorem isCut_foldl_meet :
    (names.foldl meet shared).isCut = true ↔
      shared.isCut = true ∨ ∃ name ∈ names, ¬ shared.segments <+: Segments.ofPackage name := by
  induction names generalizing shared with
  | nil => simp
  | cons name names ih =>
      rw [List.foldl_cons, ih, isCut_meet, or_assoc, List.exists_mem_cons_iff]
      apply or_congr_right
      by_cases own : shared.segments <+: Segments.ofPackage name
      · have same : (shared.meet name).segments = shared.segments :=
          Segments.eq_of_prefixes (prefix_meet_iff.mp List.prefix_rfl).1
            (prefix_meet_iff.mpr ⟨List.prefix_rfl, own⟩)
        rw [same]
      · simp [own]

theorem prefix_ofNames_iff (some : names ≠ []) :
    beginning <+: (ofNames names).segments ↔
      ∀ name ∈ names, beginning <+: Segments.ofPackage name := by
  cases names with
  | nil => exact absurd rfl some
  | cons first rest =>
      rw [ofNames, prefix_foldl_meet_iff, List.forall_mem_cons]
      rfl

theorem segments_prefix_ofPackage (member : name ∈ names) :
    (ofNames names).segments <+: Segments.ofPackage name :=
  (prefix_ofNames_iff (List.ne_nil_of_mem member)).mp List.prefix_rfl name member

theorem segments_prefix_ofName (member : name ∈ names) :
    (ofNames names).segments <+: Segments.ofName name :=
  (segments_prefix_ofPackage member).trans (Segments.ofPackage_prefix name)

theorem segments_ofNames_perm (same : order.Perm names) :
    (ofNames order).segments = (ofNames names).segments := by
  by_cases none : names = []
  · rw [none, List.perm_nil] at same
    rw [none, same]
  · have orderSome : order ≠ [] := by
      rintro rfl
      exact none same.nil_eq.symm
    apply Segments.eq_of_prefixes
    · simp only [prefix_ofNames_iff none, ← same.mem_iff]
      exact fun name => segments_prefix_ofPackage
    · simp only [prefix_ofNames_iff orderSome, same.mem_iff]
      exact fun name => segments_prefix_ofPackage

/-- The package of a name is what all names share. -/
def IsOuter (names : List String) (name : String) : Prop :=
  ∀ other ∈ names, Segments.ofPackage name <+: Segments.ofPackage other

instance : Decidable (IsOuter names name) :=
  inferInstanceAs (Decidable
    (∀ other ∈ names, Segments.ofPackage name <+: Segments.ofPackage other))

theorem isOuter_congr (same : order.Perm names) : IsOuter order name ↔ IsOuter names name := by
  simp only [IsOuter, same.mem_iff]

theorem IsOuter.segments_eq (outer : IsOuter names name) (member : name ∈ names) :
    (ofNames names).segments = Segments.ofPackage name :=
  Segments.eq_of_prefixes (segments_prefix_ofPackage member)
    ((prefix_ofNames_iff (List.ne_nil_of_mem member)).mpr outer)

theorem isCut_ofNames_iff :
    (ofNames (first :: rest)).isCut = true ↔ ¬ IsOuter (first :: rest) first := by
  rw [ofNames, isCut_foldl_meet, IsOuter, List.forall_mem_cons]
  simp [Segments.ofPackage]

/-- The segments of the short form of a name. -/
def shortSegments (shared : SharedPackage) (name : String) : Segments :=
  (shared.shortened ++ (Segments.ofName name).drop shared.segments.length).filter
    fun segment => !segment.isEmpty

theorem toList_denseName (shared : SharedPackage) (name : String) :
    (shared.denseName name).toList = ['.'].intercalate (shared.shortSegments name) := by
  simp [denseName, shortSegments]

theorem exists_of_mem_shortened {segment : List Char} (member : segment ∈ shared.shortened) :
    ∃ whole ∈ shared.segments, segment = whole.take 1 := by
  rw [shortened] at member
  split at member
  · rcases List.mem_map.mp member with ⟨whole, inShared, rfl⟩
    exact ⟨whole, inShared, rfl⟩
  · cases member

/-- The segments of a short form are beginnings of those of the name. -/
theorem exists_prefix_of_mem_shortSegments {segment : List Char}
    (begins : shared.segments <+: Segments.ofName name)
    (member : segment ∈ shared.shortSegments name) :
    ∃ whole ∈ Segments.ofName name, segment <+: whole := by
  rw [shortSegments, List.mem_filter, List.mem_append] at member
  rcases member with ⟨short | own, -⟩
  · rcases exists_of_mem_shortened short with ⟨whole, inShared, rfl⟩
    exact ⟨whole, begins.subset inShared, List.take_prefix 1 whole⟩
  · exact ⟨segment, List.mem_of_mem_drop own, List.prefix_rfl⟩

theorem dot_notMem_shortSegments (begins : shared.segments <+: Segments.ofName name) :
    ∀ segment ∈ shared.shortSegments name, '.' ∉ segment := by
  intro segment member dot
  rcases exists_prefix_of_mem_shortSegments begins member with ⟨whole, inName, leading⟩
  exact Text.notMem_of_mem_splitAll inName (leading.subset dot)

/-- A short form has nothing in it that its name does not have, but dots between segments. -/
theorem mem_of_mem_denseName {char : Char}
    (begins : shared.segments <+: Segments.ofName name)
    (member : char ∈ (shared.denseName name).toList) : char ∈ name.toList ∨ char = '.' := by
  rw [toList_denseName, Text.mem_intercalate_iff] at member
  rcases member with ⟨segment, inShort, inSegment⟩ | ⟨dot, -⟩
  · rcases exists_prefix_of_mem_shortSegments begins inShort with ⟨whole, inName, leading⟩
    exact Or.inl (Text.mem_of_mem_splitAll inName (leading.subset inSegment))
  · exact Or.inr (by simpa using dot)

/-- Short forms are told apart by their segments. -/
theorem denseName_eq_iff {other : SharedPackage} {otherName : String}
    (begins : shared.segments <+: Segments.ofName name)
    (otherBegins : other.segments <+: Segments.ofName otherName) :
    shared.denseName name = other.denseName otherName ↔
      shared.shortSegments name = other.shortSegments otherName := by
  have solid (shared : SharedPackage) (name : String) : [] ∉ shared.shortSegments name := by
    simp [shortSegments]
  rw [← String.toList_inj, toList_denseName, toList_denseName]
  constructor
  · exact Text.eq_of_intercalate_eq (dot_notMem_shortSegments begins) (solid shared name)
      (dot_notMem_shortSegments otherBegins) (solid other otherName)
  · intro same
    rw [same]

theorem shortSegments_eq_iff {other : SharedPackage} (same : shared.segments = other.segments) :
    shared.shortSegments name = other.shortSegments name ↔
      shared.isCut = other.isCut ∨ ∀ segment ∈ other.segments, segment = [] := by
  have blank : ((other.segments.map fun segment => segment.take 1).filter
      fun segment => !segment.isEmpty) = [] ↔ ∀ segment ∈ other.segments, segment = [] := by
    simp [List.filter_eq_nil_iff]
  rw [shortSegments, shortSegments, same, List.filter_append, List.filter_append,
    List.append_cancel_right_eq, shortened, shortened, same, ← blank]
  cases shared.isCut with
  | false => cases other.isCut <;> simp [eq_comm (a := ([] : Segments))]
  | true => cases other.isCut <;> simp

/-- Where the order of the names makes no difference. -/
theorem isCut_perm (same : order.Perm names)
    (settled : ∀ outer ∈ names, IsOuter names outer →
      (∀ name ∈ names, IsOuter names name) ∨ ∀ segment ∈ Segments.ofPackage outer, segment = []) :
    (ofNames order).isCut = (ofNames names).isCut ∨
      ∀ segment ∈ (ofNames names).segments, segment = [] := by
  cases names with
  | nil =>
      rw [List.perm_nil] at same
      simp [same]
  | cons first rest =>
      cases order with
      | nil => simp at same
      | cons orderFirst orderRest =>
          have inNames : orderFirst ∈ first :: rest := same.mem_iff.mp (by simp)
          have cut : (ofNames (orderFirst :: orderRest)).isCut = true ↔
              ¬ IsOuter (first :: rest) orderFirst := by
            rw [isCut_ofNames_iff, isOuter_congr same]
          rw [Bool.eq_iff_iff, cut, isCut_ofNames_iff, not_iff_not]
          -- A name that comes first in one of the orders is outer, or else both orders cut.
          by_cases firstOuter : IsOuter (first :: rest) first
          · rw [firstOuter.segments_eq (by simp)]
            rcases settled first (by simp) firstOuter with all | blank
            · exact Or.inl (iff_of_true (all orderFirst inNames) firstOuter)
            · exact Or.inr blank
          · by_cases orderOuter : IsOuter (first :: rest) orderFirst
            · rw [orderOuter.segments_eq inNames]
              rcases settled orderFirst inNames orderOuter with all | blank
              · exact absurd (all first (by simp)) firstOuter
              · exact Or.inr blank
            · exact Or.inl (iff_of_false orderOuter firstOuter)

end SharedPackage

open SharedPackage

variable {names : List String}

/-- The names of a report with their short forms. -/
def shortForms (names : List String) : List (String × String) := names.zip (denseNames names)

theorem mem_shortForms_iff {name short : String} :
    (name, short) ∈ shortForms names ↔ name ∈ names ∧ short = (ofNames names).denseName name := by
  rw [shortForms, denseNames, ← List.map_prod_left_eq_zip, List.mem_map]
  constructor
  · rintro ⟨own, member, equal⟩
    cases equal
    exact ⟨member, rfl⟩
  · rintro ⟨member, rfl⟩
    exact ⟨name, member, rfl⟩

/-- Names have the same short forms in every order, unless for some of them, but not for all, the
package is what all names share. -/
theorem shortForms_perm_iff (names : List String) :
    (∀ order : List String, order.Perm names →
        ∀ pair, pair ∈ shortForms order ↔ pair ∈ shortForms names) ↔
      ∀ outer ∈ names, IsOuter names outer →
        (∀ name ∈ names, IsOuter names name) ∨
          ∀ segment ∈ Segments.ofPackage outer, segment = [] := by
  constructor
  · intro steady outer outerMember isOuter
    by_cases all : ∀ name ∈ names, IsOuter names name
    · exact Or.inl all
    · right
      simp only [not_forall] at all
      rcases all with ⟨other, otherMember, notOuter⟩
      -- The outer name is dropped to its rest in one order, and shrunk in the other one.
      have front {first : String} (member : first ∈ names) :
          (first :: names.erase first).Perm names := (List.perm_cons_erase member).symm
      have sameShort : (outer, (ofNames (outer :: names.erase outer)).denseName outer) ∈
          shortForms (other :: names.erase other) := by
        rw [steady _ (front otherMember), ← steady _ (front outerMember), mem_shortForms_iff]
        exact ⟨by simp, rfl⟩
      have sameSegments : (ofNames (outer :: names.erase outer)).segments =
          (ofNames (other :: names.erase other)).segments :=
        segments_ofNames_perm ((front outerMember).trans (front otherMember).symm)
      rw [mem_shortForms_iff] at sameShort
      rcases sameShort with ⟨inOther, sameShort⟩
      rw [denseName_eq_iff (segments_prefix_ofName (by simp)) (segments_prefix_ofName inOther),
        shortSegments_eq_iff sameSegments] at sameShort
      rcases sameShort with sameCut | blank
      · rw [Bool.eq_iff_iff, isCut_ofNames_iff, isCut_ofNames_iff,
          isOuter_congr (front outerMember), isOuter_congr (front otherMember)] at sameCut
        exact absurd isOuter (sameCut.mpr notOuter)
      · rwa [segments_ofNames_perm (front otherMember), isOuter.segments_eq outerMember] at blank
  · rintro settled order same ⟨name, short⟩
    rw [mem_shortForms_iff, mem_shortForms_iff, same.mem_iff]
    apply and_congr_right
    intro member
    have sameShort : (ofNames order).denseName name = (ofNames names).denseName name := by
      rw [denseName_eq_iff (segments_prefix_ofName (same.mem_iff.mpr member))
        (segments_prefix_ofName member), shortSegments_eq_iff (segments_ofNames_perm same)]
      exact isCut_perm same settled
    rw [sameShort]

/-- With the name of the shorter package in front, the package is dropped and not shrunk. -/
theorem Demonstration.not_shortForms_perm_nested :
    ¬ ∀ order : List String, order.Perm ["org.bench.Suite.a", "org.Other.b"] →
      ∀ pair, pair ∈ shortForms order ↔
        pair ∈ shortForms ["org.bench.Suite.a", "org.Other.b"] := by
  intro steady
  have dropped : ("org.Other.b", "Other.b") ∈ shortForms ["org.Other.b", "org.bench.Suite.a"] := by
    decide +kernel
  rw [steady _ (by decide)] at dropped
  revert dropped
  decide +kernel

end Microbench.Report
