import Microbench.Proofs.Report.SharedPackage

/-!
# What is left of a name

As long as no segment of a name is empty, its short form is told from the short forms of all other
names of the report. The benchmark, which is the last segment, is kept too, except in a name that is
nothing but a package, and one with which all other names begin.
-/

namespace Microbench.Report

open SharedPackage

variable {shared : SharedPackage} {names rest : List String} {first name : String}

namespace Segments

theorem ofName_inj {name other : String} (same : ofName name = ofName other) : name = other := by
  rw [← String.toList_inj, ← Text.intercalate_splitAll '.' name.toList,
    ← Text.intercalate_splitAll '.' other.toList]
  exact congrArg _ same

end Segments

namespace SharedPackage

theorem ofName_eq (begins : shared.segments <+: Segments.ofName name) :
    Segments.ofName name =
      shared.segments ++ (Segments.ofName name).drop shared.segments.length :=
  (List.prefix_iff_eq_append.mp begins).symm

/-- Nothing else is left out. -/
theorem shortSegments_eq (begins : shared.segments <+: Segments.ofName name)
    (solid : [] ∉ Segments.ofName name) :
    shared.shortSegments name =
      shared.shortened ++ (Segments.ofName name).drop shared.segments.length := by
  have none : [] ∉ shared.shortened ++ (Segments.ofName name).drop shared.segments.length := by
    intro member
    rcases List.mem_append.mp member with short | own
    · rcases exists_of_mem_shortened short with ⟨whole, inShared, empty⟩
      have empty : whole = [] := by simpa using empty.symm
      exact solid (empty ▸ begins.subset inShared)
    · exact solid (List.mem_of_mem_drop own)
  rw [shortSegments, List.filter_eq_self]
  intro segment member
  simpa using ne_of_mem_of_not_mem member none

theorem ofName_denseName (begins : shared.segments <+: Segments.ofName name)
    (some : shared.shortSegments name ≠ []) :
    Segments.ofName (shared.denseName name) = shared.shortSegments name := by
  rw [Segments.ofName, toList_denseName,
    Text.splitAll_intercalate some (dot_notMem_shortSegments begins)]

end SharedPackage

/-- Different names have different short forms. -/
theorem shortForms_inj (solid : ∀ name ∈ names, [] ∉ Segments.ofName name) :
    ∀ pair ∈ shortForms names, ∀ other ∈ shortForms names, pair.2 = other.2 → pair.1 = other.1 := by
  rintro ⟨name, short⟩ member ⟨other, otherShort⟩ otherMember same
  rw [mem_shortForms_iff] at member otherMember
  rcases member with ⟨inNames, rfl⟩
  rcases otherMember with ⟨otherInNames, rfl⟩
  have begins := segments_prefix_ofName inNames
  have otherBegins := segments_prefix_ofName otherInNames
  rw [denseName_eq_iff begins otherBegins, shortSegments_eq begins (solid name inNames),
    shortSegments_eq otherBegins (solid other otherInNames), List.append_cancel_left_eq] at same
  apply Segments.ofName_inj
  rw [ofName_eq begins, ofName_eq otherBegins, same]

/-- A short form that looks like the beginning of another name, under a package that is shrunk. -/
theorem Demonstration.shortForms_inj_shrunk :
    (∀ name ∈ ["org.bench.Suite.a", "org", "org.o.Suite.a"], [] ∉ Segments.ofName name) ∧
    ∀ pair ∈ shortForms ["org.bench.Suite.a", "org", "org.o.Suite.a"],
      ∀ other ∈ shortForms ["org.bench.Suite.a", "org", "org.o.Suite.a"],
        pair.2 = other.2 → pair.1 = other.1 := by
  have solid : ∀ name ∈ ["org.bench.Suite.a", "org", "org.o.Suite.a"],
      [] ∉ Segments.ofName name := by
    decide +kernel
  exact ⟨solid, shortForms_inj solid⟩

/-- A short form with the benchmark in it. -/
structure KeepsBenchmark (name short : String) : Prop where
  solid : short ≠ ""
  benchmark : (Segments.ofName short).getLast? = (Segments.ofName name).getLast?
  /-- Only lower-case segments in front are dropped or shrunk. -/
  package : ∃ package rest, Segments.ofName name = package ++ rest ∧
    (∀ segment ∈ package, Text.isLowerCase segment = true) ∧
    (Segments.ofName short = rest ∨
      Segments.ofName short = (package.map fun segment => segment.take 1) ++ rest)

theorem KeepsBenchmark.of_parts {short : String} {package own : Segments}
    (solid : [] ∉ Segments.ofName name) (whole : Segments.ofName name = package ++ own)
    (some : own ≠ []) (lower : ∀ segment ∈ package, Text.isLowerCase segment = true)
    (parts : Segments.ofName short = own ∨
      Segments.ofName short = (package.map fun segment => segment.take 1) ++ own) :
    KeepsBenchmark name short := by
  have benchmark : (Segments.ofName short).getLast? = (Segments.ofName name).getLast? := by
    rw [whole, List.getLast?_append_of_ne_nil _ some]
    rcases parts with dropped | shrunk
    · rw [dropped]
    · rw [shrunk, List.getLast?_append_of_ne_nil _ some]
  refine ⟨?_, benchmark, package, own, whole, lower, parts⟩
  rintro rfl
  exact solid (List.mem_of_getLast? benchmark.symm)

theorem keepsBenchmark_of_ne (member : name ∈ names) (solid : [] ∉ Segments.ofName name)
    (more : (ofNames names).segments ≠ Segments.ofName name) :
    KeepsBenchmark name ((ofNames names).denseName name) := by
  have begins := segments_prefix_ofName member
  have whole := ofName_eq begins
  have shape := shortSegments_eq begins solid
  generalize (Segments.ofName name).drop (ofNames names).segments.length = own at whole shape
  have some : own ≠ [] := by
    rintro rfl
    rw [List.append_nil] at whole
    exact more whole.symm
  apply KeepsBenchmark.of_parts solid whole some
  · exact (Segments.prefix_leading_iff.mp (segments_prefix_ofPackage member)).2
  · rw [ofName_denseName begins (by simp [shape, some]), shape, shortened]
    split
    · exact Or.inr rfl
    · exact Or.inl rfl

theorem take_one_eq_iff {segment : List Char} (some : segment ≠ []) :
    segment.take 1 = segment ↔ ∃ char, segment = [char] := by
  cases segment with
  | nil => exact absurd rfl some
  | cons char rest => simp [eq_comm]

/-- What becomes of a name that is nothing but what all names share. -/
theorem keepsBenchmark_iff_of_eq (member : name ∈ names) (solid : [] ∉ Segments.ofName name)
    (all : (ofNames names).segments = Segments.ofName name) :
    KeepsBenchmark name ((ofNames names).denseName name) ↔
      (ofNames names).isCut = true ∧ ∃ char, (Segments.ofName name).getLast? = some [char] := by
  have begins := segments_prefix_ofName member
  have shape := shortSegments_eq begins solid
  rw [all, List.drop_length, List.append_nil, shortened, all] at shape
  cases cut : (ofNames names).isCut with
  | false =>
      have empty : (ofNames names).denseName name = "" := by
        rw [← String.toList_inj, toList_denseName, shape, cut]
        rfl
      rw [empty]
      simp only [Bool.false_eq_true, false_and, iff_false]
      intro keeps
      exact keeps.solid rfl
  | true =>
      rcases List.eq_nil_or_concat' (Segments.ofName name) with none | ⟨front, last, parts⟩
      · exact absurd none (Text.splitAll_ne_nil _ _)
      · rw [cut, if_pos rfl, parts, List.map_append, List.map_singleton] at shape
        have short : Segments.ofName ((ofNames names).denseName name) =
            (front.map fun segment => segment.take 1) ++ [last.take 1] := by
          rw [ofName_denseName begins (by simp [shape]), shape]
        have some : last ≠ [] := by
          rintro rfl
          exact solid (by simp [parts])
        rw [parts, List.getLast?_concat]
        simp only [Option.some.injEq, true_and]
        constructor
        · intro keeps
          have benchmark := keeps.benchmark
          rw [short, parts, List.getLast?_concat, List.getLast?_concat,
            Option.some.injEq] at benchmark
          exact (take_one_eq_iff some).mp benchmark
        · intro single
          have lower := (Segments.prefix_leading_iff.mp (segments_prefix_ofPackage member)).2
          rw [all, parts] at lower
          apply KeepsBenchmark.of_parts solid parts (by simp)
          · intro segment inFront
            exact lower segment (List.mem_append_left _ inFront)
          · rw [short, (take_one_eq_iff some).mpr single]
            exact Or.inr rfl

/-- A name loses its benchmark exactly if all names begin with the whole of it, in lower case,
unless what they share is shrunk and the benchmark is a single character. -/
theorem keepsBenchmark_iff (solid : ∀ name ∈ first :: rest, [] ∉ Segments.ofName name) :
    ∀ pair ∈ shortForms (first :: rest), KeepsBenchmark pair.1 pair.2 ↔
      ((∀ other ∈ first :: rest, Segments.ofName pair.1 <+: Segments.ofPackage other) →
        ¬ IsOuter (first :: rest) first ∧
          ∃ char, (Segments.ofName pair.1).getLast? = some [char]) := by
  rintro ⟨name, short⟩ member
  rw [mem_shortForms_iff] at member
  rcases member with ⟨inNames, rfl⟩
  have begins := segments_prefix_ofName inNames
  by_cases all : (ofNames (first :: rest)).segments = Segments.ofName name
  · rw [keepsBenchmark_iff_of_eq inNames (solid name inNames) all, isCut_ofNames_iff]
    have leads : ∀ other ∈ first :: rest, Segments.ofName name <+: Segments.ofPackage other := by
      rw [← all]
      exact fun other => segments_prefix_ofPackage
    exact ⟨fun keeps _ => keeps, fun keeps => keeps leads⟩
  · have follows : ¬ ∀ other ∈ first :: rest,
        Segments.ofName name <+: Segments.ofPackage other := by
      intro leads
      exact all (Segments.eq_of_prefixes begins ((prefix_ofNames_iff (by simp)).mpr leads))
    simp only [follows, false_implies, iff_true]
    exact keepsBenchmark_of_ne inNames (solid name inNames) all

/-- A benchmark beside one with which its name begins. -/
theorem Demonstration.keepsBenchmark_iff_nested :
    (∀ name ∈ ["demo.sort.quick", "demo.sort"], [] ∉ Segments.ofName name) ∧
    KeepsBenchmark "demo.sort.quick" "d.s.quick" ∧ ¬ KeepsBenchmark "demo.sort" "d.s" := by
  have solid : ∀ name ∈ ["demo.sort.quick", "demo.sort"], [] ∉ Segments.ofName name := by
    decide +kernel
  refine ⟨solid, ?_, ?_⟩
  · apply (keepsBenchmark_iff solid ("demo.sort.quick", "d.s.quick") (by decide +kernel)).mpr
    intro leads
    exact absurd (leads "demo.sort" (by simp)) (by decide +kernel)
  · intro keeps
    have short := (keepsBenchmark_iff solid ("demo.sort", "d.s") (by decide +kernel)).mp keeps
      (by decide +kernel)
    rcases short with ⟨-, char, single⟩
    have last : (Segments.ofName "demo.sort").getLast? = some ['s', 'o', 'r', 't'] := by
      decide +kernel
    rw [last] at single
    simp at single

/-- A single name in lower case has nothing left. -/
theorem Demonstration.not_keepsBenchmark_bare :
    [] ∉ Segments.ofName "demo.strings.push" ∧
    ("demo.strings.push", "") ∈ shortForms ["demo.strings.push"] ∧
    ¬ KeepsBenchmark "demo.strings.push" "" := by
  refine ⟨by decide +kernel, by decide +kernel, ?_⟩
  intro keeps
  exact keeps.solid rfl

end Microbench.Report
