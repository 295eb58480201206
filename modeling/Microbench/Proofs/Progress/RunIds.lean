import Microbench.Parameter.Set
import Microbench.Progress.Structured
import Microbench.Proofs.Text.Parts
import Microbench.Suite.Basic

/-!
# Classes in identifiers of runs

The class of a run is what stands before the last dot of the benchmark's qualified name. Structured
progress finds it in the run's identifier, in what precedes the mark before the parameters. A name
that ends like the mark begins lets the mark be found too early, but never before the last dot.
-/

namespace Microbench.Structured

/-- The class in the qualified name of a benchmark: what stands before the last dot. -/
def classOf (name : String) : String :=
  String.ofList (((Text.splitLast? '.' name.toList).map Prod.fst).getD [])

/-- The part of a run's identifier in which the class is looked for. -/
def nameIn (id : List Char) : List Char :=
  match Text.splitAtFirst? " | ".toList id with
  | some (name, _) => name
  | none => id

theorem splitRunId_of_some {id : String} {before after : List Char}
    (found : Text.splitLast? '.' (nameIn id.toList) = some (before, after)) :
    splitRunId id = (String.ofList before, String.ofList (id.toList.drop (before.length + 1))) := by
  rw [splitRunId]
  change (match Text.splitLast? '.' (nameIn id.toList) with
    | some (className, _) =>
      (String.ofList className, String.ofList (id.toList.drop (className.length + 1)))
    | none => ("", id)) = _
  rw [found]

theorem splitRunId_of_none {id : String}
    (absent : Text.splitLast? '.' (nameIn id.toList) = none) : splitRunId id = ("", id) := by
  rw [splitRunId]
  change (match Text.splitLast? '.' (nameIn id.toList) with
    | some (className, _) =>
      (String.ofList className, String.ofList (id.toList.drop (className.length + 1)))
    | none => ("", id)) = _
  rw [absent]

section RunId

variable (name : String) (parameters : ParameterSet)

theorem toList_runId : ∃ rest, (runId name parameters).toList = name.toList ++ rest := by
  rw [runId]
  split
  · exact ⟨[], by simp⟩
  · exact ⟨" | ".toList ++ parameters.text.toList, by simp⟩

/-- The part in which the class is looked for is the name, or what is left of it without an end
that has no dot in it, if the name has no mark in it. -/
theorem nameIn_runId :
    ∃ tail, name.toList = nameIn (runId name parameters).toList ++ tail ∧
      (¬ " | ".toList <:+: name.toList → '.' ∉ tail) := by
  rw [runId]
  split
  · rw [nameIn]
    cases found : Text.splitAtFirst? " | ".toList name.toList with
    | none => exact ⟨[], by simp, by simp⟩
    | some parts =>
        have occurs := Text.splitAtFirst?_eq_some found
        refine ⟨" | ".toList ++ parts.2, by simpa using occurs, ?_⟩
        intro unmarked
        exact absurd ⟨parts.1, parts.2, occurs.symm⟩ unmarked
  · rw [nameIn, String.toList_append, String.toList_append]
    rcases Text.splitAtFirst?_of_occurs " | ".toList name.toList parameters.text.toList with
      ⟨before, after, found, short⟩
    have occurs := Text.splitAtFirst?_eq_some found
    rw [found]
    have leading : before <+: name.toList := by
      apply List.prefix_of_prefix_length_le _ _ short
      · exact name.toList ++ " | ".toList ++ parameters.text.toList
      · rw [occurs, List.append_assoc]
        exact List.prefix_append _ _
      · rw [List.append_assoc]
        exact List.prefix_append _ _
    rcases leading with ⟨tail, whole⟩
    refine ⟨tail, whole.symm, ?_⟩
    -- Both the tail and the mark stand after what was found, so one begins with the other.
    have same : tail ++ (" | ".toList ++ parameters.text.toList) = " | ".toList ++ after := by
      rw [← whole, List.append_assoc, List.append_assoc, List.append_assoc] at occurs
      exact List.append_cancel_left occurs
    have tailLeads : tail <+: " | ".toList ++ after := ⟨_, same⟩
    have markLeads : " | ".toList <+: " | ".toList ++ after := List.prefix_append _ _
    intro unmarked dot
    rcases List.prefix_or_prefix_of_prefix tailLeads markLeads with inMark | inTail
    · have inside := inMark.subset dot
      revert inside
      decide
    · apply unmarked
      rw [← whole]
      exact inTail.isInfix.trans (List.suffix_append before tail).isInfix

/-- The class that is found is always the beginning of the name. -/
theorem splitRunId_class_prefix :
    (splitRunId (runId name parameters)).1.toList <+: name.toList := by
  rcases nameIn_runId name parameters with ⟨tail, whole, -⟩
  cases found : Text.splitLast? '.' (nameIn (runId name parameters).toList) with
  | none =>
      rw [splitRunId_of_none found]
      exact List.nil_prefix
  | some parts =>
      rw [splitRunId_of_some found, String.toList_ofList, whole, Text.splitLast?_eq_some found,
        List.append_assoc]
      exact List.prefix_append _ _

variable {name}

theorem splitRunId_class (unmarked : ¬ " | ".toList <:+: name.toList) :
    (splitRunId (runId name parameters)).1 = classOf name := by
  rcases nameIn_runId name parameters with ⟨tail, whole, noDot⟩
  have sameClass : Text.splitLast? '.' name.toList =
      (Text.splitLast? '.' (nameIn (runId name parameters).toList)).map fun parts =>
        (parts.1, parts.2 ++ tail) := by
    rw [whole, Text.splitLast?_append (noDot unmarked)]
  rw [classOf, sameClass]
  cases found : Text.splitLast? '.' (nameIn (runId name parameters).toList) with
  | none =>
      rw [splitRunId_of_none found]
      rfl
  | some parts =>
      rw [splitRunId_of_some found]
      rfl

/-- A name with a dot in it is put together again from the class and the rest. -/
theorem splitRunId_join (unmarked : ¬ " | ".toList <:+: name.toList) (dotted : '.' ∈ name.toList) :
    (splitRunId (runId name parameters)).1 ++ "." ++ (splitRunId (runId name parameters)).2 =
      runId name parameters := by
  rcases nameIn_runId name parameters with ⟨tail, whole, noDot⟩
  rcases toList_runId name parameters with ⟨rest, idChars⟩
  cases found : Text.splitLast? '.' (nameIn (runId name parameters).toList) with
  | none =>
      have absent : '.' ∉ nameIn (runId name parameters).toList := by
        intro inside
        rcases List.append_of_mem inside with ⟨earlier, later, shape⟩
        rcases Text.splitLast?_of_occurs '.' earlier later with ⟨before, after, occurs, -⟩
        rw [shape, occurs] at found
        cases found
      rw [whole, List.mem_append] at dotted
      rcases dotted with inName | inTail
      · exact absurd inName absent
      · exact absurd inTail (noDot unmarked)
  | some parts =>
      have shape := Text.splitLast?_eq_some found
      rw [splitRunId_of_some found, ← String.toList_inj]
      rw [whole, shape] at idChars
      simp [idChars]

end RunId

section Qualified

variable (suite : Suite) (benchmark : Benchmark)

theorem dot_mem_qualifiedName : '.' ∈ (suite.qualifiedName benchmark).toList := by
  simp [Suite.qualifiedName]

/-- The class of a benchmark begins with the name of its suite. -/
theorem suite_prefix_classOf :
    suite.name.toList <+: (classOf (suite.qualifiedName benchmark)).toList := by
  have chars : (suite.qualifiedName benchmark).toList =
      suite.name.toList ++ '.' :: benchmark.name.toList := by
    simp [Suite.qualifiedName]
  rcases Text.splitLast?_of_occurs '.' suite.name.toList benchmark.name.toList with
    ⟨before, after, found, leading⟩
  rw [classOf, chars, found]
  simpa using leading

theorem classOf_ne_empty (named : suite.name ≠ "") :
    classOf (suite.qualifiedName benchmark) ≠ "" := by
  intro empty
  have leading := suite_prefix_classOf suite benchmark
  rw [empty] at leading
  exact named (String.toList_eq_nil_iff.mp (List.prefix_nil.mp leading))

end Qualified

end Microbench.Structured
