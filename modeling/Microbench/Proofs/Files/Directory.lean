import Microbench.Proofs.Files.Frame

/-!
# Files of one directory

A name without a slash is the last part of its path in any directory. So the places of two files of
a directory differ in nothing but the names, and different names have different places.
-/

namespace Microbench

namespace Route

section Parts

variable {names parts : List String} {part : String} {route : Route}

theorem goOn_here (here : part = "" ∨ part = ".") :
    goOn names (part :: parts) = goOn names parts := by
  rw [goOn.eq_def]
  simp [here]

theorem goOn_out : goOn names (".." :: parts) = goOn names.tail parts := by
  rw [goOn.eq_def]
  simp

/-- A name that is not the last part is on the way, and the path ends as the others do. -/
theorem goOn_named (notHere : ¬ (part = "" ∨ part = ".")) (notOut : part ≠ "..")
    (more : parts ≠ []) (found : goOn names (part :: parts) = some route) :
    ∃ inner, goOn (part :: names) parts = some inner ∧ route.target = inner.target ∧
      route.endsInDirectory = inner.endsInDirectory := by
  rcases List.exists_cons_of_ne_nil more with ⟨next, others, rfl⟩
  rw [goOn.eq_def] at found
  simp only [Bool.or_eq_true, decide_eq_true_eq, if_neg notHere, if_neg notOut] at found
  split at found
  · cases found
  · rcases Option.map_eq_some_iff.mp found with ⟨inner, innerFound, rfl⟩
    exact ⟨inner, innerFound, rfl, rfl⟩

/-- A name that is the last part leads to the file of this name. -/
theorem goOn_last {file : String} (found : goOn names [file] = some route)
    (isFile : route.endsInDirectory = false) : route.target = place (file :: names) := by
  unfold goOn at found
  split at found
  · cases found
    cases isFile
  · split at found
    · cases found
      cases isFile
    · split at found
      · cases found
      · cases found
        rfl

end Parts

/-- Of a path to a file, the last part is the name of the file; the others say where it is. -/
theorem target_goOn (names parts : List String) :
    ∃ outer : String, ∀ file route, goOn names (parts ++ [file]) = some route →
      route.endsInDirectory = false → route.target = outer ++ file := by
  -- The parts before the last lead to `names`, and from there on the same for every file.
  induction parts generalizing names with
  | nil =>
      refine ⟨if names = [] then "" else place names ++ "/", ?_⟩
      intro file route found isFile
      rw [goOn_last found isFile, place_cons]
  | cons part parts ih =>
      by_cases here : part = "" ∨ part = "."
      · simpa [goOn_here here] using ih names
      · by_cases out : part = ".."
        · subst out
          simpa [goOn_out] using ih names.tail
        · rcases ih (part :: names) with ⟨outer, targets⟩
          refine ⟨outer, ?_⟩
          intro file route found isFile
          rcases goOn_named here out (by simp) found with ⟨inner, innerFound, target, ends⟩
          rw [target]
          exact targets file inner innerFound (ends ▸ isFile)

/-- A name without a slash follows the last slash of its path, if there is one. -/
theorem joinPath_of_notMem (directory : String) :
    (∀ file : String, '/' ∉ file.toList → joinPath directory file = file) ∨
      ∃ before : List Char, ∀ file : String, '/' ∉ file.toList →
        (joinPath directory file).toList = before ++ '/' :: file.toList := by
  have relative (file : String) (noSlash : '/' ∉ file.toList) : file.startsWith "/" = false := by
    rw [String.startsWith_string_eq_false_iff]
    intro leading
    exact noSlash (leading.subset (by simp))
  have slash : "/".toList = ['/'] := rfl
  by_cases here : directory = ""
  · left
    intro file noSlash
    simp [joinPath, here]
  · right
    by_cases ended : directory.endsWith "/" = true
    · have trailing : "/".toList <:+ directory.toList := by
        simpa [← String.endsWith_toSlice] using ended
      rcases trailing with ⟨before, chars⟩
      refine ⟨before, ?_⟩
      intro file noSlash
      simp [joinPath, relative file noSlash, here, ended, ← chars, slash]
    · refine ⟨directory.toList, ?_⟩
      intro file noSlash
      simp [joinPath, relative file noSlash, here, ended, slash]

theorem parts_joinPath (directory : String) :
    ∃ parts, ∀ file : String, '/' ∉ file.toList →
      (Text.splitAll '/' (joinPath directory file).toList).map String.ofList = parts ++ [file] := by
  rcases joinPath_of_notMem directory with alone | ⟨before, joined⟩
  · refine ⟨[], ?_⟩
    intro file noSlash
    simp [alone file noSlash, Text.splitAll_of_notMem noSlash]
  · refine ⟨(Text.splitAll '/' before).map String.ofList, ?_⟩
    intro file noSlash
    simp [joined file noSlash, Text.splitAll_snoc noSlash]

variable [WorkingDirectory]

/-- Where a path starts depends on what comes before its last part. -/
theorem start_append (parts : List String) :
    ∃ names others, ∀ file route, start (parts ++ [file]) = some route →
      goOn names (others ++ [file]) = some route := by
  cases parts with
  | nil =>
      refine ⟨WorkingDirectory.names, [], ?_⟩
      intro file route found
      rw [List.nil_append, start] at found
      split at found
      · exact found
      · cases found
  | cons part parts =>
      by_cases rooted : part = ""
      · refine ⟨[], parts, ?_⟩
        intro file route found
        simpa [start, rooted] using found
      · refine ⟨WorkingDirectory.names, part :: parts, ?_⟩
        intro file route found
        simpa [start, rooted] using found

/-- Of two files of a directory, the places differ in the names alone. -/
theorem placeOf_joinPath (directory : String) :
    ∃ outer : String, ∀ file route, '/' ∉ file.toList →
      ofPath? (joinPath directory file) = some route → route.endsInDirectory = false →
        placeOf (joinPath directory file) = outer ++ file := by
  rcases parts_joinPath directory with ⟨parts, split⟩
  rcases start_append parts with ⟨names, others, starts⟩
  rcases target_goOn names others with ⟨outer, targets⟩
  refine ⟨outer, ?_⟩
  intro file route noSlash found isFile
  rw [placeOf, found, Option.map_some, Option.getD_some]
  apply targets file route _ isFile
  rw [ofPath?, split file noSlash] at found
  split at found
  · cases found
  · exact starts file route found

end Route

end Microbench
