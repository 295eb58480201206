import Mathlib.Data.List.Induction
import Mathlib.Data.List.Nodup
import Microbench.Text.Entries

/-!
# Entries after many changes

Names that are used one after the other stand in the order of their first use, each once. The entry
of a name has seen the changes of this name in their order, and nothing else. Both together say
what the entries are.
-/

namespace Microbench.Entries

variable {α β : Type}

theorem eraseDups_concat [BEq α] [LawfulBEq α] (list : List α) (item : α) :
    (list ++ [item]).eraseDups =
      if item ∈ list then list.eraseDups else list.eraseDups ++ [item] := by
  rw [List.eraseDups_append]
  by_cases known : item ∈ list
  · simp [List.removeAll, known]
  · simp [List.removeAll, known, List.eraseDups_cons]

theorem nodup_eraseDups [BEq α] [LawfulBEq α] (list : List α) :
    list.eraseDups.Nodup := by
  induction list using List.reverseRecOn with
  | nil => simp
  | append_singleton list item ih =>
      rw [eraseDups_concat]
      split
      · exact ih
      · rename_i unknown
        rw [List.nodup_append]
        refine ⟨ih, by simp, ?_⟩
        intro earlier member later same
        rw [List.mem_singleton] at same
        rintro rfl
        rw [List.mem_eraseDups, same] at member
        exact unknown member

/-- The values that a name has in pairs, in their order. -/
def valuesOf (name : String) (pairs : List (String × β)) : List β :=
  (pairs.filter fun pair => pair.1 = name).map Prod.snd

/-- Each name once, in the order of first use, with all its values in their order. -/
def grouped (pairs : List (String × β)) : List (String × List β) :=
  (pairs.map Prod.fst).eraseDups.map fun name => (name, valuesOf name pairs)

/-- Each name once, in the order of first use, with the last of its values. -/
def latest (default : β) (pairs : List (String × β)) : List (String × β) :=
  (pairs.map Prod.fst).eraseDups.map fun name => (name, (valuesOf name pairs).getLastD default)

/-- The entries after a change for each pair. -/
def updateAll (change : β → Option α → α) (pairs : List (String × β)) : List (String × α) :=
  pairs.foldl (fun entries pair => update pair.1 (change pair.2) entries) []

theorem updateAll_concat (change : β → Option α → α) (pairs : List (String × β))
    (pair : String × β) :
    updateAll change (pairs ++ [pair]) =
      update pair.1 (change pair.2) (updateAll change pairs) := by
  rw [updateAll, updateAll, List.foldl_append, List.foldl_cons, List.foldl_nil]

theorem names_updateAll (change : β → Option α → α) (pairs : List (String × β)) :
    names (updateAll change pairs) = (pairs.map Prod.fst).eraseDups := by
  induction pairs using List.reverseRecOn with
  | nil => rfl
  | append_singleton pairs pair ih =>
      rw [updateAll_concat, names_update, ih, List.map_append, List.map_singleton,
        eraseDups_concat]
      simp only [List.mem_eraseDups]

theorem find?_updateAll (change : β → Option α → α) (pairs : List (String × β)) (name : String) :
    find? name (updateAll change pairs) =
      (valuesOf name pairs).foldl (fun earlier value => some (change value earlier)) none := by
  induction pairs using List.reverseRecOn with
  | nil => rfl
  | append_singleton pairs pair ih =>
      rw [updateAll_concat, valuesOf, List.filter_append, List.map_append, List.foldl_append,
        ← valuesOf, ← ih]
      by_cases same : pair.1 = name
      · subst same
        simp
      · rw [find?_update_other (Ne.symm same)]
        simp [same]

theorem mem_of_find? {name : String} {value : α} {entries : List (String × α)}
    (found : find? name entries = some value) : (name, value) ∈ entries := by
  induction entries with
  | nil => cases found
  | cons entry entries ih =>
      rw [find?] at found
      split at found
      · rename_i same
        cases found
        simp [← same]
      · exact List.mem_cons_of_mem _ (ih found)

/-- Distinct names with what is found for them are all there is. -/
theorem eq_map_names {entries : List (String × α)} (distinct : (names entries).Nodup)
    {value : String → α} (found : ∀ name ∈ names entries, find? name entries = some (value name)) :
    entries = (names entries).map fun name => (name, value name) := by
  induction entries with
  | nil => rfl
  | cons entry entries ih =>
      rw [names, List.map_cons, List.nodup_cons] at distinct
      have own := found entry.1 (by simp [names])
      rw [find?, if_pos rfl, Option.some.injEq] at own
      have others : ∀ name ∈ names entries, find? name entries = some (value name) := by
        intro name member
        have different : entry.1 ≠ name := by
          rintro rfl
          exact distinct.1 member
        rw [← found name (by simp [names] at member ⊢; simp [member]), find?, if_neg different]
      rw [names, List.map_cons, List.map_cons, ← own, ← names, ← ih distinct.2 others]

theorem updateAll_eq {change : β → Option α → α} {pairs : List (String × β)} {value : String → α}
    (final : ∀ name ∈ pairs.map Prod.fst,
      (valuesOf name pairs).foldl (fun earlier value => some (change value earlier)) none =
        some (value name)) :
    updateAll change pairs = (pairs.map Prod.fst).eraseDups.map fun name => (name, value name) := by
  rw [← names_updateAll change]
  apply eq_map_names
  · rw [names_updateAll]
    exact nodup_eraseDups _
  · intro name member
    rw [names_updateAll, List.mem_eraseDups] at member
    rw [find?_updateAll, final name member]

theorem valuesOf_eq_nil_iff {name : String} {pairs : List (String × β)} :
    valuesOf name pairs = [] ↔ name ∉ pairs.map Prod.fst := by
  rw [valuesOf, List.map_eq_nil_iff, List.filter_eq_nil_iff, List.mem_map]
  simp only [decide_eq_true_eq, not_exists, not_and]

theorem valuesOf_ne_nil {name : String} {pairs : List (String × β)}
    (member : name ∈ pairs.map Prod.fst) : valuesOf name pairs ≠ [] := by
  rw [ne_eq, valuesOf_eq_nil_iff, Classical.not_not]
  exact member

theorem valuesOf_filter (name : String) (pairs : List (String × β)) :
    valuesOf name (pairs.filter (·.1 = name)) = valuesOf name pairs := by
  rw [valuesOf, List.filter_filter]
  simp only [Bool.and_self, valuesOf]

/-- Values that are added at the end are all there, in their order. -/
theorem updateAll_push (pairs : List (String × β)) :
    updateAll (fun value earlier => earlier.getD [] ++ [value]) pairs = grouped pairs := by
  have collected (values : List β) : values ≠ [] →
      values.foldl (fun earlier value => some (earlier.getD [] ++ [value])) none = some values := by
    induction values using List.reverseRecOn with
    | nil => simp
    | append_singleton values value ih =>
        intro _
        rw [List.foldl_append, List.foldl_cons, List.foldl_nil]
        cases values with
        | nil => rfl
        | cons first values => rw [ih (by simp)]; rfl
  apply updateAll_eq
  intro name member
  exact collected _ (valuesOf_ne_nil member)

/-- Of values that replace each other the last one is there. -/
theorem updateAll_replace (pairs : List (String × β)) (default : β) :
    updateAll (fun value _ => value) pairs = latest default pairs := by
  apply updateAll_eq
  intro name member
  rcases List.eq_nil_or_concat' (valuesOf name pairs) with none | ⟨earlier, last, shape⟩
  · exact absurd none (valuesOf_ne_nil member)
  · rw [shape, List.foldl_append]
    simp

end Microbench.Entries
