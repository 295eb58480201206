/-!
# Entries by name

A list of named entries in the order in which the names were first used.
-/

namespace Microbench.Entries

variable {α : Type}

/-- Changes the first entry of a name, or adds one at the end. -/
def update (name : String) (change : Option α → α) :
    List (String × α) → List (String × α)
  | [] => [(name, change none)]
  | (key, value) :: rest =>
    if key = name then (key, change (some value)) :: rest
    else (key, value) :: update name change rest

/-- The first entry of a name. -/
def find? (name : String) : List (String × α) → Option α
  | [] => none
  | (key, value) :: rest => if key = name then some value else find? name rest

def names (entries : List (String × α)) : List String := entries.map Prod.fst

@[simp]
theorem find?_update_same (name : String) (change : Option α → α) (entries : List (String × α)) :
    find? name (update name change entries) = some (change (find? name entries)) := by
  induction entries with
  | nil => simp [update, find?]
  | cons entry rest hypothesis =>
    by_cases same : entry.1 = name
    · simp [update, find?, same]
    · simp [update, find?, same, hypothesis]

@[simp]
theorem find?_update_other {name other : String} (different : other ≠ name)
    (change : Option α → α) (entries : List (String × α)) :
    find? other (update name change entries) = find? other entries := by
  induction entries with
  | nil => simp [update, find?, different.symm]
  | cons entry rest hypothesis =>
    by_cases same : entry.1 = name
    · have : entry.1 ≠ other := fun equal => different (equal.symm.trans same)
      simp [update, find?, same, different.symm]
    · simp only [update, same, if_false, find?, hypothesis]

theorem names_update (name : String) (change : Option α → α) (entries : List (String × α)) :
    names (update name change entries) =
      if name ∈ names entries then names entries else names entries ++ [name] := by
  induction entries with
  | nil => simp [update, names]
  | cons entry rest hypothesis =>
    by_cases same : entry.1 = name
    · simp [update, names, same]
    · have other : name ≠ entry.1 := fun equal => same equal.symm
      simp only [names] at hypothesis
      simp only [update, same, if_false, names, List.map_cons, hypothesis, List.mem_cons, other,
        false_or]
      split <;> simp_all

end Microbench.Entries
