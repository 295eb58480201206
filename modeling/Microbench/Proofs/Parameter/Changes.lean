import Microbench.Parameter.Values
import Microbench.Proofs.Text.Entries
import Microbench.Suite.Basic

/-!
# Values of parameters after changes

A change adds a value to those of a parameter or replaces them. After any changes the parameters
stand in the order of their first use, each once, and the values of a parameter are what its own
changes have made of them, whatever was done to others in between.

A suite keeps the names of its parameters apart from their default values. Each declaration changes
both, so the names agree.
-/

namespace Microbench

/-- A change of the values of a parameter. -/
inductive ValueChange where
  /-- One more value. -/
  | push (value : String)
  /-- Other values in place of the earlier ones. -/
  | set (list : List String)

namespace ValueChange

/-- What a change makes of the values that a parameter has had, if it has been used. -/
def on : ValueChange → Option (List String) → List String
  | push value, earlier => earlier.getD [] ++ [value]
  | set list, _ => list

/-- The values of a parameter after changes, or nothing if there are none. -/
def onAll (changes : List ValueChange) : Option (List String) :=
  changes.foldl (fun earlier change => some (change.on earlier)) none

theorem onAll_eq_none_iff {changes : List ValueChange} : onAll changes = none ↔ changes = [] := by
  cases changes using List.reverseRecOn with
  | nil => exact iff_of_true rfl rfl
  | append_singleton changes change => simp [onAll]

end ValueChange

namespace ParameterValues

/-- The values after a change of those of one parameter. -/
def change (values : ParameterValues) (name : String) : ValueChange → ParameterValues
  | .push value => values.push name value
  | .set list => values.set name list

def changeAll (values : ParameterValues) (changes : List (String × ValueChange)) :
    ParameterValues :=
  changes.foldl (fun values named => values.change named.1 named.2) values

theorem entries_change (values : ParameterValues) (name : String) (change : ValueChange) :
    (values.change name change).entries = Entries.update name change.on values.entries := by
  cases change <;> rfl

theorem names_change (values : ParameterValues) (name : String) (change : ValueChange) :
    (values.change name change).names =
      if name ∈ values.names then values.names else values.names ++ [name] := by
  rw [names, entries_change, Entries.names_update, names]

theorem entries_changeAll (changes : List (String × ValueChange)) :
    (empty.changeAll changes).entries = Entries.updateAll ValueChange.on changes :=
  (List.foldl_hom entries fun values named =>
    (entries_change values named.1 named.2).symm).symm

end ParameterValues

namespace Suite

def declareAll (suite : Suite) (declarations : List (String × List String)) : Suite :=
  declarations.foldl (fun suite declaration => suite.declare declaration.1 declaration.2) suite

/-- A declaration keeps the names in step with the default values. -/
theorem parameters_declare {suite : Suite} (same : suite.parameters = suite.defaultValues.names)
    (parameter : String) (values : List String) :
    (suite.declare parameter values).parameters =
      (suite.declare parameter values).defaultValues.names := by
  have changed := suite.defaultValues.names_change parameter (.set values)
  rw [← same] at changed
  exact changed.symm

theorem parameters_declareAll {suite : Suite}
    (same : suite.parameters = suite.defaultValues.names)
    (declarations : List (String × List String)) :
    (suite.declareAll declarations).parameters =
      (suite.declareAll declarations).defaultValues.names := by
  induction declarations generalizing suite with
  | nil => exact same
  | cons declaration declarations ih =>
      exact ih (parameters_declare same declaration.1 declaration.2)

theorem defaultValues_declareAll (name : String) (declarations : List (String × List String)) :
    ((create name).declareAll declarations).defaultValues.entries =
      Entries.latest [] declarations := by
  rw [← Entries.updateAll_replace]
  exact (List.foldl_hom (fun suite : Suite => suite.defaultValues.entries) fun _ _ => rfl).symm

end Suite

namespace ParameterValues

theorem get?_changeAll (changes : List (String × ValueChange)) (name : String) :
    (empty.changeAll changes).get? name =
      ValueChange.onAll (Entries.valuesOf name changes) := by
  rw [get?, entries_changeAll, Entries.find?_updateAll, ValueChange.onAll]

/-- Each parameter goes by its own changes, as if there were no others, and the parameters stand in
the order of first use. A suite therefore has its parameters in the order of their declarations,
each with the values that were declared last. -/
theorem changes_are_apart (changes : List (String × ValueChange))
    (declarations : List (String × List String)) (suiteName : String) :
    let values := empty.changeAll changes
    let suite := (Suite.create suiteName).declareAll declarations
    values.names.Nodup ∧ values.names = (changes.map Prod.fst).eraseDups ∧
      (∀ name, values.get? name = ValueChange.onAll (Entries.valuesOf name changes) ∧
        values.get? name = (empty.changeAll (changes.filter (·.1 = name))).get? name ∧
        (values.get? name = none ↔ name ∉ changes.map Prod.fst)) ∧
      suite.parameters = suite.defaultValues.names ∧
      suite.defaultValues.entries = Entries.latest [] declarations := by
  intro values suite
  have names : values.names = (changes.map Prod.fst).eraseDups := by
    rw [ParameterValues.names, entries_changeAll, Entries.names_updateAll]
  refine ⟨?_, names, ?_, Suite.parameters_declareAll rfl declarations,
    Suite.defaultValues_declareAll suiteName declarations⟩
  · rw [names]
    exact Entries.nodup_eraseDups _
  · intro name
    refine ⟨get?_changeAll changes name, ?_, ?_⟩
    · rw [get?_changeAll, get?_changeAll, Entries.valuesOf_filter]
    · rw [get?_changeAll, ValueChange.onAll_eq_none_iff, Entries.valuesOf_eq_nil_iff]

end ParameterValues

end Microbench
