import Microbench.Proofs.Settings.Checks
import Microbench.Runner.Configuration

/-!
# Literals

Units, modes and formats are given by literals, each of which stands for one of them at most. So a
literal is read exactly as what it stands for, and is unsupported if it stands for nothing.
-/

namespace Microbench

/-- A value stands for none of the items of a kind. -/
def Unsupported {α : Type} (kind : String) (accepted : List String) (stands : String → α → Prop)
    (value : String) (error : SettingError) : Prop :=
  (∀ item, ¬ stands value item) ∧ error = .unsupported kind value accepted

theorem settles_find {α : Type} {all : List α} {test : α → Bool} {stands : String → α → Prop}
    {value kind : String} {accepted : List String} {result : Except SettingError α}
    (shape : result = (all.find? test).elim (.error (.unsupported kind value accepted)) .ok)
    (complete : ∀ item, item ∈ all) (tests : ∀ item, test item = true ↔ stands value item)
    (unique : ∀ item other, stands value item → stands value other → item = other) :
    Settles result (stands value) (Unsupported kind accepted stands value) := by
  rw [shape]
  cases found : all.find? test with
  | none =>
      have nothing : ∀ item, ¬ stands value item := by
        intro item standsFor
        exact List.find?_eq_none.mp found item (complete item) ((tests item).mpr standsFor)
      apply (Settles.of_error _).congr
      · simp [nothing]
      · simp [Unsupported, nothing]
  | some item =>
      have own := (tests item).mp (List.find?_some found)
      apply (Settles.of_ok _).congr
      · intro other
        constructor
        · rintro rfl
          exact own
        · exact fun standsFor => unique other item standsFor own
      · intro error
        simp only [not_first_nil, false_iff]
        rintro ⟨nothing, -⟩
        exact nothing item own

def TimeUnit.IsNamed (value : String) (unit : TimeUnit) : Prop := value ∈ unit.literals

def Mode.IsNamed (value : String) (mode : Mode) : Prop := value ∈ mode.literals

def TraceFormat.IsNamed (value : String) (format : TraceFormat) : Prop := value = format.name

/-- Formats of reports are named in any case. -/
def ReportFormat.IsNamed (value : String) (format : ReportFormat) : Prop :=
  value.toList.map Char.toLower = format.name.toList

theorem TimeUnit.settles_parse (value : String) :
    Settles (parse value) (IsNamed value)
      (Unsupported "time unit" (all.flatMap literals) IsNamed value) := by
  have complete : ∀ unit, unit ∈ all := by
    intro unit
    cases unit <;> decide
  have apart : ∀ unit ∈ all, ∀ literal ∈ unit.literals, ∀ other ∈ all,
      literal ∈ other.literals → unit = other := by decide
  have shape : parse value = (all.find? fun item => item.literals.contains value).elim
      (.error (.unsupported "time unit" value (all.flatMap literals))) .ok := by
    rw [parse]
    cases all.find? fun item => item.literals.contains value <;> rfl
  apply settles_find shape complete
  · simp [IsNamed]
  · intro unit other own standsToo
    exact apart unit (complete unit) value own other (complete other) standsToo

theorem Mode.settles_parse (value : String) :
    Settles (parse value) (IsNamed value)
      (Unsupported "mode" (all.flatMap literals) IsNamed value) := by
  have complete : ∀ mode, mode ∈ all := by
    intro mode
    cases mode <;> decide
  have apart : ∀ mode ∈ all, ∀ literal ∈ mode.literals, ∀ other ∈ all,
      literal ∈ other.literals → mode = other := by decide
  have shape : parse value = (all.find? fun item => item.literals.contains value).elim
      (.error (.unsupported "mode" value (all.flatMap literals))) .ok := by
    rw [parse]
    cases all.find? fun item => item.literals.contains value <;> rfl
  apply settles_find shape complete
  · simp [IsNamed]
  · intro mode other own standsToo
    exact apart mode (complete mode) value own other (complete other) standsToo

theorem TraceFormat.settles_parse (value : String) :
    Settles (parse value) (IsNamed value)
      (Unsupported "traceFormat" (all.map TraceFormat.name) IsNamed value) := by
  have complete : ∀ format, format ∈ all := by
    intro format
    cases format <;> decide
  have apart : ∀ format ∈ all, ∀ other ∈ all, format.name = other.name → format = other := by
    decide
  have shape : parse value = (all.find? fun format => format.name == value).elim
      (.error (.unsupported "traceFormat" value (all.map TraceFormat.name))) .ok := by
    rw [parse]
    cases all.find? fun format => format.name == value <;> rfl
  apply settles_find shape complete
  · intro format
    rw [beq_iff_eq, IsNamed, eq_comm]
  · intro format other own standsToo
    exact apart format (complete format) other (complete other) (own.symm.trans standsToo)

theorem RunnerConfiguration.settles_parseReportFormat (value : String) :
    Settles (parseReportFormat value) (ReportFormat.IsNamed value)
      (Unsupported "reportFormat" (ReportFormat.all.map ReportFormat.name) ReportFormat.IsNamed
        value) := by
  have complete : ∀ format, format ∈ ReportFormat.all := by
    intro format
    cases format <;> decide
  have apart : ∀ format ∈ ReportFormat.all, ∀ other ∈ ReportFormat.all,
      format.name.toList = other.name.toList → format = other := by decide
  have shape : parseReportFormat value =
      (ReportFormat.all.find? fun format =>
        format.name.toList == value.toList.map Char.toLower).elim
          (.error (.unsupported "reportFormat" value (ReportFormat.all.map ReportFormat.name)))
          .ok := by
    rw [parseReportFormat, ReportFormat.parse]
    cases ReportFormat.all.find? fun format =>
      format.name.toList == value.toList.map Char.toLower <;> rfl
  apply settles_find shape complete
  · intro format
    rw [beq_iff_eq, ReportFormat.IsNamed, eq_comm]
  · intro format other own standsToo
    exact apart format (complete format) other (complete other) (own.symm.trans standsToo)

end Microbench
