/-!
# Checks in a row

What a check gives and how it fails is said of both at once. Of several checks in a row the first
one that fails tells the error, whatever the later ones would say.
-/

namespace Microbench

/-- What a computation gives, and how it fails. -/
structure Settles {ε α : Type} (result : Except ε α) (gives : α → Prop) (fails : ε → Prop) :
    Prop where
  ok : ∀ value, result = .ok value ↔ gives value
  error : ∀ error, result = .error error ↔ fails error

/-- The error of the first check that fails. -/
inductive First {ε : Type} : List (ε → Prop) → ε → Prop where
  | here {fails : ε → Prop} {checks : List (ε → Prop)} {error : ε} (failed : fails error) :
    First (fails :: checks) error
  | later {fails : ε → Prop} {checks : List (ε → Prop)} {error : ε}
    (passed : ∀ error, ¬ fails error) (first : First checks error) : First (fails :: checks) error

theorem not_first_nil {ε : Type} {error : ε} : ¬ First [] error := by
  intro first
  cases first

/-- Errors that are wrapped are found in the same place. -/
theorem first_map_iff {ε η : Type} {wrap : ε → η} {checks : List (ε → Prop)} {error : η} :
    First (checks.map fun fails error => ∃ cause, fails cause ∧ wrap cause = error) error ↔
      ∃ cause, First checks cause ∧ wrap cause = error := by
  induction checks with
  | nil => simp [not_first_nil]
  | cons fails checks ih =>
      rw [List.map_cons]
      constructor
      · intro first
        cases first with
        | here failed =>
            rcases failed with ⟨cause, failed, rfl⟩
            exact ⟨cause, .here failed, rfl⟩
        | later passed first =>
            rcases ih.mp first with ⟨cause, own, rfl⟩
            refine ⟨cause, .later ?_ own, rfl⟩
            intro other failed
            exact passed (wrap other) ⟨other, failed, rfl⟩
      · rintro ⟨cause, first, rfl⟩
        cases first with
        | here failed => exact .here ⟨cause, failed, rfl⟩
        | later passed first =>
            refine .later ?_ (ih.mpr ⟨cause, first, rfl⟩)
            rintro error ⟨other, failed, -⟩
            exact passed other failed

namespace Settles

variable {ε α β : Type} {result : Except ε α} {gives : α → Prop} {fails : ε → Prop}

theorem of_ok (value : α) : Settles (.ok value : Except ε α) (· = value) (First []) := by
  constructor
  case ok => simp [eq_comm]
  case error => simp [not_first_nil]

theorem of_error (error : ε) :
    Settles (.error error : Except ε α) (fun _ => False) (· = error) := by
  constructor
  case ok => simp
  case error => simp [eq_comm]

theorem congr (settles : Settles result gives fails) {givesToo : α → Prop} {failsToo : ε → Prop}
    (sameValues : ∀ value, gives value ↔ givesToo value)
    (sameErrors : ∀ error, fails error ↔ failsToo error) : Settles result givesToo failsToo := by
  constructor
  · intro value
    rw [settles.ok, sameValues]
  · intro error
    rw [settles.error, sameErrors]

theorem of_test (isWrong : Bool) (cause : ε) (value : α) :
    Settles (if isWrong = true then .error cause else .ok value)
      (fun result => isWrong = false ∧ value = result)
      (fun error => isWrong = true ∧ error = cause) := by
  cases isWrong with
  | true =>
      apply (of_error cause).congr
      · simp
      · simp
  | false =>
      apply (of_ok value).congr
      · simp [eq_comm]
      · simp [not_first_nil]

/-- A computation has one outcome, and this is all that is said of it. -/
theorem outcome (settles : Settles result gives fails) :
    (∃ value, result = .ok value ∧ (∀ other, gives other ↔ other = value) ∧
      ∀ error, ¬ fails error) ∨
    ∃ error, result = .error error ∧ (∀ value, ¬ gives value) ∧
      ∀ other, fails other ↔ other = error := by
  rcases settles with ⟨ok, error⟩
  cases result with
  | ok value =>
      left
      refine ⟨value, rfl, ?_, ?_⟩
      · intro other
        rw [← ok, Except.ok.injEq, eq_comm]
      · intro failed
        simp [← error]
  | error cause =>
      right
      refine ⟨cause, rfl, ?_, ?_⟩
      · intro value
        simp [← ok]
      · intro other
        rw [← error, Except.error.injEq, eq_comm]

theorem map (settles : Settles result gives fails) (change : α → β) :
    Settles (result.map change) (fun last => ∃ value, gives value ∧ change value = last) fails := by
  rcases settles.outcome with ⟨value, rfl, only, passed⟩ | ⟨error, rfl, nothing, only⟩
  · apply (of_ok (change value)).congr
    · simp [only, eq_comm]
    · simp [passed, not_first_nil]
  · apply (of_error error).congr
    · simp [nothing]
    · simp [only]

theorem mapError (settles : Settles result gives fails) {η : Type} (wrap : ε → η) :
    Settles (result.mapError wrap) gives
      (fun error => ∃ cause, fails cause ∧ wrap cause = error) := by
  rcases settles.outcome with ⟨value, rfl, only, passed⟩ | ⟨error, rfl, nothing, only⟩
  · apply (of_ok value).congr
    · simp [only]
    · simp [passed, not_first_nil]
  · apply (of_error (wrap error)).congr
    · simp [nothing]
    · simp [only, eq_comm]

/-- A check and what is done with its value. -/
theorem bind (settles : Settles result gives fails) {next : α → Except ε β}
    {givesNext : α → β → Prop} {failsNext : α → ε → Prop}
    (later : ∀ value, gives value → Settles (next value) (givesNext value) (failsNext value)) :
    Settles (result.bind next) (fun last => ∃ value, gives value ∧ givesNext value last)
      (fun error => fails error ∨ ∃ value, gives value ∧ failsNext value error) := by
  rcases settles.outcome with ⟨value, rfl, only, passed⟩ | ⟨error, rfl, nothing, only⟩
  · apply (later value ((only value).mpr rfl)).congr
    · simp [only]
    · simp [only, passed]
  · apply (of_error error).congr
    · simp [nothing]
    · simp [nothing, only]

/-- If the value does not matter for the later checks, all checks stand in a row. -/
theorem bind_first (settles : Settles result gives fails) {next : α → Except ε β}
    {givesNext : α → β → Prop} {checks : List (ε → Prop)}
    (later : ∀ value, gives value → Settles (next value) (givesNext value) (First checks)) :
    Settles (result.bind next) (fun last => ∃ value, gives value ∧ givesNext value last)
      (First (fails :: checks)) := by
  apply (settles.bind later).congr
  · simp
  · intro error
    -- If there is a value, the later checks decide; if there is none, they are never reached.
    rcases settles.outcome with ⟨value, -, only, passed⟩ | ⟨own, -, nothing, only⟩
    · constructor
      · rintro (failed | ⟨_, _, first⟩)
        · exact .here failed
        · exact .later passed first
      · intro first
        cases first with
        | here failed => exact Or.inl failed
        | later _ first => exact Or.inr ⟨value, (only value).mpr rfl, first⟩
    · constructor
      · rintro (failed | ⟨value, given, _⟩)
        · exact .here failed
        · exact absurd given (nothing value)
      · intro first
        cases first with
        | here failed => exact Or.inl failed
        | later passed _ => exact absurd ((only own).mpr rfl) (passed own)

/-- Items that change a state one after the other, each after a check of its own. -/
theorem run {σ ι : Type} {step : σ → ι → Except ε σ} {run : σ → List ι → Except ε σ}
    (done : ∀ state, run state [] = .ok state)
    (goesOn : ∀ state item items, run state (item :: items) =
      (step state item).bind fun next => run next items)
    {isFine : ι → Prop} {change : σ → ι → σ} {fails : ι → ε → Prop}
    (steps : ∀ state item, Settles (step state item)
      (fun next => isFine item ∧ change state item = next) (fails item))
    (state : σ) (items : List ι) :
    Settles (run state items)
      (fun last => (∀ item ∈ items, isFine item) ∧ items.foldl change state = last)
      (First (items.map fails)) := by
  induction items generalizing state with
  | nil =>
      rw [done]
      apply (of_ok state).congr
      · simp [eq_comm]
      · simp
  | cons item items ih =>
      rw [goesOn, List.map_cons]
      apply ((steps state item).bind_first fun next _ => ih next).congr
      · intro last
        rw [List.forall_mem_cons, List.foldl_cons]
        constructor
        · rintro ⟨next, ⟨isFine, rfl⟩, later, changed⟩
          exact ⟨⟨isFine, later⟩, changed⟩
        · rintro ⟨⟨isFine, later⟩, changed⟩
          exact ⟨_, ⟨isFine, rfl⟩, later, changed⟩
      · simp

end Settles

end Microbench
