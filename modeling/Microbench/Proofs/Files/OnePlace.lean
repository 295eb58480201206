import Microbench.Proofs.Files.Frame

/-!
# Stores that differ in one place

Two stores may have different texts in the place of one file, or one of them may have nothing there,
and be the same everywhere else. Then nothing but this file can tell them apart: a path that leads
elsewhere finds the same in both. And whatever is written elsewhere, the file stays as it is.
-/

namespace Microbench

namespace FileStore

variable [WorkingDirectory] {store other later : FileStore} {path : String}

/-- What it takes to read a file. -/
theorem read?_eq_some {text : String} (reads : store.read? path = some text) :
    ∃ route, Route.ofPath? path = some route ∧
      (∀ place ∈ route.through, store.at? place = some .directory) ∧
        store.at? route.target = some (.file text) := by
  rw [read?, lookUp?] at reads
  cases found : Route.ofPath? path with
  | none => simp [found] at reads
  | some route =>
      refine ⟨route, rfl, ?_⟩
      simp only [found, Option.bind_eq_bind, Option.bind_some, List.all_eq_true,
        decide_eq_true_eq] at reads
      by_cases reachable : ∀ place ∈ route.through, store.at? place = some .directory
      · refine ⟨reachable, ?_⟩
        rw [if_pos reachable] at reads
        cases present : store.at? route.target with
        | none => simp [present] at reads
        | some entry =>
            simp only [present, Option.bind_some] at reads
            split at reads
            · rename_i shape
              split at shape
              · cases shape
              · cases shape
                cases reads
                rfl
            · cases reads
      · rw [if_neg reachable] at reads
        cases reads

theorem at?_of_has {kept : Option String} (has : store.Has path kept) :
    store.at? (Route.placeOf path) = kept.map .file := by
  cases kept with
  | none => exact has
  | some text =>
      rcases read?_eq_some has with ⟨route, found, -, target⟩
      simpa [Route.placeOf, found] using target

/-- A file is not touched by what is written elsewhere, and neither is the place of a file that is
not there. -/
theorem read?_write_elsewhere {kept : Option String} (has : store.Has path kept)
    {written text : String} (write : store.write? written text = some later)
    (elsewhere : Route.placeOf path ≠ Route.placeOf written) : later.read? path = kept := by
  rcases (write?_isSome store written text).mp (by simp [write]) with
    ⟨way, found, -, -, noDirectory, noFile⟩
  have target : way.target = Route.placeOf written := by simp [Route.placeOf, found]
  have through : way.through = Route.wayOf written := by simp [Route.wayOf, found]
  rw [target] at noDirectory
  rw [through] at noFile
  cases kept with
  | some kept =>
      rcases read?_eq_some has with ⟨route, own, directories, present⟩
      apply read?_write_other write elsewhere _ _ has
      · intro inWay
        apply noDirectory
        apply directories
        simpa [Route.wayOf, own] using inWay
      · intro inWay
        apply noFile _ inWay kept
        simpa [Route.placeOf, own] using present
  | none =>
      have vacant : store.at? (Route.placeOf path) = none := has
      have after := at?_write write (Route.placeOf path)
      rw [if_neg elsewhere, vacant] at after
      cases reads : later.read? path with
      | none => rfl
      | some text =>
          rcases read?_eq_some reads with ⟨route, own, -, present⟩
          have place : Route.placeOf path = route.target := by simp [Route.placeOf, own]
          rw [place, present] at after
          split at after
          · cases after
          · cases after

/-- Two stores are the same, but for the place of a file, and have a text or nothing there. -/
structure SameBut (store other : FileStore) (path : String) (kept otherKept : Option String) :
    Prop where
  elsewhere : ∀ place, place ≠ Route.placeOf path → store.at? place = other.at? place
  has : store.Has path kept
  otherHas : other.Has path otherKept

namespace SameBut

variable {kept otherKept : Option String} (same : store.SameBut other path kept otherKept)
  {path' : String} (apart : Route.placeOf path' ≠ Route.placeOf path)

include same apart

theorem lookUp?_eq : store.lookUp? path' = other.lookUp? path' := by
  have noDirectory : store.at? (Route.placeOf path) ≠ some .directory := by
    rw [at?_of_has same.has]
    cases kept <;> simp
  have otherNoDirectory : other.at? (Route.placeOf path) ≠ some .directory := by
    rw [at?_of_has same.otherHas]
    cases otherKept <;> simp
  simp only [lookUp?]
  cases found : Route.ofPath? path' with
  | none => rfl
  | some route =>
      have target : route.target ≠ Route.placeOf path := by simpa [Route.placeOf, found] using apart
      have way : (route.through.all fun place => decide (store.at? place = some .directory)) =
          route.through.all fun place => decide (other.at? place = some .directory) := by
        congr 1
        funext place
        by_cases there : place = Route.placeOf path
        · simp [there, noDirectory, otherNoDirectory]
        · rw [same.elsewhere place there]
      simp only [Option.bind_eq_bind, Option.bind_some, way, same.elsewhere _ target]

theorem read?_eq : store.read? path' = other.read? path' := by
  simp only [read?, same.lookUp?_eq apart]

theorem holds_eq : store.holds path' = other.holds path' := by
  simp only [holds, same.lookUp?_eq apart]

end SameBut

end FileStore

end Microbench
