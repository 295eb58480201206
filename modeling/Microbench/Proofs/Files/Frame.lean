import Microbench.Files.Store
import Microbench.Proofs.Text.Parts

/-!
# What a written file changes

Writing a file makes the directories on the way to it and puts the file in its place; everything
else stays. Which places these are does not depend on what is there, so paths that lead to different
places, none of which is on the way to another, can be written in any order and as often as one
likes.
-/

namespace Microbench

namespace Route

theorem place_cons (file : String) (names : List String) :
    place (file :: names) = (if names = [] then "" else place names ++ "/") ++ file := by
  by_cases none : names = []
  · simp [none, place]
  · have outer : names.reverse ≠ [] := by simpa using none
    simp only [place, List.reverse_cons, if_neg none]
    rw [String.intercalate_append_of_ne_nil outer (by simp), String.intercalate_singleton]

theorem place_singleton (name : String) : place [name] = name := by
  rw [place, List.reverse_singleton, String.intercalate_singleton]

theorem length_place_cons (file : String) (names : List String) :
    (place names).length + file.length ≤ (place (file :: names)).length := by
  rw [place_cons]
  split
  · simp [place, *]
  · simp only [String.length_append]
    omega

theorem length_around {names : List String} {outer : String} (member : outer ∈ around names) :
    outer.length ≤ (place names).length := by
  induction names with
  | nil =>
      rw [around, List.mem_singleton] at member
      subst member
      exact Nat.le_refl _
  | cons name names ih =>
      rcases List.mem_cons.mp member with rfl | further
      · exact Nat.le_refl _
      · have shorter := ih further
        have longer := length_place_cons name names
        omega

/-- What is in a directory is not around it. -/
theorem place_notMem_around {name : String} (solid : name ≠ "") (names : List String) :
    place (name :: names) ∉ around names := by
  intro member
  have shorter := length_around member
  have longer := length_place_cons name names
  have some : name.length ≠ 0 := by simpa using solid
  omega

variable [WorkingDirectory]

/-- The place that a path leads to. -/
def placeOf (path : String) : String := ((ofPath? path).map target).getD ""

/-- The places that must be directories on the way of a path. -/
def wayOf (path : String) : List String := ((ofPath? path).map through).getD []

/-- A path that is just the name of a file. -/
structure IsFileName (path : String) : Prop where
  isName : isName path = true
  noSlash : '/' ∉ path.toList
  noDots : path ∉ ["", ".", ".."]

/-- The name of a file leads to this file in the working directory, without any directory on the
way. -/
theorem ofPath?_fileName {path : String} (fileName : IsFileName path) :
    ofPath? path = some ⟨[], place (path :: WorkingDirectory.names), false⟩ := by
  rcases fileName with ⟨isName, noSlash, noDots⟩
  simp only [List.mem_cons, List.not_mem_nil, or_false, not_or] at noDots
  rcases noDots with ⟨solid, notHere, notOut⟩
  have short : ¬ pathLimit < path.utf8ByteSize := by
    rw [Route.isName, Bool.and_eq_true, decide_eq_true_eq, nameLimit] at isName
    rw [pathLimit]
    omega
  have parts : (Text.splitAll '/' path.toList).map String.ofList = [path] := by
    rw [Text.splitAll_of_notMem noSlash, List.map_singleton, String.ofList_toList]
  rw [ofPath?, if_neg short, parts]
  simp [start, goOn, solid, notHere, notOut, isName]

theorem placeOf_fileName {path : String} (fileName : IsFileName path) :
    placeOf path = place (path :: WorkingDirectory.names) := by
  rw [placeOf, ofPath?_fileName fileName]
  rfl

theorem placeOf_fileName_inj {path other : String} (fileName : IsFileName path)
    (otherFileName : IsFileName other) (same : placeOf path = placeOf other) : path = other := by
  rw [placeOf_fileName fileName, placeOf_fileName otherFileName, place_cons, place_cons,
    String.append_right_inj] at same
  exact same

theorem wayOf_fileName {path : String} (fileName : IsFileName path) : wayOf path = [] := by
  rw [wayOf, ofPath?_fileName fileName]
  rfl

end Route

namespace FileStore

variable [WorkingDirectory]

/-- Where no directory is, the working directory is not, nor one around it. -/
theorem notMem_around {store : FileStore} {place : String}
    (free : store.at? place ≠ some .directory) :
    place ∉ Route.around WorkingDirectory.names := by
  intro around
  exact free (by rw [at?, if_pos around])

theorem at?_put {store : FileStore} {place : String} (free : store.at? place ≠ some .directory)
    (entry : FileEntry) (other : String) :
    (store.put place entry).at? other = if other = place then some entry else store.at? other := by
  have apart := notMem_around free
  by_cases same : other = place
  · subst same
    simp [at?, put, apart]
  · by_cases around : other ∈ Route.around WorkingDirectory.names
    · simp [at?, around, same]
    · simp [at?, put, around, same, Entries.find?_update_other same]

theorem at?_makeDirectories {places : List String} {store later : FileStore}
    (made : store.makeDirectories places = some later) (place : String) :
    later.at? place = if place ∈ places then some .directory else store.at? place := by
  induction places generalizing store with
  | nil =>
      rw [makeDirectories, Option.some.injEq] at made
      simp [made]
  | cons first places ih =>
      rw [makeDirectories] at made
      split at made
      · rename_i present
        rw [ih made]
        by_cases same : place = first
        · simp [same, present]
        · simp [same]
      · cases made
      · rename_i absent
        rw [ih made, at?_put (by simp [absent])]
        by_cases same : place = first
        · simp [same]
        · simp [same]

theorem makeDirectories_isSome {places : List String} {store : FileStore} :
    (store.makeDirectories places).isSome ↔
      ∀ place ∈ places, ∀ text, store.at? place ≠ some (.file text) := by
  induction places generalizing store with
  | nil => simp [makeDirectories]
  | cons first places ih =>
      rw [makeDirectories]
      split
      · rename_i present
        rw [ih]
        simp [present]
      · rename_i text present
        simp [present]
      · rename_i absent
        rw [ih]
        have free : store.at? first ≠ some .directory := by simp [absent]
        -- The new directory takes no place where a file was.
        simp only [at?_put free, List.mem_cons, forall_eq_or_imp, absent]
        constructor
        · intro free
          refine ⟨by simp, ?_⟩
          intro place member text
          have clear := free place member text
          split at clear
          · rename_i same
            simp [same, absent]
          · exact clear
        · intro free place member text
          split
          · simp
          · exact free.2 place member text

/-- Nothing is in the place of a file. -/
def IsVacant (store : FileStore) (path : String) : Prop := store.at? (Route.placeOf path) = none

/-- What it takes to write a file. -/
theorem write?_isSome (store : FileStore) (path text : String) :
    (store.write? path text).isSome ↔
      ∃ route, Route.ofPath? path = some route ∧ route.endsInDirectory = false ∧
        route.target ∉ route.through ∧ store.at? route.target ≠ some .directory ∧
          ∀ place ∈ route.through, ∀ text, store.at? place ≠ some (.file text) := by
  rw [write?]
  cases found : Route.ofPath? path with
  | none => simp
  | some route =>
      have free := @makeDirectories_isSome _ route.through store
      simp only [Option.bind_eq_bind, Option.bind_some, Option.some.injEq, exists_eq_left']
      rw [← free]
      cases made : store.makeDirectories route.through with
      | none => simp
      | some later =>
          have target := at?_makeDirectories made route.target
          by_cases inWay : route.target ∈ route.through
          · simp [target, inWay]
          · simp [target, inWay]

variable {store later : FileStore} {path text : String}

theorem write?_eq_some (written : store.write? path text = some later) :
    ∃ route, Route.ofPath? path = some route ∧ route.endsInDirectory = false ∧
      route.target ∉ route.through ∧
        ∀ place, later.at? place =
          if place = route.target then some (.file text)
          else if place ∈ route.through then some .directory
          else store.at? place := by
  have possible : (store.write? path text).isSome := by simp [written]
  rcases (write?_isSome store path text).mp possible with ⟨route, found, isFile, apart, -, -⟩
  refine ⟨route, found, isFile, apart, ?_⟩
  intro place
  rw [write?, found] at written
  cases made : store.makeDirectories route.through with
  | none => simp [made] at written
  | some between =>
      simp only [made, Option.bind_eq_bind, Option.bind_some] at written
      split at written
      · cases written
      · rename_i free
        simp only [Bool.or_eq_true, decide_eq_true_eq, not_or] at free
        rw [Option.some.injEq] at written
        rw [← written, at?_put free.2, at?_makeDirectories made]

/-- What is where once a file is written. -/
theorem at?_write (written : store.write? path text = some later) (place : String) :
    later.at? place =
      if place = Route.placeOf path then some (.file text)
      else if place ∈ Route.wayOf path then some .directory
      else store.at? place := by
  rcases write?_eq_some written with ⟨route, found, -, -, after⟩
  rw [after place, Route.placeOf, Route.wayOf, found]
  rfl

/-- A file has the text that was written to it. -/
theorem read?_write (written : store.write? path text = some later) :
    later.read? path = some text := by
  rcases write?_eq_some written with ⟨route, found, isFile, apart, after⟩
  have way : (route.through.all fun place => later.at? place = some .directory) = true := by
    rw [List.all_eq_true]
    intro place member
    have other : place ≠ route.target := by
      rintro rfl
      exact apart member
    simp [after, other, member]
  have target : later.at? route.target = some (.file text) := by simp [after]
  rw [read?, lookUp?, found]
  simp only [Option.bind_eq_bind, Option.bind_some, way, if_true, target, isFile]
  rfl

/-- A file keeps its text when another one is written that is not on its way. -/
theorem read?_write_other {other kept : String} (written : store.write? path text = some later)
    (elsewhere : Route.placeOf other ≠ Route.placeOf path)
    (offWay : Route.placeOf path ∉ Route.wayOf other)
    (offOtherWay : Route.placeOf other ∉ Route.wayOf path)
    (reads : store.read? other = some kept) : later.read? other = some kept := by
  have after := at?_write written
  cases found : Route.ofPath? other with
  | none => simp [read?, lookUp?, found] at reads
  | some route =>
      rw [Route.placeOf, found, Option.map_some, Option.getD_some] at elsewhere offOtherWay
      rw [Route.wayOf, found, Option.map_some, Option.getD_some] at offWay
      have target : later.at? route.target = store.at? route.target := by
        rw [after, if_neg elsewhere, if_neg offOtherWay]
      have way (place : String) (member : place ∈ route.through)
          (present : store.at? place = some .directory) : later.at? place = some .directory := by
        have free : place ≠ Route.placeOf path := by
          rintro rfl
          exact offWay member
        rw [after, if_neg free]
        split
        · rfl
        · exact present
      rw [read?, lookUp?, found] at reads ⊢
      simp only [Option.bind_eq_bind, Option.bind_some, List.all_eq_true, decide_eq_true_eq,
        target] at reads ⊢
      by_cases reachable : ∀ place ∈ route.through, store.at? place = some .directory
      · rw [if_pos reachable] at reads
        rw [if_pos fun place member => way place member (reachable place member)]
        exact reads
      · rw [if_neg reachable] at reads
        cases reads

theorem read?_of_isVacant (vacant : store.IsVacant path) : store.read? path = none := by
  rw [read?, lookUp?]
  rw [IsVacant, Route.placeOf] at vacant
  cases found : Route.ofPath? path with
  | none => rfl
  | some route =>
      rw [found, Option.map_some, Option.getD_some] at vacant
      simp [vacant]

/-- Paths that can be written one after the other: each of them can be written now, and none of
them leads to a place on the way of another. -/
structure Admits (store : FileStore) (paths : List String) : Prop where
  writable : ∀ path ∈ paths, (store.write? path "").isSome
  apart : ∀ path ∈ paths, ∀ other ∈ paths, Route.placeOf path ∉ Route.wayOf other

/-- The name of a file leads to what is in its place, whatever else is there. -/
theorem lookUp?_fileName (fileName : Route.IsFileName path) (store : FileStore) :
    store.lookUp? path = store.at? (Route.placeOf path) := by
  rw [lookUp?, Route.placeOf_fileName fileName, Route.ofPath?_fileName fileName]
  simp

/-- In a store without files, nothing is in the place of any name. -/
theorem isVacant_empty (fileName : Route.IsFileName path) : empty.IsVacant path := by
  have solid : path ≠ "" := by
    rintro rfl
    exact fileName.noDots (by simp)
  rw [IsVacant, Route.placeOf_fileName fileName, at?, if_neg (Route.place_notMem_around solid _)]
  rfl

theorem holds_empty (fileName : Route.IsFileName path) : empty.holds path = false := by
  have vacant := isVacant_empty fileName
  rw [IsVacant] at vacant
  rw [holds, lookUp?_fileName fileName, vacant]
  rfl

/-- Files can be written under any names where no directories are. -/
theorem admits_fileNames {paths : List String} (fileNames : ∀ path ∈ paths, Route.IsFileName path)
    (free : ∀ path ∈ paths, store.at? (Route.placeOf path) ≠ some .directory) :
    store.Admits paths := by
  constructor
  · intro path member
    have fileName := fileNames path member
    have noDirectory := free path member
    rw [Route.placeOf_fileName fileName] at noDirectory
    exact (write?_isSome store path "").mpr
      ⟨_, Route.ofPath?_fileName fileName, rfl, by simp, noDirectory, by simp⟩
  · intro path member other otherMember
    rw [Route.wayOf_fileName (fileNames other otherMember)]
    simp

/-- Files can be written under any names where nothing is yet. -/
theorem admits_empty {paths : List String} (fileNames : ∀ path ∈ paths, Route.IsFileName path) :
    empty.Admits paths := by
  apply admits_fileNames fileNames
  intro path member
  have vacant := isVacant_empty (fileNames path member)
  rw [IsVacant] at vacant
  simp [vacant]

namespace Admits

variable {paths : List String}

theorem write? (admits : store.Admits paths) (member : path ∈ paths) (text : String) :
    ∃ later, store.write? path text = some later := by
  have possible := admits.writable path member
  rw [write?_isSome, ← write?_isSome store path text] at possible
  exact Option.isSome_iff_exists.mp possible

/-- Writing one of the paths leaves all of them writable. -/
theorem after (admits : store.Admits paths) (member : path ∈ paths)
    (written : store.write? path text = some later) : later.Admits paths := by
  refine ⟨?_, admits.apart⟩
  intro other otherMember
  rcases (write?_isSome store other "").mp (admits.writable other otherMember) with
    ⟨route, found, isFile, apart, noDirectory, free⟩
  have target : route.target = Route.placeOf other := by simp [Route.placeOf, found]
  have way : route.through = Route.wayOf other := by simp [Route.wayOf, found]
  refine (write?_isSome later other "").mpr ⟨route, found, isFile, apart, ?_, ?_⟩
  · rw [at?_write written]
    split
    · simp
    · rw [if_neg]
      · exact noDirectory
      · rw [target]
        exact admits.apart other otherMember path member
  · intro place inWay kept
    rw [at?_write written, if_neg]
    · split
      · simp
      · exact free place inWay kept
    · rintro rfl
      rw [way] at inWay
      exact admits.apart path member other otherMember inWay

/-- A file that is there can be read. -/
theorem read?_of_holds (admits : store.Admits paths) (member : path ∈ paths)
    (present : store.holds path = true) : ∃ text, store.read? path = some text := by
  rcases (write?_isSome store path "").mp (admits.writable path member) with
    ⟨route, found, isFile, -, noDirectory, -⟩
  rw [holds, lookUp?, found] at present
  rw [read?, lookUp?, found]
  simp only [Option.bind_eq_bind, Option.bind_some] at present ⊢
  by_cases reachable : (route.through.all fun place => store.at? place = some .directory) = true
  · rw [if_pos reachable] at present ⊢
    cases entry : store.at? route.target with
    | none => simp [entry] at present
    | some entry' =>
        cases entry' with
        | directory => exact absurd entry noDirectory
        | file text => exact ⟨text, by simp [isFile]⟩
  · rw [if_neg reachable] at present
    cases present

end Admits

theorem holds_of_read? (reads : store.read? path = some text) : store.holds path = true := by
  rw [holds]
  cases entry : store.lookUp? path with
  | none => simp [read?, entry] at reads
  | some entry' => rfl

/-- What is at a path is still there: its text, or nothing. -/
structure Keeps (before after : FileStore) (path : String) : Prop where
  reads : ∀ text, before.read? path = some text → after.read? path = some text
  vacant : before.IsVacant path → after.IsVacant path

namespace Keeps

variable {before between after : FileStore}

theorem refl (store : FileStore) (path : String) : Keeps store store path :=
  ⟨fun _ reads => reads, fun vacant => vacant⟩

theorem trans (first : Keeps before between path) (second : Keeps between after path) :
    Keeps before after path :=
  ⟨fun text reads => second.reads text (first.reads text reads),
    fun vacant => second.vacant (first.vacant vacant)⟩

end Keeps

/-- At a path there is a file with a text, or nothing. -/
def Has (store : FileStore) (path : String) : Option String → Prop
  | some text => store.read? path = some text
  | none => store.IsVacant path

theorem read?_of_has {text? : Option String} (has : store.Has path text?) :
    store.read? path = text? := by
  cases text? with
  | none => exact read?_of_isVacant has
  | some text => exact has

theorem Keeps.has {before after : FileStore} {text? : Option String}
    (keeps : Keeps before after path) (has : before.Has path text?) : after.Has path text? := by
  cases text? with
  | none => exact keeps.vacant has
  | some text => exact keeps.reads text has

/-- Writing one of the paths keeps what is at the others. -/
theorem Admits.keeps {paths : List String} (admits : store.Admits paths) (member : path ∈ paths)
    (written : store.write? path text = some later) {other : String} (otherMember : other ∈ paths)
    (elsewhere : Route.placeOf other ≠ Route.placeOf path) : Keeps store later other := by
  have offWay := admits.apart path member other otherMember
  have offOtherWay := admits.apart other otherMember path member
  constructor
  · intro kept reads
    exact read?_write_other written elsewhere offWay offOtherWay reads
  · intro vacant
    rw [IsVacant, at?_write written, if_neg elsewhere, if_neg offOtherWay]
    exact vacant

end FileStore

end Microbench
