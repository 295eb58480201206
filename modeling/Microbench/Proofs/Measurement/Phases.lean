import Microbench.Proofs.Measurement.Legs
import Microbench.Suite.Scripted

/-!
# The phases of a run

The iterations of a run have the same number of invocations each, so the number of the first
invocation that panics says in which phase the run fails, how many lines it has said by then, and
that the benchmark is not invoked again. A run in which no invocation panics has one sample for each
measured iteration and says a line in each iteration.
-/

namespace Microbench

namespace Session

/-- An iteration after some more invocations, as a leg. -/
def iteration (session : Session) (settings : Settings) (phase : Phase) (heading : String)
    (earlier : Nat) (cycles : UInt64) : Leg :=
  ⟨phase, cycles.toNat, [heading ++ ": " ++ settings.nanosText (session.nanos earlier cycles)]⟩

/-- Iterations of one kind in a row, from an index on. -/
def iterations (session : Session) (settings : Settings) (phase : Nat → Phase) (heading : String)
    (cycles : UInt64) (earlier index count : Nat) : List Leg :=
  (List.range count).map fun place =>
    session.iteration settings (phase (index + place)) (heading ++ toString (index + place))
      (earlier + place * cycles.toNat) cycles

/-- The samples of iterations in a row. -/
def samples (session : Session) (settings : Settings) (cycles : UInt64) (earlier count : Nat) :
    List Binary64 :=
  (List.range count).map fun place =>
    .ofFloat (settings.sample (session.nanos (earlier + place * cycles.toNat) cycles))

section Rows

open Leg (total said)

variable (session : Session) (settings : Settings) (phase : Nat → Phase) (heading : String)
  (cycles : UInt64) (earlier index : Nat)

theorem iterations_succ (count : Nat) :
    session.iterations settings phase heading cycles earlier index (count + 1) =
      session.iteration settings (phase index) (heading ++ toString index) earlier cycles ::
        session.iterations settings phase heading cycles (earlier + cycles.toNat) (index + 1)
          count := by
  simp [iterations, List.range_succ_eq_map, Function.comp_def, Nat.succ_mul, Nat.add_assoc,
    Nat.add_comm, Nat.add_left_comm]

theorem samples_succ (count : Nat) :
    session.samples settings cycles earlier (count + 1) =
      .ofFloat (settings.sample (session.nanos earlier cycles)) ::
        session.samples settings cycles (earlier + cycles.toNat) count := by
  simp [samples, List.range_succ_eq_map, Function.comp_def, Nat.succ_mul, Nat.add_assoc,
    Nat.add_comm]

theorem total_iterations (count : Nat) :
    total (session.iterations settings phase heading cycles earlier index count) =
      count * cycles.toNat := by
  induction count generalizing earlier index with
  | zero => simp [iterations]
  | succ count ih => rw [iterations_succ, Leg.total_cons, ih, iteration, Nat.succ_mul, Nat.add_comm]

theorem said_iterations (count : Nat) :
    said (session.iterations settings phase heading cycles earlier index count) =
      (List.range count).map fun place =>
        heading ++ toString (index + place) ++ ": " ++
          settings.nanosText (session.nanos (earlier + place * cycles.toNat) cycles) := by
  rw [said, iterations, List.flatMap_map]
  exact List.flatMap_pure_eq_map _ _

/-- Each iteration has those of a smaller index before it. -/
theorem iterations_split {place count : Nat} (inside : place < count) :
    ∃ later, session.iterations settings phase heading cycles earlier index count =
      session.iterations settings phase heading cycles earlier index place ++
        session.iteration settings (phase (index + place)) (heading ++ toString (index + place))
          (earlier + place * cycles.toNat) cycles :: later := by
  rcases Nat.exists_eq_add_of_lt inside with ⟨more, rfl⟩
  rw [iterations, Nat.add_assoc, List.range_add, List.range_succ_eq_map, List.map_append]
  exact ⟨_, rfl⟩

end Rows

variable {session later : Session} {count : Nat}

theorem IsAfter.nanos (isAfter : later.IsAfter session count) (earlier : Nat) (cycles : UInt64) :
    later.nanos earlier cycles = session.nanos (count + earlier) cycles := by
  rw [Session.nanos, Session.nanos, isAfter.reading]

theorem IsAfter.iteration (isAfter : later.IsAfter session count) (settings : Settings)
    (phase : Phase) (heading : String) (earlier : Nat) (cycles : UInt64) :
    later.iteration settings phase heading earlier cycles =
      session.iteration settings phase heading (count + earlier) cycles := by
  rw [Session.iteration, Session.iteration, isAfter.nanos]

theorem IsAfter.iterations (isAfter : later.IsAfter session count) (settings : Settings)
    (phase : Nat → Phase) (heading : String) (cycles : UInt64) (earlier index number : Nat) :
    later.iterations settings phase heading cycles earlier index number =
      session.iterations settings phase heading cycles (count + earlier) index number := by
  simp only [Session.iterations, isAfter.iteration, Nat.add_assoc]

theorem IsAfter.samples (isAfter : later.IsAfter session count) (settings : Settings)
    (cycles : UInt64) (earlier number : Nat) :
    later.samples settings cycles earlier number =
      session.samples settings cycles (count + earlier) number := by
  simp only [Session.samples, isAfter.nanos, Nat.add_assoc]

end Session

namespace Bench

variable {bench : Bench}

theorem takes_estimate (bench : Bench) (settings : Settings) :
    bench.Takes [⟨.estimation, bench.session.needed settings.budget, []⟩]
      (bench.session.cycles settings.budget) (bench.estimate settings) := by
  have takes := (bench.attempts_fill settings.budget).takes .estimation
    fun tally => max tally.calls 1
  rw [Session.max_calls_tally] at takes
  exact takes

theorem takes_warmUp (bench : Bench) (settings : Settings) (index : Nat) (cycles : UInt64) :
    bench.Takes
      [bench.session.iteration settings (.warmup index) ("Warm-up #" ++ toString index) 0 cycles]
      () (bench.warmUp settings index cycles) :=
  (bench.attempts_iterate settings _ cycles).takes (.warmup index) fun _ => ()

theorem takes_measure (bench : Bench) (settings : Settings) (index : Nat) (cycles : UInt64) :
    bench.Takes
      [bench.session.iteration settings (.measurement index) ("Iteration #" ++ toString index) 0
        cycles]
      (.ofFloat (settings.sample (bench.session.nanos 0 cycles)))
      (bench.measure settings index cycles) :=
  (bench.attempts_iterate settings _ cycles).takes (.measurement index)
    fun nanos => Binary64.ofFloat (settings.sample nanos)

theorem takes_nothing {α : Type} (bench : Bench) (value : α) :
    bench.Takes [] value (.ok value, bench) := by
  constructor
  · intro _
    exact ⟨bench, rfl, bench.session.isAfter_refl, by simp [Leg.said], [], by simp, by simp,
      by simp⟩
  · intro before leg later shape
    simp at shape

theorem takes_warmUpAll (bench : Bench) (settings : Settings) (cycles : UInt64)
    (count index : Nat) :
    bench.Takes
      (bench.session.iterations settings .warmup "Warm-up #" cycles 0 index count) ()
      (warmUpAll settings cycles count index bench) := by
  induction count generalizing bench index with
  | zero => exact bench.takes_nothing ()
  | succ count ih =>
      rw [Session.iterations_succ, ← List.singleton_append]
      apply (bench.takes_warmUp settings index cycles).andThen
        (warmUpAll settings cycles count (index + 1))
      case takesNext =>
        intro between isBetween
        have takes := ih between (index + 1)
        rw [isBetween.session.iterations] at takes
        simpa [Session.iteration] using takes
      case goesOn =>
        intro between done
        rw [warmUpAll, done]
      case ends =>
        intro failure after done
        rw [warmUpAll, done]

theorem takes_measureAll (bench : Bench) (settings : Settings) (cycles : UInt64)
    (count index : Nat) (earlier : Array Binary64) :
    bench.Takes
      (bench.session.iterations settings .measurement "Iteration #" cycles 0 index count)
      (earlier.toList ++ bench.session.samples settings cycles 0 count)
      (measureAll settings cycles count index earlier bench) := by
  induction count generalizing bench index earlier with
  | zero =>
      have takes := bench.takes_nothing earlier.toList
      simpa [measureAll, Session.samples, Session.iterations] using takes
  | succ count ih =>
      rw [Session.iterations_succ, ← List.singleton_append, Session.samples_succ]
      apply (bench.takes_measure settings index cycles).andThen
        (measureAll settings cycles count (index + 1)
          (earlier.push (.ofFloat (settings.sample (bench.session.nanos 0 cycles)))))
      case takesNext =>
        intro between isBetween
        have takes := ih between (index + 1)
          (earlier.push (.ofFloat (settings.sample (bench.session.nanos 0 cycles))))
        rw [isBetween.session.iterations, isBetween.session.samples] at takes
        simpa [Session.iteration] using takes
      case goesOn =>
        intro between done
        rw [measureAll, done]
      case ends =>
        intro failure after done
        rw [measureAll, done]

end Bench

/-- A run to come: all that it says and takes follows from the session and the settings. -/
structure Course where
  session : Session
  settings : Settings

namespace Course

variable (course : Course)

/-- The invocations of the estimation. -/
def needed : Nat := course.session.needed course.settings.budget

/-- The invocations of an iteration. -/
def cycles : UInt64 := course.session.cycles course.settings.budget

/-- The iterations before the measured ones. -/
def warmups : Nat := course.settings.warmups.toNat

/-- The measured iterations. -/
def iterations : Nat := course.settings.iterations.toNat

/-- The invocations before an iteration. Measured iterations are numbered after the others. -/
def start (iteration : Nat) : Nat := course.needed + iteration * max course.needed 1

/-- The nanoseconds of one operation in an iteration. -/
def nanos (iteration : Nat) : Float :=
  course.session.nanos (course.start iteration) course.cycles

def line (heading : String) (iteration : Nat) : String :=
  heading ++ ": " ++ course.settings.nanosText (course.nanos iteration)

def warmUpLine (index : Nat) : String := course.line ("Warm-up #" ++ toString index) index

def measureLine (index : Nat) : String :=
  course.line ("Iteration #" ++ toString index) (course.warmups + index)

def sample (index : Nat) : Binary64 :=
  .ofFloat (course.settings.sample (course.nanos (course.warmups + index)))

/-- The estimation, and some iterations before the measured ones. -/
def opening (count : Nat) : List Leg :=
  ⟨.estimation, course.needed, []⟩ ::
    course.session.iterations course.settings .warmup "Warm-up #" course.cycles course.needed 0
      count

/-- Some measured iterations. -/
def measures (count : Nat) : List Leg :=
  course.session.iterations course.settings .measurement "Iteration #" course.cycles
    (course.start course.warmups) 0 count

def legs : List Leg := course.opening course.warmups ++ course.measures course.iterations

theorem toNat_cycles : course.cycles.toNat = max course.needed 1 :=
  course.session.toNat_cycles course.settings.budget

theorem start_add (iteration more : Nat) :
    course.start (iteration + more) = course.start iteration + more * course.cycles.toNat := by
  rw [toNat_cycles, start, start, Nat.add_mul, Nat.add_assoc]

theorem start_eq (iteration : Nat) :
    course.start iteration = course.needed + iteration * course.cycles.toNat := by
  rw [toNat_cycles, start]

theorem samples_eq :
    (List.range course.iterations).map course.sample =
      course.session.samples course.settings course.cycles (course.start course.warmups)
        course.iterations := by
  simp only [Session.samples, ← start_add]
  rfl

theorem total_opening (count : Nat) : Leg.total (course.opening count) = course.start count := by
  rw [opening, Leg.total_cons, Session.total_iterations, start_eq]

theorem said_opening (count : Nat) :
    Leg.said (course.opening count) = (List.range count).map course.warmUpLine := by
  rw [opening, Leg.said, List.flatMap_cons, List.nil_append, ← Leg.said, Session.said_iterations]
  simp only [Nat.zero_add, ← start_eq]
  rfl

theorem total_measures (count : Nat) :
    Leg.total (course.measures count) = count * course.cycles.toNat :=
  Session.total_iterations _ _ _ _ _ _ _ _

theorem said_measures (count : Nat) :
    Leg.said (course.measures count) = (List.range count).map course.measureLine := by
  rw [measures, Session.said_iterations]
  simp only [Nat.zero_add, ← start_add]
  rfl

theorem total_legs :
    Leg.total course.legs = course.start (course.warmups + course.iterations) := by
  rw [legs, Leg.total_append, total_opening, total_measures, ← start_add]

theorem said_legs :
    Leg.said course.legs = (List.range course.warmups).map course.warmUpLine ++
      (List.range course.iterations).map course.measureLine := by
  rw [legs, Leg.said_append, said_opening, said_measures]

/-- The legs before an iteration before the measured ones. -/
theorem legs_warmUp {index : Nat} (below : index < course.warmups) :
    ∃ later, course.legs = course.opening index ++
      ⟨.warmup index, course.cycles.toNat, [course.warmUpLine index]⟩ :: later := by
  rcases course.session.iterations_split course.settings .warmup "Warm-up #" course.cycles
    course.needed 0 below with ⟨later, split⟩
  rw [Session.iteration, Nat.zero_add, ← start_eq] at split
  rw [legs, opening, split, opening]
  exact ⟨later ++ course.measures course.iterations, by simp [warmUpLine, line, nanos]⟩

/-- The legs before a measured iteration. -/
theorem legs_measure {index : Nat} (below : index < course.iterations) :
    ∃ later, course.legs = (course.opening course.warmups ++ course.measures index) ++
      ⟨.measurement index, course.cycles.toNat, [course.measureLine index]⟩ :: later := by
  rcases course.session.iterations_split course.settings .measurement "Iteration #" course.cycles
    (course.start course.warmups) 0 below with ⟨later, split⟩
  rw [Session.iteration, Nat.zero_add, ← start_add] at split
  rw [legs, measures, split, measures]
  exact ⟨later, by simp [measureLine, line, nanos]⟩

/-- Every invocation belongs to a phase. -/
theorem exists_iteration {number count : Nat} (estimated : course.needed < number)
    (inside : number ≤ course.start count) :
    ∃ iteration < count, course.start iteration < number ∧
      number ≤ course.start (iteration + 1) := by
  induction count with
  | zero =>
      rw [start, Nat.zero_mul, Nat.add_zero] at inside
      omega
  | succ count ih =>
      by_cases earlier : number ≤ course.start count
      · rcases ih earlier with ⟨iteration, below, bounds⟩
        exact ⟨iteration, by omega, bounds⟩
      · exact ⟨count, by omega, by omega, inside⟩

end Course

namespace Bench

/-- What is left of a run after the estimation. -/
def iterateAll (course : Course) (bench : Bench) : Except Failure (List Binary64) × Bench :=
  match bench.warmUpAll course.settings course.cycles course.warmups 0 with
  | (.error failure, bench) => (.error failure, bench)
  | (.ok (), bench) => bench.measureAll course.settings course.cycles course.iterations 0 #[]

theorem takes_iterateAll {course : Course} {bench : Bench}
    (isAfter : bench.session.IsAfter course.session course.needed) :
    bench.Takes
      (course.session.iterations course.settings .warmup "Warm-up #" course.cycles course.needed 0
        course.warmups ++ course.measures course.iterations)
      ((List.range course.iterations).map course.sample) (bench.iterateAll course) := by
  have takesWarmUps := bench.takes_warmUpAll course.settings course.cycles course.warmups 0
  rw [isAfter.iterations] at takesWarmUps
  apply takesWarmUps.andThen fun between =>
    between.measureAll course.settings course.cycles course.iterations 0 #[]
  case goesOn =>
    intro between done
    rw [iterateAll, done]
  case ends =>
    intro failure after done
    rw [iterateAll, done]
  case takesNext =>
    intro warm isWarm
    have warmAfter : warm.session.IsAfter course.session (course.start course.warmups) := by
      have isAfterAll := isWarm.session.trans isAfter
      rwa [Session.total_iterations, ← course.start_eq] at isAfterAll
    have takesMeasures :=
      warm.takes_measureAll course.settings course.cycles course.iterations 0 #[]
    rw [warmAfter.iterations, warmAfter.samples, List.nil_append] at takesMeasures
    rw [course.samples_eq]
    exact takesMeasures

theorem takes_runAll (bench : Bench) (settings : Settings) :
    let course : Course := ⟨bench.session, settings⟩
    bench.Takes course.legs ((List.range course.iterations).map course.sample)
      (bench.runAll settings) := by
  intro course
  have shape : course.legs = [⟨.estimation, course.needed, []⟩] ++
      (course.session.iterations settings .warmup "Warm-up #" course.cycles course.needed 0
        course.warmups ++ course.measures course.iterations) := rfl
  rw [shape]
  apply (bench.takes_estimate settings).andThen (iterateAll course)
  case goesOn =>
    intro between done
    rw [runAll, done]
    rfl
  case ends =>
    intro failure after done
    rw [runAll, done]
  case takesNext =>
    intro estimated isEstimated
    exact takes_iterateAll isEstimated.session

theorem takes_warmUpAlone (bench : Bench) (settings : Settings) (index : Nat) :
    let course : Course := ⟨bench.session, settings⟩
    bench.Takes
      ([⟨.estimation, course.needed, []⟩] ++
        [bench.session.iteration settings (.warmup index) ("Warm-up #" ++ toString index)
          course.needed course.cycles])
      course.cycles (bench.warmUpAlone settings index) := by
  intro course
  apply (bench.takes_estimate settings).andThen fun between =>
    ((between.warmUp settings index course.cycles).1.map fun _ => course.cycles,
      (between.warmUp settings index course.cycles).2)
  case takesNext =>
    intro between isBetween
    have takes := (between.takes_warmUp settings index course.cycles).map fun _ => course.cycles
    rw [isBetween.session.iteration] at takes
    exact takes
  case goesOn =>
    intro between done
    rw [warmUpAlone, done]
    rfl
  case ends =>
    intro failure after done
    rw [warmUpAlone, done]

/-- The work on a bench has failed at an invocation, after which there was none, and has said some
lines. -/
structure FailsAt {α : Type} (bench : Bench) (number : Nat) (failure : Failure)
    (lines : List String) (result : Except Failure α × Bench) : Prop where
  outcome : result.1 = .error failure
  calls : result.2.session.calls = bench.session.calls + number
  lines : result.2.lines.toList = bench.lines.toList ++ lines

theorem Takes.failsAt {α : Type} {bench : Bench} {legs before later : List Leg} {leg : Leg}
    {value : α} {result : Except Failure α × Bench} (takes : bench.Takes legs value result)
    (shape : legs = before ++ leg :: later) {number : Nat} {panic : Panic}
    (panicsAt : bench.session.PanicsAt number panic) (began : Leg.total before < number)
    (inside : number ≤ Leg.total before + leg.calls) :
    bench.FailsAt number (panic.failure leg.phase) (Leg.said before) result := by
  rcases takes.panics before leg later shape number panic panicsAt began inside with
    ⟨after, rfl, isAfter⟩
  exact ⟨rfl, isAfter.session.calls, isAfter.lines⟩

/-- The phase in which a run fails is that of the first invocation that panics. -/
structure Accounts (bench : Bench) (course : Course)
    (result : Except Failure (List Binary64) × Bench) : Prop where
  estimation : ∀ number panic, course.session.PanicsAt number panic → number ≤ course.needed →
    bench.FailsAt number (panic.failure .estimation) [] result
  /-- The lines of the earlier iterations have been said. -/
  warmUp : ∀ number panic, course.session.PanicsAt number panic →
    ∀ index < course.warmups,
      course.start index < number → number ≤ course.start (index + 1) →
        bench.FailsAt number (panic.failure (.warmup index))
          ((List.range index).map course.warmUpLine) result
  measurement : ∀ number panic, course.session.PanicsAt number panic →
    ∀ index < course.iterations,
      course.start (course.warmups + index) < number →
      number ≤ course.start (course.warmups + index + 1) →
        bench.FailsAt number (panic.failure (.measurement index))
          ((List.range course.warmups).map course.warmUpLine ++
            (List.range index).map course.measureLine) result
  /-- There are no other invocations. -/
  phases : ∀ number, course.needed < number →
    number ≤ course.start (course.warmups + course.iterations) →
      ∃ iteration < course.warmups + course.iterations,
        course.start iteration < number ∧ number ≤ course.start (iteration + 1)
  /-- The benchmark does not panic, or would do so only later. -/
  success :
    (∀ number panic, course.session.PanicsAt number panic →
      course.start (course.warmups + course.iterations) < number) →
    result.1 = .ok ((List.range course.iterations).map course.sample) ∧
      result.2.session.calls =
        bench.session.calls + course.start (course.warmups + course.iterations) ∧
      result.2.lines.toList = bench.lines.toList ++
        ((List.range course.warmups).map course.warmUpLine ++
          (List.range course.iterations).map course.measureLine)

/-- The first invocation that panics settles what becomes of a run. -/
theorem runAll_accounts (bench : Bench) (settings : Settings) :
    let course : Course := ⟨bench.session, settings⟩
    bench.Accounts course (bench.runAll settings) := by
  intro course
  have takes : bench.Takes course.legs ((List.range course.iterations).map course.sample)
      (bench.runAll settings) := bench.takes_runAll settings
  constructor
  case estimation =>
    intro number panic panicsAt inside
    have shape : course.legs = [] ++ ⟨.estimation, course.needed, []⟩ :: _ := rfl
    apply takes.failsAt shape panicsAt panicsAt.positive
    rwa [Leg.total_nil, Nat.zero_add]
  case warmUp =>
    intro number panic panicsAt index below began inside
    rcases course.legs_warmUp below with ⟨later, shape⟩
    rw [← course.said_opening]
    apply takes.failsAt shape panicsAt
    · rwa [course.total_opening]
    · rwa [course.total_opening, ← Nat.one_mul course.cycles.toNat, ← course.start_add]
  case measurement =>
    intro number panic panicsAt index below began inside
    rcases course.legs_measure below with ⟨later, shape⟩
    have total : Leg.total (course.opening course.warmups ++ course.measures index) =
        course.start (course.warmups + index) := by
      rw [Leg.total_append, course.total_opening, course.total_measures, ← course.start_add]
    rw [← course.said_opening, ← course.said_measures, ← Leg.said_append]
    apply takes.failsAt shape panicsAt
    · rwa [total]
    · rwa [total, ← Nat.one_mul course.cycles.toNat, ← course.start_add]
  case phases =>
    intro number estimated inside
    exact course.exists_iteration estimated inside
  case success =>
    intro panicsLater
    have quiet : bench.session.IsQuiet (Leg.total course.legs) := by
      rcases bench.session.isQuiet_or_panicsAt (Leg.total course.legs) with
        quiet | ⟨number, inside, panic, panicsAt⟩
      · exact quiet
      · have later := panicsLater number panic panicsAt
        rw [course.total_legs] at inside
        omega
    rcases takes.quiet quiet with ⟨after, done, isAfter⟩
    rw [done, ← course.total_legs, ← course.said_legs]
    exact ⟨rfl, isAfter.session.calls, isAfter.lines⟩

end Bench

namespace Demonstration

def wornOut : Panic := scriptedPanic (.text "worn out")

/-- A benchmark that fills an iteration with two invocations, and panics when it is invoked for the
ninth time. -/
def wearing : Benchmark :=
  ⟨"wear", .plain, fun _ call => ⟨0, if call = 9 then some wornOut else none⟩,
    fun _ _ cycles => .ofNat (500000 * cycles)⟩

/-- Settings with short iterations. -/
def hasty : Settings := { Settings.standard with iterationTime := ⟨1, .milliseconds⟩ }

theorem needed_wearing : (freshBench wearing).session.needed hasty.budget = 2 := by
  rw [Session.needed, Nat.find_eq_iff]
  decide +kernel

/-- The ninth invocation is the first in the measured iterations, after two for the estimation and
six before. -/
theorem runAll_accounts_wearing :
    let bench := freshBench wearing
    let course : Course := ⟨bench.session, hasty⟩
    bench.session.PanicsAt 9 wornOut ∧ course.start 3 = 8 ∧
      bench.FailsAt 9 (wornOut.failure (.measurement 0))
        [course.warmUpLine 0, course.warmUpLine 1, course.warmUpLine 2]
        (bench.runAll hasty) := by
  intro bench course
  have start (iteration : Nat) : course.start iteration = 2 + iteration * 2 := by
    rw [Course.start, Course.needed, needed_wearing]
    rfl
  have panicsAt : bench.session.PanicsAt 9 wornOut := by
    refine ⟨by decide, ?_, rfl⟩
    intro number _ before
    have earlier : 0 + number ≠ 9 := by omega
    exact if_neg earlier
  refine ⟨panicsAt, start 3, ?_⟩
  exact (bench.runAll_accounts hasty).measurement 9 wornOut panicsAt 0 (by decide)
    (by rw [start]; decide) (by rw [start]; decide)

end Demonstration

end Microbench
