import Microbench.Proofs.Measurement.Phases
import Microbench.Proofs.Suite.Conservation

/-!
# Flushes of a run

A run flushes the sink after each of its iterations if an option asks for it, and never otherwise.
So with the option the sink is empty whenever an iteration is over, and what the estimation has
consumed leaves the sink in the first flush, together with what the first iteration has consumed.
Nothing else in a run takes notice of the option: the samples and the lines follow from what the
clock shows.
-/

namespace Microbench

/-- What a flush has returned. -/
def Activity.flushed? : Activity → Option UInt64
  | .flush values => some values
  | _ => none

/-- What the flushes of a journal have returned, in order. -/
def Journal.flushes (journal : Journal) : List UInt64 := journal.toList.filterMap Activity.flushed?

namespace Bench

/-- All that was done with the session is in the journal, so the flushes that came to the journal
are those that have emptied the sink. -/
structure Accrues (later bench : Bench) (released : List UInt64) : Prop where
  conserves : bench.session.Conserves released later.session
  flushes : later.journal.flushes = bench.journal.flushes ++ released

variable {bench later : Bench} {settings : Settings}

theorem accrues_refl (bench : Bench) : bench.Accrues bench [] :=
  ⟨.refl bench.session, (List.append_nil _).symm⟩

theorem Accrues.trans {between : Bench} {released others : List UInt64}
    (second : later.Accrues between others) (first : between.Accrues bench released) :
    later.Accrues bench (released ++ others) := by
  refine ⟨first.conserves.trans second.conserves, ?_⟩
  rw [second.flushes, first.flushes, List.append_assoc]

theorem accrues_run (bench : Bench) (cycles : Nat) : (bench.run cycles).2.Accrues bench [] := by
  refine ⟨bench.session.run_conserves cycles, ?_⟩
  rw [journal_run, Journal.flushes, Array.toList_push, List.filterMap_append]
  rfl

theorem accrues_flush (bench : Bench) : bench.flush.Accrues bench [bench.session.flush.1] := by
  refine ⟨bench.session.flush_conserves, ?_⟩
  change Journal.flushes (bench.journal.push (.flush bench.session.flush.1)) = _
  rw [Journal.flushes, Array.toList_push, List.filterMap_append]
  rfl

theorem accrues_print (bench : Bench) (line : String) : (bench.print line).Accrues bench [] :=
  ⟨bench.accrues_refl.conserves, bench.accrues_refl.flushes⟩

/-- The bench when an iteration is over. -/
def close (settings : Settings) (bench : Bench) : Bench :=
  if settings.advanced.flushesAfterIteration then bench.flush else bench

theorem iterate_eq (bench : Bench) (settings : Settings) (heading : String) (cycles : UInt64) :
    bench.iterate settings heading cycles =
      match bench.run cycles.toNat with
      | (.error panic, after) => (.error panic, after)
      | (.ok elapsed, after) =>
        (.ok (perOperation elapsed cycles),
          (after.close settings).print
            (heading ++ ": " ++ settings.nanosText (perOperation elapsed cycles))) :=
  rfl

/-- Work conserves what is consumed, and flushes only if the option asks for it. -/
def Treats (later bench : Bench) (settings : Settings) : Prop :=
  ∃ released, later.Accrues bench released ∧
    (settings.advanced.flushesAfterIteration = false → released = [])

theorem treats_refl (bench : Bench) (settings : Settings) : bench.Treats bench settings :=
  ⟨[], bench.accrues_refl, fun _ => rfl⟩

theorem Accrues.treats (accrues : later.Accrues bench []) (settings : Settings) :
    later.Treats bench settings :=
  ⟨[], accrues, fun _ => rfl⟩

theorem Treats.trans {between : Bench} (second : later.Treats between settings)
    (first : between.Treats bench settings) : later.Treats bench settings := by
  rcases first with ⟨released, accrues, kept⟩
  rcases second with ⟨others, accruesMore, keptMore⟩
  refine ⟨released ++ others, accruesMore.trans accrues, ?_⟩
  intro off
  rw [kept off, keptMore off, List.append_nil]

theorem treats_close (bench : Bench) (settings : Settings) :
    (bench.close settings).Treats bench settings := by
  rw [close]
  split
  · rename_i on
    refine ⟨_, bench.accrues_flush, ?_⟩
    intro off
    rw [off] at on
    cases on
  · exact bench.treats_refl settings

theorem treats_iterate (bench : Bench) (settings : Settings) (heading : String)
    (cycles : UInt64) : (bench.iterate settings heading cycles).2.Treats bench settings := by
  have ran := (bench.accrues_run cycles.toNat).treats settings
  rw [iterate_eq]
  cases outcome : bench.run cycles.toNat with
  | mk result after =>
      rw [outcome] at ran
      cases result with
      | error panic => exact ran
      | ok elapsed =>
          have printed := ((after.close settings).accrues_print (heading ++ ": " ++
            settings.nanosText (perOperation elapsed cycles))).treats settings
          exact printed.trans ((after.treats_close settings).trans ran)

theorem accrues_fill (budget : UInt64) (tally : Tally) (bench : Bench) :
    (fill budget tally bench).2.Accrues bench [] := by
  induction tally, bench using fill.induct budget with
  | case1 tally bench room panic after ran =>
      have accrues := bench.accrues_run 1
      rw [fill, if_pos room, ran]
      rwa [ran] at accrues
  | case2 tally bench room elapsed after ran ih =>
      have accrues := bench.accrues_run 1
      rw [fill, if_pos room, ran]
      rw [ran] at accrues
      exact ih.trans accrues
  | case3 tally bench full =>
      rw [fill, if_neg full]
      exact bench.accrues_refl

theorem treats_warmUpAll (bench : Bench) (settings : Settings) (cycles : UInt64)
    (count index : Nat) :
    (warmUpAll settings cycles count index bench).2.Treats bench settings := by
  induction count generalizing bench index with
  | zero => exact bench.treats_refl settings
  | succ count ih =>
      have treats := bench.treats_iterate settings ("Warm-up #" ++ toString index) cycles
      rw [warmUpAll]
      split
      · rename_i failure after ended
        rw [show after = (bench.warmUp settings index cycles).2 by rw [ended]]
        exact treats
      · rename_i after ended
        rw [show after = (bench.warmUp settings index cycles).2 by rw [ended]]
        exact (ih _ (index + 1)).trans treats

theorem treats_measureAll (bench : Bench) (settings : Settings) (cycles : UInt64)
    (count index : Nat) (samples : Array Binary64) :
    (measureAll settings cycles count index samples bench).2.Treats bench settings := by
  induction count generalizing bench index samples with
  | zero => exact bench.treats_refl settings
  | succ count ih =>
      have treats := bench.treats_iterate settings ("Iteration #" ++ toString index) cycles
      rw [measureAll]
      split
      · rename_i failure after ended
        rw [show after = (bench.measure settings index cycles).2 by rw [ended]]
        exact treats
      · rename_i sample after ended
        rw [show after = (bench.measure settings index cycles).2 by rw [ended]]
        exact (ih _ (index + 1) _).trans treats

theorem treats_runAll (bench : Bench) (settings : Settings) :
    (bench.runAll settings).2.Treats bench settings := by
  have estimated := (accrues_fill settings.budget .empty bench).treats settings
  rw [runAll]
  split
  · rename_i failure after ended
    rw [show after = (bench.estimate settings).2 by rw [ended]]
    exact estimated
  · rename_i cycles after ended
    rw [show after = (bench.estimate settings).2 by rw [ended]]
    have warmedUp := (bench.estimate settings).2.treats_warmUpAll settings cycles
      settings.warmups.toNat 0
    split
    · rename_i failure warm ended
      rw [ended] at warmedUp
      exact warmedUp.trans estimated
    · rename_i warm ended
      rw [ended] at warmedUp
      exact (treats_measureAll _ _ _ _ _ _).trans (warmedUp.trans estimated)

/-- What is left of a run after some of its iterations. Measured iterations are numbered after the
others. -/
def goOn (course : Course) (completed : Nat) (bench : Bench) :
    Except Failure (List Binary64) × Bench :=
  match bench.warmUpAll course.settings course.cycles (course.warmups - completed) completed with
  | (.error failure, bench) => (.error failure, bench)
  | (.ok (), bench) =>
    bench.measureAll course.settings course.cycles
      (course.iterations - (completed - course.warmups)) (completed - course.warmups)
      ((List.range (completed - course.warmups)).map course.sample).toArray

/-- What an iteration says first. -/
def heading (course : Course) (iteration : Nat) : String :=
  if iteration < course.warmups then "Warm-up #" ++ toString iteration
  else "Iteration #" ++ toString (iteration - course.warmups)

theorem goOn_of_iterate {course : Course} {completed : Nat} {between after : Bench}
    (below : completed < course.warmups + course.iterations)
    (isAfter : between.session.IsAfter course.session (course.start completed))
    (done : between.iterate course.settings (heading course completed) course.cycles =
      (.ok (between.session.nanos 0 course.cycles), after)) :
    between.goOn course completed = after.goOn course (completed + 1) := by
  by_cases isWarmUp : completed < course.warmups
  · have count : course.warmups - completed = course.warmups - (completed + 1) + 1 := by omega
    have noneMeasured : completed + 1 - course.warmups = completed - course.warmups := by omega
    rw [heading, if_pos isWarmUp] at done
    rw [goOn, goOn, count, warmUpAll, warmUp, done, noneMeasured]
    rfl
  · have noneLeft : course.warmups - completed = 0 := by omega
    have noneLeftThen : course.warmups - (completed + 1) = 0 := by omega
    have index : completed + 1 - course.warmups = completed - course.warmups + 1 := by omega
    have count : course.iterations - (completed - course.warmups) =
        course.iterations - (completed - course.warmups + 1) + 1 := by omega
    have number : course.warmups + (completed - course.warmups) = completed := by omega
    have sample :
        Binary64.ofFloat (course.settings.sample (between.session.nanos 0 course.cycles)) =
          course.sample (completed - course.warmups) := by
      rw [Course.sample, number, Course.nanos, isAfter.nanos, Nat.add_zero]
    rw [heading, if_neg isWarmUp] at done
    rw [goOn, goOn, noneLeft, noneLeftThen, index, warmUpAll, warmUpAll]
    dsimp only
    rw [count, measureAll, measure, done]
    simp only [Except.map, Phase.capture, sample, List.range_succ, List.map_append,
      List.map_singleton, List.push_toArray]

/-- A run has come so far: some of its iterations are over, and it goes on with the next one. -/
structure HasCompleted (between bench : Bench) (settings : Settings) (completed : Nat) :
    Prop where
  isAfter : between.session.IsAfter bench.session
    (Course.start ⟨bench.session, settings⟩ completed)
  goesOn : bench.runAll settings = between.goOn ⟨bench.session, settings⟩ completed

end Bench

/-- What the flush after an iteration returns: the first one all that has been consumed since the
beginning, in the estimation too, and each later one what the iteration has consumed. -/
def Course.released (course : Course) : Nat → UInt64
  | 0 => (course.session.sink.consume (course.session.consumed (course.start 1))).consumed
  | iteration + 1 =>
    .ofNat (course.session.consumed (course.start (iteration + 2)) -
      course.session.consumed (course.start (iteration + 1)))

namespace Bench

variable {bench between after : Bench} {settings : Settings} {completed : Nat}

/-- An iteration in which nothing panics runs a block and closes. -/
theorem iterate_quiet {cycles : UInt64} (quiet : bench.session.IsQuiet cycles.toNat)
    (settings : Settings) (heading : String) :
    ∃ ran : Bench, ran.session.IsFed bench.session cycles.toNat ∧
      ran.journal.flushes = bench.journal.flushes ∧
      ∃ line, bench.iterate settings heading cycles =
        (.ok (bench.session.nanos 0 cycles), (ran.close settings).print line) := by
  rcases (bench.attempts_run cycles.toNat).quiet quiet with ⟨ran, done, isAfter⟩
  have accrues := bench.accrues_run cycles.toNat
  rw [done] at accrues
  rcases accrues.conserves.isFed with ⟨count, isFed⟩
  refine ⟨ran, isFed.of_isAfter isAfter.session, ?_,
    heading ++ ": " ++ settings.nanosText (bench.session.nanos 0 cycles), ?_⟩
  · rw [accrues.flushes, List.append_nil]
  · rw [iterate_eq, done]
    rfl

/-- With the option, the sink of a run has been emptied after each iteration. -/
structure IsEmptied (between bench : Bench) (settings : Settings) (completed : Nat) :
    Prop where
  /-- Only the estimation leaves something behind. -/
  sink : between.session.sink =
    if completed = 0 then
      bench.session.sink.consume
        (bench.session.consumed (Course.needed ⟨bench.session, settings⟩))
    else .empty
  flushes : between.journal.flushes = bench.journal.flushes ++
    (List.range completed).map (Course.released ⟨bench.session, settings⟩)

theorem hasCompleted_zero
    (quiet : bench.session.IsQuiet (Course.needed ⟨bench.session, settings⟩)) :
    ∃ between : Bench, between.HasCompleted bench settings 0 ∧
      between.IsEmptied bench settings 0 := by
  let course : Course := ⟨bench.session, settings⟩
  rcases (bench.attempts_fill settings.budget).quiet quiet with ⟨after, filled, isAfter⟩
  have accrues := accrues_fill settings.budget .empty bench
  rw [filled] at accrues
  rcases accrues.conserves.isFed with ⟨count, isFed⟩
  have start : course.start 0 = course.needed := by
    rw [Course.start, Nat.zero_mul, Nat.add_zero]
  have estimated : bench.estimate settings = (.ok course.cycles, after) := by
    rw [estimate, filled, Course.cycles, ← Session.max_calls_tally]
    rfl
  refine ⟨after, ⟨?_, ?_⟩, ?_, ?_⟩
  · rw [start]
    exact isAfter.session
  · rw [runAll, estimated, goOn]
    simp only [Nat.zero_sub, Nat.sub_zero]
    rfl
  · exact (isFed.of_isAfter isAfter.session).sink
  · rw [accrues.flushes]
    rfl

theorem HasCompleted.next (hasCompleted : between.HasCompleted bench settings completed)
    (below : completed < Course.warmups ⟨bench.session, settings⟩ +
      Course.iterations ⟨bench.session, settings⟩)
    (quiet : bench.session.IsQuiet (Course.start ⟨bench.session, settings⟩ (completed + 1))) :
    ∃ ran : Bench, ran.session.IsFed between.session
        (Course.cycles ⟨bench.session, settings⟩).toNat ∧
      ran.journal.flushes = between.journal.flushes ∧
      ∃ line, ((ran.close settings).print line).HasCompleted bench settings (completed + 1) := by
  let course : Course := ⟨bench.session, settings⟩
  have isNext : course.start (completed + 1) = course.start completed + course.cycles.toNat := by
    rw [course.start_add, Nat.one_mul]
  change bench.session.IsQuiet (course.start (completed + 1)) at quiet
  rw [isNext] at quiet
  rcases iterate_quiet (hasCompleted.isAfter.isQuiet quiet) settings (heading course completed)
    with ⟨ran, isFed, flushes, line, done⟩
  refine ⟨ran, isFed, flushes, line, ?_, ?_⟩
  · change ((ran.close settings).print line).session.IsAfter bench.session
      (course.start (completed + 1))
    rw [isNext]
    have closed : ((ran.close settings).print line).session.IsAfter ran.session 0 := by
      rw [close]
      split
      · exact ⟨rfl, rfl, rfl, rfl⟩
      · exact ⟨rfl, rfl, rfl, rfl⟩
    exact (closed.trans isFed.isAfter).trans hasCompleted.isAfter
  · rw [hasCompleted.goesOn]
    exact goOn_of_iterate below hasCompleted.isAfter done

theorem IsEmptied.next (isEmptied : between.IsEmptied bench settings completed)
    (isAfter : between.session.IsAfter bench.session
      (Course.start ⟨bench.session, settings⟩ completed))
    (on : settings.advanced.flushesAfterIteration = true) {ran : Bench}
    (isFed : ran.session.IsFed between.session
      (Course.cycles ⟨bench.session, settings⟩).toNat)
    (flushes : ran.journal.flushes = between.journal.flushes) (line : String) :
    ((ran.close settings).print line).IsEmptied bench settings (completed + 1) := by
  let course : Course := ⟨bench.session, settings⟩
  have isClosed : ran.close settings = ran.flush := if_pos on
  have consumed : bench.session.consumed (course.start (completed + 1)) =
      bench.session.consumed (course.start completed) +
        between.session.consumed course.cycles.toNat := by
    rw [← isAfter.consumed_add, course.start_add, Nat.one_mul]
  have released : ran.session.sink.consumed = course.released completed := by
    rw [isFed.sink, isEmptied.sink]
    cases completed with
    | zero =>
        have start : course.start 0 = course.needed := by
          rw [Course.start, Nat.zero_mul, Nat.add_zero]
        rw [if_pos rfl, Sink.consume_consume, Course.released, consumed, start]
    | succ completed =>
        rw [if_neg (Nat.succ_ne_zero completed), Course.released, consumed,
          Nat.add_sub_cancel_left]
        exact UInt64.zero_add _
  constructor
  · rw [if_neg (Nat.succ_ne_zero completed), isClosed]
    rfl
  · have accrued := (accrues_flush ran).flushes
    have own : ran.session.flush.1 = course.released completed := released
    change (ran.close settings).journal.flushes = _
    rw [isClosed, accrued, own, flushes, isEmptied.flushes, List.append_assoc, List.range_succ,
      List.map_append]
    rfl

theorem exists_hasCompleted
    (inside : completed ≤ Course.warmups ⟨bench.session, settings⟩ +
      Course.iterations ⟨bench.session, settings⟩)
    (quiet : bench.session.IsQuiet (Course.start ⟨bench.session, settings⟩ completed))
    (on : settings.advanced.flushesAfterIteration = true) :
    ∃ between : Bench, between.HasCompleted bench settings completed ∧
      between.IsEmptied bench settings completed := by
  induction completed with
  | zero =>
      apply hasCompleted_zero
      rwa [Course.start, Nat.zero_mul, Nat.add_zero] at quiet
  | succ completed ih =>
      have earlier : Course.start ⟨bench.session, settings⟩ completed ≤
          Course.start ⟨bench.session, settings⟩ (completed + 1) := by
        rw [Course.start_add]
        omega
      rcases ih (by omega) (quiet.le earlier) with ⟨between, hasCompleted, isEmptied⟩
      rcases hasCompleted.next inside quiet with ⟨ran, isFed, flushes, line, next⟩
      exact ⟨_, next, isEmptied.next hasCompleted.isAfter on isFed flushes line⟩

end Bench

namespace Session

/-- Two sessions in which the clock shows the same and the same invocations panic. -/
structure Resembles (other session : Session) : Prop where
  readings : ∀ earlier cycles, other.reading earlier cycles = session.reading earlier cycles
  panics : ∀ number, other.panic? number = session.panic? number

variable {other session : Session}

theorem Resembles.nanos (resembles : other.Resembles session) (earlier : Nat) (cycles : UInt64) :
    other.nanos earlier cycles = session.nanos earlier cycles := by
  rw [Session.nanos, Session.nanos, resembles.readings]

theorem Resembles.needed (resembles : other.Resembles session) (budget : UInt64) :
    other.needed budget = session.needed budget := by
  have used : other.used = session.used := by
    funext count
    simp only [Session.used, resembles.readings]
  apply (other.isLeast_needed budget).unique
  rw [used]
  exact session.isLeast_needed budget

theorem Resembles.isQuiet (resembles : other.Resembles session) {count : Nat}
    (quiet : session.IsQuiet count) : other.IsQuiet count := by
  intro number positive inside
  rw [resembles.panics]
  exact quiet number positive inside

theorem Resembles.panicsAt (resembles : other.Resembles session) {number : Nat} {panic : Panic}
    (panicsAt : session.PanicsAt number panic) : other.PanicsAt number panic := by
  refine ⟨panicsAt.positive, resembles.isQuiet panicsAt.quiet, ?_⟩
  rw [resembles.panics]
  exact panicsAt.panics

end Session

namespace Course

/-- Options change neither the legs of a run nor its samples. -/
theorem legs_of_resembles {other session : Session} (resembles : other.Resembles session)
    (settings : Settings) (advanced : AdvancedOptions) :
    Course.legs ⟨other, { settings with advanced := advanced }⟩ =
        Course.legs ⟨session, settings⟩ ∧
      Course.sample ⟨other, { settings with advanced := advanced }⟩ =
        Course.sample ⟨session, settings⟩ := by
  have needed : Course.needed ⟨other, { settings with advanced := advanced }⟩ =
      Course.needed ⟨session, settings⟩ := resembles.needed settings.budget
  have cycles : Course.cycles ⟨other, { settings with advanced := advanced }⟩ =
      Course.cycles ⟨session, settings⟩ := by
    rw [Course.cycles, Course.cycles, Session.cycles, Session.cycles]
    exact congrArg (fun needed => UInt64.ofNat (max needed 1)) needed
  constructor
  · simp only [legs, opening, measures, start, needed, cycles, Session.iterations,
      Session.iteration, resembles.nanos]
    rfl
  · funext index
    simp only [sample, Course.nanos, start, needed, cycles, resembles.nanos]
    rfl

end Course

namespace Bench

variable {bench other : Bench}

/-- Work in the same legs with the same value comes to the same end and says the same. -/
theorem Takes.agrees {α : Type} {legs : List Leg} {value : α}
    {result otherResult : Except Failure α × Bench}
    (resembles : other.session.Resembles bench.session)
    (takes : bench.Takes legs value result) (otherTakes : other.Takes legs value otherResult) :
    otherResult.1 = result.1 ∧
      ∃ lines, result.2.lines.toList = bench.lines.toList ++ lines ∧
        otherResult.2.lines.toList = other.lines.toList ++ lines := by
  rcases bench.session.isQuiet_or_panicsAt (Leg.total legs) with
    quiet | ⟨number, inside, panic, panicsAt⟩
  · rcases takes.quiet quiet with ⟨after, rfl, isAfter⟩
    rcases otherTakes.quiet (resembles.isQuiet quiet) with ⟨otherAfter, rfl, isOtherAfter⟩
    exact ⟨rfl, _, isAfter.lines, isOtherAfter.lines⟩
  · rcases Leg.exists_leg panicsAt.positive inside with ⟨before, leg, later, shape, began, ended⟩
    rcases takes.panics before leg later shape number panic panicsAt began ended with
      ⟨after, rfl, isAfter⟩
    rcases otherTakes.panics before leg later shape number panic (resembles.panicsAt panicsAt)
      began ended with ⟨otherAfter, rfl, isOtherAfter⟩
    exact ⟨rfl, _, isAfter.lines, isOtherAfter.lines⟩

theorem runAll_agrees (resembles : other.session.Resembles bench.session) (settings : Settings)
    (advanced : AdvancedOptions) :
    (other.runAll { settings with advanced := advanced }).1 = (bench.runAll settings).1 ∧
      ∃ lines, (bench.runAll settings).2.lines.toList = bench.lines.toList ++ lines ∧
        (other.runAll { settings with advanced := advanced }).2.lines.toList =
          other.lines.toList ++ lines := by
  rcases Course.legs_of_resembles resembles settings advanced with ⟨legs, sample⟩
  have takes := bench.takes_runAll settings
  have otherTakes := other.takes_runAll { settings with advanced := advanced }
  dsimp only at takes otherTakes
  rw [legs, sample] at otherTakes
  exact takes.agrees resembles otherTakes

/-- What a run does with the sink. -/
structure TreatsSink (bench : Bench) (settings : Settings) : Prop where
  /-- In all phases, and wherever the run ends, nothing that is consumed gets lost. -/
  conserves : ∃ released, (bench.runAll settings).2.Accrues bench released
  /-- With the option the sink is empty when an iteration is over, whatever becomes of the run
  after it. -/
  emptied : settings.advanced.get? AdvancedOptions.flushAfterIteration = some "true" →
    let course : Course := ⟨bench.session, settings⟩
    ∀ completed ≤ course.warmups + course.iterations,
      bench.session.IsQuiet (course.start completed) →
        ∃ between : Bench, between.HasCompleted bench settings completed ∧
          (0 < completed → between.session.sink = .empty) ∧
          between.journal.flushes =
            bench.journal.flushes ++ (List.range completed).map course.released
  /-- Without the option there is no flush. -/
  kept : settings.advanced.get? AdvancedOptions.flushAfterIteration ≠ some "true" →
    (bench.runAll settings).2.journal.flushes = bench.journal.flushes
  /-- If the clock shows the same, other options change neither samples nor lines. -/
  unaffected : ∀ (other : Bench) (advanced : AdvancedOptions),
    other.session.Resembles bench.session →
      (other.runAll { settings with advanced := advanced }).1 = (bench.runAll settings).1 ∧
        ∃ lines, (bench.runAll settings).2.lines.toList = bench.lines.toList ++ lines ∧
          (other.runAll { settings with advanced := advanced }).2.lines.toList =
            other.lines.toList ++ lines

/-- Nothing that is consumed gets lost, neither in a session nor in a run, and a run flushes the
sink as the option says, which makes no other difference. -/
theorem conserves_and_treatsSink :
    (∀ suite index parameters session activities,
      Session.start suite index parameters = (.ok session, activities) →
        session.sink = .empty) ∧
      (∀ (session : Session) actions,
        session.Conserves (session.performAll actions).1 (session.performAll actions).2) ∧
      ∀ (bench : Bench) settings, bench.TreatsSink settings := by
  refine ⟨?_, ?_, ?_⟩
  · intro suite index parameters session activities started
    exact Session.sink_start started
  · intro session actions
    exact session.performAll_conserves actions
  · intro bench settings
    rcases bench.treats_runAll settings with ⟨released, accrues, none⟩
    constructor
    case conserves => exact ⟨released, accrues⟩
    case emptied =>
      intro on course completed inside quiet
      have flushes : settings.advanced.flushesAfterIteration = true := beq_iff_eq.mpr on
      rcases exists_hasCompleted inside quiet flushes with ⟨between, hasCompleted, isEmptied⟩
      refine ⟨between, hasCompleted, ?_, isEmptied.flushes⟩
      intro positive
      rw [isEmptied.sink, if_neg (Nat.ne_of_gt positive)]
    case kept =>
      intro off
      have noFlushes : settings.advanced.flushesAfterIteration = false :=
        beq_eq_false_iff_ne.mpr off
      rw [accrues.flushes, none noFlushes, List.append_nil]
    case unaffected =>
      intro other advanced resembles
      exact runAll_agrees resembles settings advanced

end Bench

namespace Demonstration

/-- A benchmark that hands a value to the sink and returns another, and fills an iteration with two
invocations. -/
def feeding : Benchmark :=
  ⟨"feed", .sinking, fun _ _ => ⟨1, none⟩, fun _ _ cycles => .ofNat (500000 * cycles)⟩

/-- Settings with short iterations and a flush after each of them. -/
def tidy : Settings :=
  { hasty with advanced := ⟨[(AdvancedOptions.flushAfterIteration, "true")]⟩ }

/-- The first flush returns what was consumed in two estimating invocations and the two after them,
the others what was consumed in two. -/
theorem conserves_and_treatsSink_feeding :
    let bench := freshBench feeding
    ∃ between : Bench, between.HasCompleted bench tidy 6 ∧ between.session.sink = .empty ∧
      between.journal.flushes = [8, 4, 4, 4, 4, 4] := by
  intro bench
  let course : Course := ⟨bench.session, tidy⟩
  have quiet : bench.session.IsQuiet (course.start 6) := by
    intro _ _ _
    rfl
  have treatsSink := Bench.conserves_and_treatsSink.2.2 bench tidy
  rcases treatsSink.emptied rfl 6 (by decide) quiet with
    ⟨between, hasCompleted, empty, flushes⟩
  refine ⟨between, hasCompleted, empty (by decide), ?_⟩
  rw [flushes]
  decide +kernel

end Demonstration

end Microbench
