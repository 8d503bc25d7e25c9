import BootScript.Proofs.Failures
import BootScript.Proofs.Spilling

/-!
# Confinement

A shell whose sink takes a limited number of bytes does what it would do without the limit
until a write does not fit.  Then it fails, and the failure is handed on to the end of the
line, with one exception: a line that fails anyhow may lose its complaint.
-/

namespace BootScript

namespace Shell

variable {id : ShellId}

/-! ## Executions with and without a limit -/

section Confining

variable {Value Result : Type} [Ending Value] [Ending Result] {recent : List Event}

/-- An execution on a sink without a limit, with what it recorded. -/
structure Unlimited (id : ShellId) (execution : Execution Shells Value)
    (machine : Machine Shells) (value : Value) (after : Machine Shells) (recent : List Event) :
    Prop where
  room : (machine.world.get id).sink.room = none
  returned : execution machine = (.ok value, after)
  recorded : Recorded id machine after recent

/-- A limit on the sink changes nothing unless it is exceeded. -/
structure Confined (id : ShellId) (execution : Execution Shells Value) : Prop where
  accounted : Accounted id execution
  fits {machine value after recent} (room : Nat) :
    Unlimited id execution machine value after recent →
    (transcript id recent).length ≤ room →
      execution (withRoom id (some room) machine) =
        (.ok value, withRoom id (some (room - (transcript id recent).length)) after)
  spills {machine value after recent room other left} :
    Unlimited id execution machine value after recent →
    room < (transcript id recent).length →
    execution (withRoom id (some room) machine) = (.ok other, left) →
      Spilled id room machine recent value other left

theorem Confined.of_unwritten {execution : Execution Shells Value}
    (accounted : Accounted id execution)
    (unwritten : ∀ machine, (execution machine).2.world = machine.world)
    (same : ∀ machine room, execution (withRoom id room machine) =
      ((execution machine).1, withRoom id room (execution machine).2)) :
    Confined id execution := by
  have silent {machine value after recent}
      (run : Unlimited id execution machine value after recent) : transcript id recent = [] := by
    have world := unwritten machine
    rw [run.returned] at world
    exact run.recorded.silent world
  refine ⟨accounted, ?_, ?_⟩
  · intro machine value after recent room run _
    rw [same, run.returned, silent run, List.length_nil, Nat.sub_zero]
  · intro machine value after recent room other left run spills
    simp [silent run] at spills

theorem confined_pure (value : Value) :
    Confined id (pure value : Execution Shells Value) :=
  .of_unwritten (accounted_pure value) (fun _ => rfl) fun _ _ => rfl

theorem Unlimited.of_bind {first : Execution Shells Value}
    {next : Value → Execution Shells Result} {machine after : Machine Shells} {result : Result}
    (run : Unlimited id (first >>= next) machine result after recent)
    (begins : Accounted id first) (continues : ∀ value, Accounted id (next value)) :
    ∃ value between earlier later, Unlimited id first machine value between earlier ∧
      Unlimited id (next value) between result after later ∧ recent = later ++ earlier := by
  obtain ⟨value, between, outcome, returned⟩ := Execution.bind_eq_ok run.returned
  obtain ⟨earlier, sooner, -⟩ := begins machine value between run.room outcome
  obtain ⟨later, further, -⟩ := continues value between result after sooner.unlimited returned
  exact ⟨value, between, earlier, later, ⟨run.room, outcome, sooner⟩,
    ⟨sooner.unlimited, returned, further⟩, run.recorded.unique (sooner.trans further)⟩

theorem Confined.bind {beginning : Execution Shells Value}
    {next : Value → Execution Shells Result} (begins : Confined id beginning)
    (continues : ∀ value, Ending.status value = Status.success → Confined id (next value))
    (passes : PassesFailures next) : Confined id (beginning >>= next) := by
  have confined (value : Value) : Confined id (next value) :=
    passes.forall_next confined_pure continues value
  refine ⟨begins.accounted.bind (fun value _ => (confined value).accounted) passes, ?_, ?_⟩
  · intro machine result after recent room run fits
    obtain ⟨value, between, earlier, later, first, second, rfl⟩ :=
      run.of_bind begins.accounted fun value => (confined value).accounted
    rw [transcript_append, List.length_append] at fits ⊢
    rw [Execution.bind_apply, begins.fits room first (by omega)]
    have continued := (confined value).fits (room - (transcript id earlier).length) second
      (by omega)
    rwa [Nat.sub_sub] at continued
  · intro machine result after recent room other left run spills limited
    obtain ⟨value, between, earlier, later, first, second, rfl⟩ :=
      run.of_bind begins.accounted fun value => (confined value).accounted
    rw [transcript_append, List.length_append] at spills
    by_cases sooner : room < (transcript id earlier).length
    · obtain ⟨early, middle, outcome, limited⟩ := Execution.bind_eq_ok limited
      have spilled := begins.spills first sooner outcome
      obtain ⟨handed, same, status, -⟩ := passes early spilled.failed
      rw [same] at limited
      obtain ⟨rfl, rfl⟩ : handed = other ∧ middle = left := by simpa using limited
      by_cases succeeded : Ending.status value = Status.success
      · exact spilled.surpassed sooner (.inl succeeded) status fun _ full => full
      · obtain ⟨passed, pure, alike, unreported⟩ := passes value succeeded
        have returned := second.returned
        rw [pure] at returned
        obtain ⟨rfl, rfl⟩ : passed = result ∧ between = after := by simpa using returned
        exact spilled.handedOn (second.recorded.silent rfl) alike unreported.mp status
          fun _ full => full
    · rw [Execution.bind_apply, begins.fits room first (by omega)] at limited
      have last := (confined value).spills second (by omega) limited
      exact last.afterwards first.recorded (by omega) (by omega)

end Confining

/-! ## Single steps -/

theorem confined_write {purpose : Purpose} (result : purpose ≠ .complaint) (text : String) :
    Confined id (write id purpose text) := by
  have alone {machine value after recent}
      (run : Unlimited id (write id purpose text) machine value after recent) :
      value = .ok () ∧ recent = [.wrote id purpose text] := by
    obtain ⟨recorded, succeeded⟩ := Recorded.of_write run.room purpose text
    rw [run.returned] at recorded succeeded
    exact ⟨by simpa using succeeded, run.recorded.unique recorded⟩
  have bytes : transcript id [.wrote id purpose text] = Text.encode text := by
    simp [transcript, Event.bytes]
  refine ⟨(Logic.accounting id).ofWrite purpose text result, ?_, ?_⟩
  · intro machine value after recent room run fits
    obtain ⟨rfl, rfl⟩ := alone run
    rw [bytes] at fits ⊢
    rw [write_withRoom_of_le run.room fits, run.returned]
  · intro machine value after recent room other left run spills limited
    obtain ⟨rfl, rfl⟩ := alone run
    have loses := lost_ne_nil spills
    have still : ¬lost id room [.wrote id purpose text] <:+
        closing id [.wrote id purpose text] := by
      have none : closing id [.wrote id purpose text] = [] := by
        cases purpose <;> simp_all [closing, complained]
      rwa [none, List.suffix_nil]
    rw [bytes] at spills
    obtain ⟨failed, full⟩ : (write id purpose text (withRoom id (some room) machine)).1 = _ ∧
        Full id _ (write id purpose text (withRoom id (some room) machine)).2.world :=
      write_withRoom_of_lt spills
    rw [limited] at failed full
    obtain rfl : other = .error (.inputOutput "sink full") := by simpa using failed
    refine ⟨by decide, bytes ▸ full, ?_, fun complaint => absurd complaint still⟩
    rw [if_neg still]
    rfl

theorem confined_note {event : Event} (quiet : event.Quiet) :
    Confined id (Execution.note event : Execution Shells Unit) := by
  refine .of_unwritten ?_ (fun _ => rfl) fun _ _ => rfl
  rintro machine _ _ unlimited ⟨⟩
  have silent : event.bytes id = [] := by cases event <;> simp_all [Event.Quiet, Event.bytes]
  exact ⟨[event], .of_silent unlimited rfl rfl silent, .inl (.of_quiet quiet)⟩

/-- Remarks before and after what is written. -/
theorem transcript_around {began ended : Event} {inner : List Event}
    (silent : ended.bytes id = []) (still : began.bytes id = []) :
    transcript id ([ended] ++ (inner ++ [began])) = transcript id inner := by
  simp [transcript_append, transcript, silent, still]

theorem Unlimited.of_run {Value : Type} [Ending Value] {registry : RegistryId} {image : Handle}
    {body : Execution Shells Value} {machine after : Machine Shells} {value : Value}
    {recent : List Event}
    (run : Unlimited id (Script.whileHidden registry image body) machine value after recent)
    (accounted : Accounted id body) :
    ∃ between inner, Unlimited id body (Script.begin registry image machine) value between inner ∧
      after = Script.finish registry image (Script.hide machine.catalog registry image).1 between ∧
      recent = [.runEnded registry image (Script.hide machine.catalog registry image).1
          between.catalog after.catalog] ++
        (inner ++ [.runBegan registry image (Script.hide machine.catalog registry image).1]) := by
  obtain ⟨between, outcome, rfl⟩ := Script.whileHidden_eq_ok run.returned
  have unlimited : ((Script.begin registry image machine).world.get id).sink.room = none := by
    rw [Script.world_begin]
    exact run.room
  obtain ⟨inner, recorded, -⟩ := accounted _ value between unlimited outcome
  exact ⟨between, inner, ⟨unlimited, outcome, recorded⟩, rfl,
    run.recorded.unique recorded.around_run⟩

theorem confined_whileHidden {Value : Type} [Ending Value] (registry : RegistryId)
    (image : Handle) {body : Execution Shells Value} (confined : Confined id body) :
    Confined id (Script.whileHidden registry image body) := by
  refine ⟨(Logic.accounting id).ofHidden registry image confined.accounted, ?_, ?_⟩
  · intro machine value after recent room run fits
    obtain ⟨between, inner, within, rfl, rfl⟩ := run.of_run confined.accounted
    rw [transcript_around rfl rfl] at fits ⊢
    have same : (withRoom id (some room) machine).catalog = machine.catalog := rfl
    rw [Script.whileHidden_apply, begin_withRoom, confined.fits room within fits, same,
      finish_withRoom]
  · intro machine value after recent room other left run spills limited
    obtain ⟨between, inner, within, rfl, rfl⟩ := run.of_run confined.accounted
    rw [transcript_around rfl rfl] at spills
    obtain ⟨middle, outcome, rfl⟩ := Script.whileHidden_eq_ok limited
    rw [begin_withRoom] at outcome
    have begun : Recorded id machine (Script.begin registry image machine)
        [.runBegan registry image (Script.hide machine.catalog registry image).1] :=
      .of_silent run.room (Script.world_begin ..) rfl rfl
    have spilled := (confined.spills within spills outcome).afterwards begun
      (Nat.zero_add room) spills
    refine spilled.handedOn rfl rfl (fun still => still) rfl ?_
    intro written full
    rwa [Script.world_finish]

/-! ## Lines on a limited sink -/

section Complaining

variable {machine : Machine Shells} (answer : Except ShellError Status)

theorem complain_withRoom_of_le {room : Nat}
    (unlimited : (machine.world.get id).sink.room = none)
    (fits : (transcript id (complaint id answer)).length ≤ room) :
    complain id answer (withRoom id (some room) machine) =
      withRoom id (some (room - (transcript id (complaint id answer)).length))
        (complain id answer machine) := by
  cases answer with
  | ok status => rfl
  | error failure =>
      rw [transcript_complaint] at fits ⊢
      rw [complain, write_withRoom_of_le unlimited fits]
      rfl

theorem Full.complain {written : Bytes} (full : Full id written machine.world) :
    Full id written (complain id answer machine).world := by
  cases answer with
  | ok status => exact full
  | error failure => exact full.write

/-- The complaint of a line is cut off, and nothing else. -/
theorem spilled_complain {room : Nat}
    (spills : room < (transcript id (complaint id answer)).length) :
    Spilled id room machine (complaint id answer) (Ending.status answer) (Ending.status answer)
      (complain id answer (withRoom id (some room) machine)) := by
  cases answer with
  | ok status => simp [complaint, transcript] at spills
  | error failure =>
      have closes : closing id (complaint id (.error failure)) =
          transcript id (complaint id (.error failure)) := by
        simp only [complaint, closing, complained, transcript, Event.bytes, if_true,
          List.nil_append]
        split <;> simp_all
      have cut : lost id room (complaint id (.error failure)) <:+
          closing id (complaint id (.error failure)) := closes ▸ List.drop_suffix room _
      refine ⟨failure.status_ne_success, ?_, (if_pos cut).symm, fun _ => not_false⟩
      rw [transcript_complaint] at spills ⊢
      exact (write_withRoom_of_lt spills).2

end Complaining

theorem Unlimited.of_line {action : Attempt} {line : String} {machine after : Machine Shells}
    {status : Status} {recent : List Event}
    (run : Unlimited id (asLine id line action) machine status after recent)
    (accounted : Accounted id action) :
    ∃ answer between inner, Unlimited id action (beginLine id line machine) answer between inner ∧
      status = Ending.status answer ∧ after = endLine id status (complain id answer between) ∧
      recent = [.lineEnded id status] ++
        ((complaint id answer ++ inner) ++ [.lineBegan id line machine.catalog]) := by
  obtain ⟨answer, between, outcome, rfl, rfl⟩ := asLine_eq_ok run.returned
  obtain ⟨inner, recorded, -⟩ := accounted (beginLine id line machine) answer between
    run.room outcome
  have whole := recorded.trans (recorded_complain answer recorded.unlimited)
  exact ⟨answer, between, inner, ⟨run.room, outcome, recorded⟩, rfl, rfl,
    run.recorded.unique (whole.around_line (Ending.status answer))⟩

/-- A line takes the last step out of step: it may lose its complaint. -/
theorem confined_asLine {action : Attempt} (confined : Confined id action) (line : String) :
    Confined id (asLine id line action) := by
  have entered (machine : Machine Shells) (room : Nat) :
      beginLine id line (withRoom id (some room) machine) =
        withRoom id (some room) (beginLine id line machine) := rfl
  refine ⟨(Logic.accounting id).ofLine line confined.accounted, ?_, ?_⟩
  · intro machine status after recent room run fits
    obtain ⟨answer, between, inner, within, rfl, rfl, rfl⟩ := run.of_line confined.accounted
    rw [transcript_around rfl rfl, transcript_append, List.length_append] at fits ⊢
    have limited := confined.fits room within (by omega)
    have complains : complain id answer
          (withRoom id (some (room - (transcript id inner).length)) between) = _ :=
      complain_withRoom_of_le answer within.recorded.unlimited (by omega)
    rw [asLine_apply, entered, limited]
    simp only [complains, Nat.sub_sub]
    rfl
  · intro machine status after recent room other left run spills limited
    obtain ⟨answer, between, inner, within, rfl, rfl, rfl⟩ := run.of_line confined.accounted
    rw [transcript_around rfl rfl, transcript_append, List.length_append] at spills
    have begun : Recorded id machine (beginLine id line machine)
        [.lineBegan id line machine.catalog] := .of_silent run.room rfl rfl rfl
    have begins : transcript id (inner ++ [.lineBegan id line machine.catalog]) =
        transcript id inner := by simp [transcript_append, transcript, Event.bytes]
    obtain ⟨early, middle, outcome, rfl, rfl⟩ := asLine_eq_ok limited
    rw [entered] at outcome
    rw [List.append_assoc, ← List.append_assoc]
    by_cases sooner : room < (transcript id inner).length
    · have spilled := (confined.spills within sooner outcome).afterwards begun
        (Nat.zero_add room) sooner
      have still (written : Bytes) (full : Full id written middle.world) :
          Full id written (endLine id (Ending.status early) (complain id early middle)).world :=
        full.complain early
      cases answer with
      | ok status => exact spilled.handedOn rfl rfl False.elim rfl still
      | error failure => exact spilled.surpassed (begins ▸ sooner) (.inr trivial) rfl still
    · rw [confined.fits room within (by omega)] at outcome
      obtain ⟨rfl, rfl⟩ : answer = early ∧
          withRoom id (some (room - (transcript id inner).length)) between = middle := by
        simpa using outcome
      have cut : Spilled id (room - (transcript id inner).length) between (complaint id answer)
          (Ending.status answer) (Ending.status answer) _ := spilled_complain answer (by omega)
      have ended : Spilled id (room - (transcript id inner).length) between
          ([.lineEnded id (Ending.status answer)] ++ complaint id answer) (Ending.status answer)
          (Ending.status answer) (endLine id (Ending.status answer) _) :=
        cut.handedOn rfl rfl (fun unreported => unreported) rfl fun _ full => full
      refine ended.afterwards (begun.trans within.recorded) ?_ ?_
      · rw [begins]
        omega
      · rw [transcript_append, List.length_append]
        omega

def Logic.confining (id : ShellId) : Logic id where
  Holds execution := Confined id execution
  ofTooDeep := by
    refine ⟨(Logic.accounting id).ofTooDeep, ?_, ?_⟩
    · rintro machine value after recent room ⟨-, returned, -⟩
      simp [Execution.abandon] at returned
    · rintro machine value after recent room other left ⟨-, returned, -⟩
      simp [Execution.abandon] at returned
  ofPure := confined_pure
  ofBind := Confined.bind
  ofCatalog := by
    intro Value _ next holds
    refine ⟨(Logic.accounting id).ofCatalog fun seen => (holds seen).accounted, ?_, ?_⟩
    · intro machine value after recent room run
      exact (holds machine.catalog).fits room ⟨run.room, run.returned, run.recorded⟩
    · intro machine value after recent room other left run
      exact (holds machine.catalog).spills ⟨run.room, run.returned, run.recorded⟩
  ofShell := by
    intro Value _ next holds
    refine ⟨(Logic.accounting id).ofShell next fun registry traces =>
      (holds registry traces).accounted, ?_, ?_⟩
    · intro machine value after recent room run fits
      have limited := (holds (machine.world.get id).registry
        (machine.world.get id).traceCommands).fits room ⟨run.room, run.returned, run.recorded⟩ fits
      simpa [current, Execution.bind_apply, withRoom] using limited
    · intro machine value after recent room other left run spills limited
      refine (holds (machine.world.get id).registry (machine.world.get id).traceCommands).spills
        ⟨run.room, run.returned, run.recorded⟩ spills ?_
      simpa [current, Execution.bind_apply, withRoom] using limited
  ofWrite purpose text result := confined_write result text
  ofUnregister registry image := by
    refine .of_unwritten ((Logic.accounting id).ofUnregister registry image) ?_ ?_
    · intro machine
      rw [Execution.unregister_apply]
      cases machine.catalog.unregister registry image <;> rfl
    · intro machine room
      rw [Execution.unregister_apply, Execution.unregister_apply]
      have seen : (withRoom id room machine).catalog = machine.catalog := rfl
      rw [seen]
      cases machine.catalog.unregister registry image <;> rfl
  ofNote quiet holds := (confined_note quiet).bind (fun _ _ => holds) fun _ failed =>
    absurd rfl failed
  ofHidden := confined_whileHidden
  ofLine line _ := (confined_asLine · line)

theorem confined_runLine (line : String) : Confined id (runLine id line) := by
  have within (depth : Nat) : Confined id (runLineWithin id depth line) :=
    (Logic.confining id).discipline.runLineWithin depth line
  refine ⟨fun machine => (within (nestingBound machine.catalog)).accounted machine, ?_, ?_⟩
  · intro machine value after recent room run
    exact (within (nestingBound machine.catalog)).fits room ⟨run.room, run.returned, run.recorded⟩
  · intro machine value after recent room other left run
    exact (within (nestingBound machine.catalog)).spills ⟨run.room, run.returned, run.recorded⟩

end Shell

end BootScript
