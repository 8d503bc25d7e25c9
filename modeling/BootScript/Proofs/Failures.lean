import BootScript.Proofs.Logic
import BootScript.Proofs.Sessions
import BootScript.Proofs.Transcript

/-!
# Failures of lines

A line ends with the status of the first line that fails in its nest.  Every line around
that one ends with the same status and says nothing, and no line begins any more.  So a
failure is complained of at most once, by the line where it happened, and the complaint is
the last thing that is written.
-/

namespace BootScript

/-! ## Journals without failures -/

structure Smooth (recent : List Event) : Prop where
  each : ∀ event ∈ recent, event.Smooth
  closed : Opens [] recent

namespace Smooth

variable {recent earlier : List Event}

theorem nil : Smooth [] :=
  ⟨nofun, fun _ => rfl⟩

theorem append (later : Smooth recent) (first : Smooth earlier) : Smooth (recent ++ earlier) := by
  refine ⟨?_, later.closed.append first.closed⟩
  intro event member
  rcases List.mem_append.mp member with here | older
  · exact later.each event here
  · exact first.each event older

theorem of_remark {event : Event} (smooth : event.Smooth)
    (aside : ∀ before, openLines (event :: before) = openLines before) : Smooth [event] :=
  ⟨List.forall_mem_singleton.mpr smooth, aside⟩

theorem of_quiet {event : Event} (quiet : event.Quiet) : Smooth [event] := by
  cases event with
  | dispatched | runRefused => exact of_remark trivial fun _ => rfl
  | _ => exact quiet.elim

theorem runBegan (registry : RegistryId) (image : Handle) (hidden : Bool) :
    Smooth [.runBegan registry image hidden] :=
  of_remark trivial fun _ => rfl

theorem runEnded (smooth : Smooth recent) (registry : RegistryId) (image : Handle)
    (hidden : Bool) (left restored : Catalog) :
    Smooth (.runEnded registry image hidden left restored :: recent) :=
  have ended : Smooth [.runEnded registry image hidden left restored] :=
    of_remark trivial fun _ => rfl
  ended.append smooth

/-- A line that succeeds around lines that do. -/
theorem around (smooth : Smooth recent) (id : ShellId) (line : String) (seen : Catalog) :
    Smooth (.lineEnded id Status.success :: (recent ++ [.lineBegan id line seen])) where
  each := List.forall_mem_cons.mpr ⟨rfl, List.forall_mem_append.mpr
    ⟨smooth.each, fun _ began => by simp_all [Event.Smooth]⟩⟩
  closed := (smooth.closed.append (opens_lineBegan id line seen)).lineEnded id Status.success

theorem lineStatuses_eq (smooth : Smooth recent) :
    ∀ status ∈ lineStatuses recent, status = Status.success := by
  intro status member
  obtain ⟨event, here, ended⟩ := List.mem_filterMap.mp member
  cases event with
  | lineEnded id other =>
      obtain rfl : other = status := Option.some.inj ended
      exact smooth.each _ here
  | _ => simp [Event.status?] at ended

end Smooth

/-! ## Journals with a failure -/

/-- A complaint of a shell, or none. -/
def AtMostOneComplaint (id : ShellId) (events : List Event) : Prop :=
  events = [] ∨ ∃ text, events = [.wrote id .complaint text]

theorem AtMostOneComplaint.opens {id : ShellId} {events : List Event}
    (complaint : AtMostOneComplaint id events) : Opens [] events := by
  rcases complaint with rfl | ⟨text, rfl⟩ <;> exact fun _ => rfl

/-- A journal in which a line fails first, cut where that line ended. -/
structure FirstFailure (id : ShellId) (status : Status) (recent : List Event) where
  later : List Event
  complaint : List Event
  earlier : List Event
  /-- The line that failed. -/
  line : String
  /-- The lines around it, the innermost first. -/
  enclosing : List String
  cut : recent = later ++ .lineEnded id status :: (complaint ++ earlier)
  failed : status ≠ Status.success
  /-- No line failed before, and nobody complained. -/
  first : ∀ event ∈ earlier, event.Smooth
  opened : Opens (line :: enclosing) earlier
  /-- Nobody complains but the line that failed, right before its end. -/
  complained : AtMostOneComplaint id complaint
  /-- No line begins any more, and nothing is written. -/
  closing : ∀ event ∈ later, event.Closes
  /-- The lines around it end with its status. -/
  handedOn : lineStatuses later = enclosing.map fun _ => status

namespace FirstFailure

variable {id : ShellId} {status : Status} {recent before : List Event}

/-- A line fails in which none failed. -/
def ofSmooth {complaint : List Event} (smooth : Smooth recent) (failed : status ≠ Status.success)
    (complained : AtMostOneComplaint id complaint) (line : String) (seen : Catalog) :
    FirstFailure id status
      (.lineEnded id status :: (complaint ++ (recent ++ [.lineBegan id line seen]))) where
  later := []
  complaint := complaint
  earlier := recent ++ [.lineBegan id line seen]
  line := line
  enclosing := []
  cut := rfl
  failed := failed
  first := List.forall_mem_append.mpr ⟨smooth.each, fun _ began => by simp_all [Event.Smooth]⟩
  opened := smooth.closed.append (opens_lineBegan id line seen)
  complained := complained
  closing := nofun
  handedOn := rfl

def append (failure : FirstFailure id status recent) (smooth : Smooth before) :
    FirstFailure id status (recent ++ before) :=
  { failure with
    earlier := failure.earlier ++ before
    cut := by simp [failure.cut]
    first := List.forall_mem_append.mpr ⟨failure.first, smooth.each⟩
    opened := by simpa using failure.opened.append smooth.closed }

def runEnded (failure : FirstFailure id status recent) (registry : RegistryId) (image : Handle)
    (hidden : Bool) (left restored : Catalog) :
    FirstFailure id status (.runEnded registry image hidden left restored :: recent) :=
  { failure with
    later := .runEnded registry image hidden left restored :: failure.later
    cut := by simp [failure.cut]
    closing := List.forall_mem_cons.mpr ⟨trivial, failure.closing⟩ }

/-- The line around a line that failed ends with its status. -/
def around (failure : FirstFailure id status recent) (line : String) (seen : Catalog) :
    FirstFailure id status (.lineEnded id status :: (recent ++ [.lineBegan id line seen])) :=
  { failure with
    later := .lineEnded id status :: failure.later
    earlier := failure.earlier ++ [.lineBegan id line seen]
    enclosing := failure.enclosing ++ [line]
    cut := by simp [failure.cut]
    first := List.forall_mem_append.mpr ⟨failure.first, fun _ began => by simp_all [Event.Smooth]⟩
    opened := failure.opened.append (opens_lineBegan id line seen)
    closing := List.forall_mem_cons.mpr ⟨trivial, failure.closing⟩
    handedOn := by
      have ended : lineStatuses (.lineEnded id status :: failure.later) =
          status :: lineStatuses failure.later := rfl
      rw [ended, failure.handedOn]
      simp [List.map_const', ← List.replicate_succ, List.replicate_succ'] }

/-- Every line that began has ended. -/
theorem closed (failure : FirstFailure id status recent) : openLines recent = [] := by
  have opened : openLines (failure.complaint ++ failure.earlier) =
      failure.line :: failure.enclosing := by
    rw [failure.complained.opens, failure.opened.openLines_eq, List.nil_append]
  rw [failure.cut, openLines_closing failure.closing, openLines, opened, failure.handedOn]
  simp

end FirstFailure

/-! ## Accounts -/

/-- What the journal tells when a value was returned.  A failure that has still to be
reported has happened just now. -/
def Accounts {Value : Type} [Ending Value] (id : ShellId) (value : Value) (recent : List Event) :
    Prop :=
  Smooth recent ∨
    Ending.status value ≠ Status.success ∧ ¬Ending.unreported value ∧
      Nonempty (FirstFailure id (Ending.status value) recent)

/-- On a sink without a limit, the journal accounts for whatever is returned. -/
def Accounted {Value : Type} [Ending Value] (id : ShellId) (execution : Execution Shells Value) :
    Prop :=
  ∀ machine value after, (machine.world.get id).sink.room = none →
    execution machine = (.ok value, after) →
      ∃ recent, Recorded id machine after recent ∧ Accounts id value recent

section Accounts

variable {Value Result : Type} [Ending Value] [Ending Result] {id : ShellId}
  {recent earlier : List Event}

theorem Accounts.smooth {value : Value} (accounts : Accounts id value recent)
    (succeeded : Ending.status value = Status.success) : Smooth recent :=
  accounts.resolve_right fun failure => failure.1 succeeded

theorem Accounts.congr {value : Value} {result : Result} (accounts : Accounts id value recent)
    (status : Ending.status result = Ending.status value)
    (unreported : Ending.unreported result ↔ Ending.unreported value) :
    Accounts id result recent := by
  unfold Accounts
  rwa [status, unreported]

theorem Accounts.append {value : Value} (accounts : Accounts id value recent)
    (smooth : Smooth earlier) : Accounts id value (recent ++ earlier) := by
  rcases accounts with calm | ⟨failed, reported, ⟨failure⟩⟩
  · exact .inl (calm.append smooth)
  · exact .inr ⟨failed, reported, ⟨failure.append smooth⟩⟩

theorem accounted_pure (value : Value) :
    Accounted id (pure value : Execution Shells Value) := by
  rintro machine _ _ unlimited ⟨⟩
  exact ⟨[], .refl unlimited, .inl .nil⟩

theorem Accounted.bind {first : Execution Shells Value}
    {next : Value → Execution Shells Result} (begins : Accounted id first)
    (continues : ∀ value, Ending.status value = Status.success → Accounted id (next value))
    (passes : PassesFailures next) : Accounted id (first >>= next) := by
  intro machine result after unlimited returned
  obtain ⟨value, between, outcome, returned⟩ := Execution.bind_eq_ok returned
  obtain ⟨earlier, recorded, accounts⟩ := begins machine value between unlimited outcome
  by_cases succeeded : Ending.status value = Status.success
  · obtain ⟨recent, later, told⟩ :=
      continues value succeeded between result after recorded.unlimited returned
    exact ⟨recent ++ earlier, recorded.trans later, told.append (accounts.smooth succeeded)⟩
  · obtain ⟨handed, same, status, unreported⟩ := passes value succeeded
    rw [same] at returned
    obtain ⟨rfl, rfl⟩ : handed = result ∧ between = after := by simpa using returned
    exact ⟨earlier, recorded, accounts.congr status unreported⟩

end Accounts

namespace Shell

variable {id : ShellId}

/-- A line fails first, or hands a failure on, or does neither. -/
theorem accounted_asLine {action : Attempt} (accounted : Accounted id action) (line : String)
    {machine after : Machine Shells} {status : Status}
    (unlimited : (machine.world.get id).sink.room = none)
    (returned : asLine id line action machine = (.ok status, after)) :
    ∃ recent, Recorded id machine after recent ∧
      (status = Status.success ∧ Smooth recent ∨ Nonempty (FirstFailure id status recent)) := by
  obtain ⟨answer, between, outcome, rfl, rfl⟩ := asLine_eq_ok returned
  obtain ⟨earlier, recorded, accounts⟩ := accounted (beginLine id line machine) answer between
    unlimited outcome
  cases answer with
  | ok status =>
      refine ⟨_, recorded.around_line status, ?_⟩
      rcases accounts with smooth | ⟨failed, -, ⟨failure⟩⟩
      · by_cases succeeded : status = Status.success
        · subst succeeded
          exact .inl ⟨rfl, smooth.around id line machine.catalog⟩
        · exact .inr ⟨.ofSmooth smooth succeeded (.inl rfl) line machine.catalog⟩
      · exact .inr ⟨failure.around line machine.catalog⟩
  | error failure =>
      obtain ⟨wrote, -⟩ :=
        Recorded.of_write recorded.unlimited .complaint (failure.message ++ "\n")
      have smooth : Smooth earlier := accounts.resolve_right fun other => other.2.1 trivial
      exact ⟨_, (recorded.trans wrote).around_line failure.status, .inr ⟨.ofSmooth smooth
        failure.status_ne_success (.inr ⟨_, rfl⟩) line machine.catalog⟩⟩

def Logic.accounting (id : ShellId) : Logic id where
  Holds execution := Accounted id execution
  ofTooDeep := by
    intro machine value after _ returned
    simp [Execution.abandon] at returned
  ofPure := accounted_pure
  ofBind := Accounted.bind
  ofCatalog holds machine := holds machine.catalog machine
  ofShell _ holds machine := holds _ _ machine
  ofWrite purpose text result := by
    intro machine value after unlimited returned
    obtain ⟨recorded, succeeded⟩ := Recorded.of_write unlimited purpose text
    rw [returned] at recorded succeeded
    exact ⟨_, recorded, .inl (.of_remark result fun _ => rfl)⟩
  ofUnregister registry image := by
    intro machine value after unlimited returned
    rw [Execution.unregister_apply] at returned
    cases outcome : machine.catalog.unregister registry image with
    | error failure =>
        simp only [outcome] at returned
        obtain ⟨rfl, rfl⟩ : _ = value ∧ machine = after := by simpa using returned
        exact ⟨[], .refl unlimited, .inl .nil⟩
    | ok catalog =>
        simp only [outcome] at returned
        obtain ⟨rfl, rfl⟩ : _ = value ∧ _ = after := by simpa using returned
        exact ⟨[.unregistered registry image], .of_silent unlimited rfl rfl rfl,
          .inl (.of_remark trivial fun _ => rfl)⟩
  ofNote {_ _ event _} quiet holds := by
    intro machine value after unlimited returned
    obtain ⟨recent, recorded, accounts⟩ :=
      holds { machine with journal := event :: machine.journal } value after unlimited returned
    have silent : event.bytes id = [] := by cases event <;> simp_all [Event.Quiet, Event.bytes]
    have noted : Recorded id machine { machine with journal := event :: machine.journal } [event] :=
      .of_silent unlimited rfl rfl silent
    exact ⟨_, noted.trans recorded, accounts.append (.of_quiet quiet)⟩
  ofHidden registry image body holds := by
    intro machine value after unlimited returned
    obtain ⟨between, outcome, rfl⟩ := Script.whileHidden_eq_ok returned
    obtain ⟨recent, recorded, accounts⟩ := holds (Script.begin registry image machine)
      value between (by rwa [Script.world_begin]) outcome
    refine ⟨_, recorded.around_run, ?_⟩
    rcases accounts.append (Smooth.runBegan registry image
      (Script.hide machine.catalog registry image).1) with smooth | ⟨failed, reported, ⟨failure⟩⟩
    · exact .inl (smooth.runEnded ..)
    · exact .inr ⟨failed, reported, ⟨failure.runEnded ..⟩⟩
  ofLine line action holds := by
    intro machine status after unlimited returned
    obtain ⟨recent, recorded, told⟩ := accounted_asLine holds line unlimited returned
    refine ⟨recent, recorded, ?_⟩
    rcases told with ⟨rfl, smooth⟩ | ⟨⟨failure⟩⟩
    · exact .inl smooth
    · exact .inr ⟨failure.failed, not_false, ⟨failure⟩⟩

/-- Whatever lines a line executes, it succeeds if and only if all of them do.  Otherwise one
of them fails first, the lines around it end with its status and so does the line itself;
nothing begins after it, and nothing is written but one complaint at most, its own, last. -/
theorem runLine_fails_first (machine : Machine Shells)
    (unlimited : (machine.world.get id).sink.room = none) (line : String) :
    ∃ status after recent, runLine id line machine = (.ok status, after) ∧
      Recorded id machine after recent ∧ openLines recent = [] ∧
      (status = Status.success ↔ ∀ other ∈ lineStatuses recent, other = Status.success) ∧
      (status = Status.success → ∀ event ∈ recent, event.Smooth) ∧
      (status ≠ Status.success → Nonempty (FirstFailure id status recent)) := by
  obtain ⟨status, after, returned⟩ := runLine_returns id line machine
  have attempted : Accounted id
      (attemptLine (booterWithin id machine.catalog.images.size) id line) :=
    (Logic.accounting id).discipline.attemptLine
      ((Logic.accounting id).discipline.booterWithin machine.catalog.images.size) line
  obtain ⟨recent, recorded, told⟩ := accounted_asLine attempted line unlimited
    ((runLine_eq_asLine id line machine).symm.trans returned)
  refine ⟨status, after, recent, returned, recorded, ?_⟩
  rcases told with ⟨rfl, smooth⟩ | ⟨⟨failure⟩⟩
  · exact ⟨smooth.closed.openLines_eq, ⟨fun _ => smooth.lineStatuses_eq, fun _ => rfl⟩,
      fun _ => smooth.each, fun failed => absurd rfl failed⟩
  · have ended : status ∈ lineStatuses recent := by
      rw [failure.cut]
      exact List.mem_filterMap.mpr ⟨_, List.mem_append_right _ List.mem_cons_self, rfl⟩
    exact ⟨failure.closed, ⟨fun succeeded => absurd succeeded failure.failed,
        fun all => all status ended⟩,
      fun succeeded => absurd succeeded failure.failed, fun _ => ⟨failure⟩⟩

theorem runLine_fails_first_nested :
    let bootAgain : Buffer := { contents := ⟨#[98, 111, 111, 116, 32, 98], by decide⟩ }
    let freeNobody : Buffer :=
      { contents := ⟨#[105, 109, 103, 102, 114, 101, 101, 32, 99], by decide⟩ }
    let machine := ((Session.start [{}] [{}] {}).after
      [.create "a" bootAgain, .create "b" freeNobody, .setFormat 0 Script.format,
        .setFormat 1 Script.format, .register 0 0, .register 0 1]).machine
    ∃ after recent, runLine 0 "boot" machine = (.ok Status.notFound, after) ∧
      openLines recent = [] ∧ Nonempty (FirstFailure 0 Status.notFound recent) ∧
      transcript 0 recent = Text.encode "no such image: c\n" := by
  intro bootAgain freeNobody machine
  have unlimited : (machine.world.get 0).sink.room = none := by decide
  have empty : (machine.world.get 0).sink.written.toList = [] := by decide
  have fails : (runLine 0 "boot" machine).1.toOption = some Status.notFound := by decide +kernel
  have complains : ((runLine 0 "boot" machine).2.world.get 0).sink.written.toList =
      Text.encode "no such image: c\n" := by decide +kernel
  clear_value machine
  obtain ⟨status, after, recent, returned, recorded, closed, -, -, first⟩ :=
    runLine_fails_first machine unlimited "boot"
  rw [returned] at fails complains
  obtain rfl : status = Status.notFound := Option.some.inj fails
  refine ⟨after, recent, returned, closed, first (by decide), ?_⟩
  rw [← complains, recorded.written, empty, List.nil_append]

end Shell

end BootScript
