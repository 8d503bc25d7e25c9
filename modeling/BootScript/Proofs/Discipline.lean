import BootScript.Proofs.Depth

/-!
# Disciplines of a shell

A discipline is a property of executions that every step of a shell keeps.  What the
commands of a shell are made of is listed here once: reading the shell and the catalog,
writing, letting an image go, running an image, and the line around all this.  A property
that is kept by each of them holds of every line, at every depth of nesting.  Where it
matters what line stands around a command, all but the line makes a practice.

Between two steps stands a value that tells how the first one ended.  A failure is only
handed on: what comes after a failed step does nothing but pass its status upwards.
-/

namespace BootScript

/-! ## Endings -/

/-- How an execution ended, as its value tells. -/
class Ending (Value : Type) where
  status : Value → Status
  /-- The value is a failure that nobody has written about yet. -/
  unreported : Value → Prop

instance : Ending Status where
  status := id
  unreported _ := False

instance : Ending Unit where
  status _ := Status.success
  unreported _ := False

instance : Ending ScriptError where
  status := ScriptError.status
  unreported _ := False

instance : Ending ShellError where
  status := ShellError.status
  unreported _ := True

instance : Ending ImageError where
  status failure := (ShellError.image failure).status
  unreported _ := True

instance {Failure Value : Type} [Ending Failure] [Ending Value] :
    Ending (Except Failure Value) where
  status
    | .ok value => Ending.status value
    | .error failure => Ending.status failure
  unreported
    | .ok value => Ending.unreported value
    | .error failure => Ending.unreported failure

theorem ShellError.status_ne_success (failure : ShellError) :
    failure.status ≠ Status.success := by
  cases failure with
  | image cause => cases cause <;> exact ne_of_beq_false rfl
  | _ => exact ne_of_beq_false rfl

/-- What follows a step passes a failure of the step on, and does nothing else about it. -/
def PassesFailures {World Value Result : Type} [Ending Value] [Ending Result]
    (next : Value → Execution World Result) : Prop :=
  ∀ value, Ending.status value ≠ Status.success →
    ∃ result, next value = pure result ∧ Ending.status result = Ending.status value ∧
      (Ending.unreported result ↔ Ending.unreported value)

/-- What returning keeps and every success is followed by, follows every value. -/
theorem PassesFailures.forall_next {World Value Result : Type} [Ending Value] [Ending Result]
    {next : Value → Execution World Result} {Holds : Execution World Result → Prop}
    (passes : PassesFailures next) (returns : ∀ result, Holds (pure result))
    (continues : ∀ value, Ending.status value = Status.success → Holds (next value))
    (value : Value) : Holds (next value) := by
  by_cases succeeded : Ending.status value = Status.success
  · exact continues value succeeded
  · obtain ⟨result, same, -, -⟩ := passes value succeeded
    exact same ▸ returns result

/-- Events that tell of no line, no output and no list. -/
def Event.Quiet : Event → Prop
  | dispatched _ => True
  | runRefused _ => True
  | _ => False

/-! ## Executions that return -/

theorem Execution.bind_eq_ok {World Value Result : Type} {first : Execution World Value}
    {next : Value → Execution World Result} {machine after : Machine World} {result : Result}
    (returned : (first >>= next) machine = (.ok result, after)) :
    ∃ value between, first machine = (.ok value, between) ∧
      next value between = (.ok result, after) := by
  rw [Execution.bind_apply] at returned
  match outcome : first machine with
  | (.ok value, between) =>
      rw [outcome] at returned
      exact ⟨value, between, rfl, returned⟩
  | (.error abort, between) => simp [outcome] at returned

theorem Script.whileHidden_eq_ok {World Value : Type} {registry : RegistryId} {image : Handle}
    {body : Execution World Value} {machine after : Machine World} {value : Value}
    (returned : Script.whileHidden registry image body machine = (.ok value, after)) :
    ∃ between, body (Script.begin registry image machine) = (.ok value, between) ∧
      after = Script.finish registry image (Script.hide machine.catalog registry image).1
        between := by
  rw [Script.whileHidden_apply, Prod.mk.injEq] at returned
  exact ⟨_, Prod.ext returned.1 rfl, returned.2.symm⟩

/-! ## Executions side by side -/

/-- An execution that comes to the same outcome on related machines and leaves them related. -/
def Respects {World Value : Type} (related : Machine World → Machine World → Prop)
    (execution : Execution World Value) : Prop :=
  ∀ left right, related left right →
    (execution right).1 = (execution left).1 ∧ related (execution left).2 (execution right).2

section Respects

variable {World Value Result : Type} {related : Machine World → Machine World → Prop}

theorem respects_pure (value : Value) :
    Respects related (pure value : Execution World Value) :=
  fun _ _ holds => ⟨rfl, holds⟩

theorem Respects.bind {first : Execution World Value} {next : Value → Execution World Result}
    (begins : Respects related first) (continues : ∀ value, Respects related (next value)) :
    Respects related (first >>= next) := by
  intro left right holds
  obtain ⟨same, between⟩ := begins left right holds
  rw [Execution.bind_apply, Execution.bind_apply]
  match outcome : first left, outcome' : first right with
  | (.error abort, after), (.error abort', after') =>
      rw [outcome, outcome'] at same between
      exact ⟨by simpa using same, between⟩
  | (.ok value, after), (.ok value', after') =>
      rw [outcome, outcome'] at same between
      obtain rfl : value' = value := by simpa using same
      exact continues value' after after' between
  | (.error abort, after), (.ok value, after') | (.ok value, after), (.error abort, after') =>
      simp [outcome, outcome'] at same

end Respects

namespace Shell

variable {id : ShellId}

/-! ## What a line is made of -/

/-- An action after the trace of its line, if the shell traces. -/
def traced (id : ShellId) (line : String) (action : Attempt) : Attempt := do
  if (← current id).traceCommands then
    match ← write id .trace ("$ " ++ line ++ "\n") with
    | .error failure => pure (.error failure)
    | .ok () => action
  else
    action

/-- An action, if the trace of its line was written. -/
def afterTrace (action : Attempt) : Except ShellError Unit → Attempt
  | .error failure => pure (.error failure)
  | .ok () => action

/-- Letting an image go, if one was found. -/
def freeFound (registry : RegistryId) : Except ShellError Handle → Attempt
  | .error failure => pure (.error failure)
  | .ok image => do
      match ← Execution.unregister registry image with
      | .error cause => pure (.error (.image cause))
      | .ok () => pure (.ok Status.success)

/-- Booting an image, if one was found. -/
def bootFound (booter : Booter) (registry : RegistryId) : Except ShellError Handle → Attempt
  | .error failure => pure (.error failure)
  | .ok image => do
      match ← booter registry image with
      | .error cause => pure (.error (.image cause))
      | .ok status => pure (.ok status)

/-- Executing an image by the format it was found to have. -/
def executeFound (interpret : Interpreter Shells) (registry : RegistryId) (image : Handle)
    (target : Image) : Execution Shells (Except ImageError Status) :=
  match target.format with
  | none => pure (.error (.notExecutable target.name))
  | some format => do
      Execution.note (.dispatched image)
      let status ← format.execute interpret registry image
      pure (.ok status)

/-- The writing of one line for each image that a registry lists. -/
def listing (id : ShellId) (registry : RegistryId) : Attempt := do
  let catalog ← Execution.catalog
  writeAll id ((catalog.listed registry).map fun image => imageLine (catalog.image image))

/-- An action as the deed of a line. -/
def asLine (id : ShellId) (line : String) (action : Attempt) : Execution Shells Status := do
  Execution.note (.lineBegan id line (← Execution.catalog))
  let status ← conclude id (← action)
  Execution.note (.lineEnded id status)
  pure status

/-- A machine on which a line has begun. -/
def beginLine (id : ShellId) (line : String) (machine : Machine Shells) : Machine Shells :=
  { machine with journal := .lineBegan id line machine.catalog :: machine.journal }

def endLine (id : ShellId) (status : Status) (machine : Machine Shells) : Machine Shells :=
  { machine with journal := .lineEnded id status :: machine.journal }

/-- A machine after a shell has complained of an answer that is a failure. -/
def complain (id : ShellId) : Except ShellError Status → Machine Shells → Machine Shells
  | .ok _, machine => machine
  | .error failure, machine => (write id .complaint (failure.message ++ "\n") machine).2

theorem asLine_apply (id : ShellId) (line : String) (action : Attempt)
    (machine : Machine Shells) :
    asLine id line action machine =
      match action (beginLine id line machine) with
      | (.ok answer, after) =>
          (.ok (Ending.status answer),
            endLine id (Ending.status answer) (complain id answer after))
      | (.error abort, after) => (.error abort, after) := by
  rw [asLine, Execution.bind_apply]
  match outcome : action (beginLine id line machine) with
  | (.error abort, after) =>
      simp only [Execution.catalog, Execution.bind_apply, Execution.note, Execution.modify]
      rw [beginLine] at outcome
      rw [outcome]
  | (.ok answer, after) =>
      simp only [Execution.catalog, Execution.bind_apply, Execution.note, Execution.modify]
      rw [beginLine] at outcome
      rw [outcome]
      cases answer <;> rfl

theorem asLine_eq_ok {line : String} {action : Attempt} {machine after : Machine Shells}
    {status : Status} (returned : asLine id line action machine = (.ok status, after)) :
    ∃ answer between, action (beginLine id line machine) = (.ok answer, between) ∧
      status = Ending.status answer ∧
      after = endLine id status (complain id answer between) := by
  rw [asLine_apply] at returned
  match outcome : action (beginLine id line machine) with
  | (.ok answer, between) =>
      simp only [outcome, Prod.mk.injEq, Except.ok.injEq] at returned
      obtain ⟨rfl, rfl⟩ := returned
      exact ⟨answer, between, rfl, rfl, rfl⟩
  | (.error abort, between) => simp [outcome] at returned

/-- Lines with attempts that come to the same answer end with the same status. -/
theorem asLine_side_by_side {related : Machine Shells → Machine Shells → Prop}
    {line other : String} {action counterpart : Attempt} {left right : Machine Shells}
    (attempts : (counterpart (beginLine id other right)).1 = (action (beginLine id line left)).1 ∧
      related (action (beginLine id line left)).2 (counterpart (beginLine id other right)).2)
    (complains : ∀ answer left right, related left right →
      related (complain id answer left) (complain id answer right))
    (ends : ∀ status left right, related left right →
      related (endLine id status left) (endLine id status right)) :
    (asLine id other counterpart right).1 = (asLine id line action left).1 ∧
      related (asLine id line action left).2 (asLine id other counterpart right).2 := by
  obtain ⟨same, holds⟩ := attempts
  rw [asLine_apply, asLine_apply]
  match outcome : action (beginLine id line left),
      outcome' : counterpart (beginLine id other right) with
  | (.error abort, after), (.error abort', after') =>
      rw [outcome, outcome'] at same holds
      exact ⟨by simpa using same, holds⟩
  | (.ok answer, after), (.ok answer', after') =>
      rw [outcome, outcome'] at same holds
      obtain rfl : answer' = answer := by simpa using same
      exact ⟨rfl, ends _ _ _ (complains _ _ _ holds)⟩
  | (.error abort, after), (.ok value, after') | (.ok value, after), (.error abort, after') =>
      simp [outcome, outcome'] at same

/-- How a shell boots images whose lines nest at most `depth` deep. -/
def booterWithin (id : ShellId) (depth : Nat) : Booter := fun registry image =>
  dispatch (interpretWithin id depth) registry image

theorem runLineWithin_succ (id : ShellId) (depth : Nat) (line : String) :
    runLineWithin id (depth + 1) line =
      asLine id line (attemptLine (booterWithin id depth) id line) :=
  rfl

theorem runLine_eq_asLine (id : ShellId) (line : String) (machine : Machine Shells) :
    runLine id line machine =
      asLine id line (attemptLine (booterWithin id machine.catalog.images.size) id line) machine :=
  rfl

theorem runLineWithin_of_attempt {id : ShellId} {depth : Nat} {line : String}
    {machine between : Machine Shells} {answer : Except ShellError Status}
    (attempted : attemptLine (booterWithin id depth) id line (beginLine id line machine) =
      (.ok answer, between)) :
    runLineWithin id (depth + 1) line machine =
      (.ok (Ending.status answer),
        endLine id (Ending.status answer) (complain id answer between)) := by
  rw [runLineWithin_succ, asLine_apply, attempted]

theorem runLineWithin_of_no_command {line : String} (idle : Command.ofLine? line = none)
    (id : ShellId) (depth : Nat) (machine : Machine Shells) :
    runLineWithin id (depth + 1) line machine =
      (.ok Status.success, endLine id Status.success (beginLine id line machine)) := by
  have attempted : attemptLine (booterWithin id depth) id line (beginLine id line machine) =
      (.ok (.ok Status.success), beginLine id line machine) := by
    simp only [attemptLine, idle]
    rfl
  exact runLineWithin_of_attempt attempted

/-- A property of executions that is kept by all that a command does, down to running an
image.  What stands around the command, its trace and its line, is left open. -/
structure Practice (id : ShellId) where
  /-- The registries that the shell may work over. -/
  Serves : RegistryId → Prop
  /-- The images that the shell may lay hands on. -/
  Reaches : Handle → Prop
  Holds : {Value : Type} → [Ending Value] → Execution Shells Value → Prop
  ofTooDeep : Holds (Execution.abandon .tooDeep : Execution Shells Status)
  ofPure {Value : Type} [Ending Value] (value : Value) : Holds (pure value)
  ofBind {Value Result : Type} [Ending Value] [Ending Result] {first : Execution Shells Value}
    {next : Value → Execution Shells Result} : Holds first →
      (∀ value, Ending.status value = Status.success → Holds (next value)) →
      PassesFailures next → Holds (first >>= next)
  ofWrite (text : String) : Holds (write id .result text)
  ofRegistry (next : RegistryId → Attempt) :
    (∀ registry, Serves registry → Holds (next registry)) →
      Holds (current id >>= fun shell => next shell.registry)
  ofListing {registry : RegistryId} : Serves registry →
    (∀ texts, Holds (writeAll id texts)) → Holds (listing id registry)
  ofBootTarget {registry : RegistryId} (arguments : List String)
    (next : Except ShellError Handle → Attempt) : Serves registry →
      (∀ failure, Holds (next (.error failure))) →
      (∀ image, Reaches image → Holds (next (.ok image))) →
      Holds (Execution.catalog >>= fun catalog => next (bootTarget catalog registry arguments))
  ofFreeTarget {registry : RegistryId} (arguments : List String)
    (next : Except ShellError Handle → Attempt) : Serves registry →
      (∀ failure, Holds (next (.error failure))) →
      (∀ image, Reaches image → Holds (next (.ok image))) →
      Holds (Execution.catalog >>= fun catalog => next (freeTarget catalog registry arguments))
  ofUnregister {registry : RegistryId} {image : Handle} : Serves registry → Reaches image →
    Holds (Execution.unregister registry image : Execution Shells (Except ImageError Unit))
  ofImage {Value : Type} [Ending Value] {image : Handle} (next : Image → Execution Shells Value) :
    Reaches image → (∀ target, Holds (next target)) →
      Holds (Execution.catalog >>= fun catalog => next (catalog.image image))
  ofNote {Value : Type} [Ending Value] {event : Event} {action : Execution Shells Value} :
    event.Quiet → Holds action → Holds (Execution.note event >>= fun _ => action)
  ofHidden {Value : Type} [Ending Value] {registry : RegistryId} {image : Handle}
    {body : Execution Shells Value} : Serves registry → Reaches image → Holds body →
      Holds (Script.whileHidden registry image body)

/-- A property of executions that all the steps of a shell keep, whatever a line does. -/
structure Discipline (id : ShellId) extends Practice id where
  ofTraced (line : String) {action : Attempt} : Holds action → Holds (traced id line action)
  ofLine (line : String) {action : Attempt} : Holds action → Holds (asLine id line action)

namespace Practice

variable (practice : Practice id)

/-! ## Running images -/

section Running

variable {interpret : Interpreter Shells} {registry : RegistryId} {image : Handle}

theorem runLines (obeys : ∀ command, practice.Holds (interpret command))
    (lines : List (Except ImageError Bytes)) :
    practice.Holds (Script.runLines interpret lines) := by
  induction lines with
  | nil => exact practice.ofPure _
  | cons line rest ih =>
      cases line with
      | error cause => exact practice.ofPure _
      | ok command =>
          apply practice.ofBind (obeys command)
          · intro status succeeded
            have zero : status = Status.success := succeeded
            rw [if_pos zero]
            exact ih
          · intro status failed
            have nonzero : status ≠ Status.success := failed
            exact ⟨_, if_neg nonzero, rfl, .rfl⟩

theorem run (obeys : ∀ command, practice.Holds (interpret command))
    (serves : practice.Serves registry) (reaches : practice.Reaches image) :
    practice.Holds (Script.run interpret registry image) := by
  refine practice.ofImage (fun target =>
    if target.executing then do
      Execution.note (.runRefused image)
      pure (.error (.alreadyRunning target.name))
    else
      Script.whileHidden registry image (Script.runLines interpret target.buffer.lines))
    reaches ?_
  intro target
  split
  · have quiet : Event.Quiet (.runRefused image) := trivial
    exact practice.ofNote quiet (practice.ofPure _)
  · exact practice.ofHidden serves reaches (practice.runLines obeys _)

theorem execute (obeys : ∀ command, practice.Holds (interpret command))
    (serves : practice.Serves registry) (reaches : practice.Reaches image) :
    practice.Holds (Script.execute interpret registry image) := by
  apply practice.ofBind (practice.run obeys serves reaches)
  · intro result _
    cases result <;> exact practice.ofPure _
  · intro result failed
    cases result with
    | ok => exact absurd rfl failed
    | error failure => exact ⟨failure.status, rfl, rfl, .rfl⟩

theorem dispatch (obeys : ∀ command, practice.Holds (interpret command))
    (serves : practice.Serves registry) (reaches : practice.Reaches image) :
    practice.Holds (dispatch interpret registry image) := by
  refine practice.ofImage (executeFound interpret registry image) reaches ?_
  intro target
  unfold executeFound
  split
  · exact practice.ofPure _
  · next format _ =>
      have quiet : Event.Quiet (.dispatched image) := trivial
      apply practice.ofNote quiet
      apply practice.ofBind
      · unfold Format.execute
        split
        · exact practice.execute obeys serves reaches
        · exact practice.ofPure _
      · exact fun status _ => practice.ofPure _
      · exact fun status _ => ⟨.ok status, rfl, rfl, .rfl⟩

end Running

/-! ## Lines -/

theorem writeAll (texts : List String) : practice.Holds (writeAll id texts) := by
  induction texts with
  | nil => exact practice.ofPure _
  | cons text rest ih =>
      apply practice.ofBind (practice.ofWrite text)
      · intro answer _
        cases answer with
        | ok => exact ih
        | error failure => exact practice.ofPure _
      · intro answer failed
        cases answer with
        | ok => exact absurd rfl failed
        | error failure => exact ⟨.error failure, rfl, rfl, .rfl⟩

theorem free {registry : RegistryId} (serves : practice.Serves registry)
    (arguments : List String) : practice.Holds (free registry arguments) := by
  refine practice.ofFreeTarget arguments (freeFound registry) serves ?_ ?_
  · exact fun failure => practice.ofPure _
  · intro image reaches
    apply practice.ofBind (practice.ofUnregister serves reaches)
    · intro answer _
      cases answer <;> exact practice.ofPure _
    · intro answer failed
      cases answer with
      | ok => exact absurd rfl failed
      | error cause => exact ⟨.error (.image cause), rfl, rfl, .rfl⟩

theorem boot {booter : Booter} {registry : RegistryId} (serves : practice.Serves registry)
    (boots : ∀ image, practice.Reaches image → practice.Holds (booter registry image))
    (arguments : List String) : practice.Holds (boot booter registry arguments) := by
  refine practice.ofBootTarget arguments (bootFound booter registry) serves ?_ ?_
  · exact fun failure => practice.ofPure _
  · intro image reaches
    apply practice.ofBind (boots image reaches)
    · intro answer _
      cases answer <;> exact practice.ofPure _
    · intro answer failed
      cases answer with
      | ok status => exact ⟨.ok status, rfl, rfl, .rfl⟩
      | error cause => exact ⟨.error (.image cause), rfl, rfl, .rfl⟩

section Lines

variable {booter : Booter}
  (boots : ∀ registry image, practice.Serves registry → practice.Reaches image →
    practice.Holds (booter registry image))

include boots

theorem perform (command : Command) : practice.Holds (perform booter id command) := by
  cases command with
  | echo arguments => exact practice.writeAll _
  | listImages =>
      refine practice.ofRegistry (listing id) fun registry serves => ?_
      exact practice.ofListing serves practice.writeAll
  | free arguments =>
      refine practice.ofRegistry (Shell.free · arguments) fun registry serves => ?_
      exact practice.free serves arguments
  | boot arguments =>
      refine practice.ofRegistry (Shell.boot booter · arguments) fun registry serves => ?_
      exact practice.boot serves (fun image reaches => boots registry image serves reaches) _
  | _ => exact practice.ofPure _

end Lines

theorem booterWithin {depth : Nat}
    (obeys : ∀ line, practice.Holds (runLineWithin id depth line)) (registry : RegistryId)
    (image : Handle) (serves : practice.Serves registry) (reaches : practice.Reaches image) :
    practice.Holds (booterWithin id depth registry image) :=
  practice.dispatch (fun _ => obeys _) serves reaches

/-- The step from one depth to the next is the step into a run.  It is left to show that a
line keeps the practice if every command does. -/
theorem runLineWithin
    (ofCommands : ∀ depth line,
      (∀ command, practice.Holds (Shell.perform (Shell.booterWithin id depth) id command)) →
        practice.Holds (runLineWithin id (depth + 1) line)) (depth : Nat) (line : String) :
    practice.Holds (runLineWithin id depth line) := by
  induction depth generalizing line with
  | zero => exact practice.ofTooDeep
  | succ depth ih => exact ofCommands depth line (practice.perform (practice.booterWithin ih))

end Practice

namespace Discipline

variable (discipline : Discipline id)

section Lines

variable {booter : Booter}

theorem attemptLine_of_perform
    (performs : ∀ command, discipline.Holds (Shell.perform booter id command)) (line : String) :
    discipline.Holds (Shell.attemptLine booter id line) := by
  unfold Shell.attemptLine
  split
  · exact discipline.ofPure _
  · exact discipline.ofTraced line (performs _)

theorem attemptLine
    (boots : ∀ registry image, discipline.Serves registry → discipline.Reaches image →
      discipline.Holds (booter registry image)) (line : String) :
    discipline.Holds (Shell.attemptLine booter id line) :=
  discipline.attemptLine_of_perform (discipline.perform boots) line

end Lines

theorem runLineWithin (depth : Nat) (line : String) :
    discipline.Holds (runLineWithin id depth line) :=
  discipline.toPractice.runLineWithin
    (fun _ line performs =>
      discipline.ofLine line (discipline.attemptLine_of_perform performs line)) depth line

theorem booterWithin (depth : Nat) (registry : RegistryId) (image : Handle)
    (serves : discipline.Serves registry) (reaches : discipline.Reaches image) :
    discipline.Holds (booterWithin id depth registry image) :=
  discipline.toPractice.booterWithin (discipline.runLineWithin depth) registry image serves reaches

end Discipline

end Shell

end BootScript
