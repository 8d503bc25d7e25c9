import BootScript.Proofs.Discipline

/-!
# Transcripts

The journal of a machine tells which lines are open, how lines ended, and what was written.
A shell on a sink without a limit has written all that the journal tells.
-/

namespace BootScript

/-! ## What the journal tells of lines and output -/

namespace Event

/-- The status of a line that ended. -/
def status? : Event → Option Status
  | lineEnded _ status => some status
  | _ => none

/-- What an event wrote to the sink of a shell, if the sink took it all. -/
def bytes (id : ShellId) : Event → Bytes
  | wrote shell _ text => if shell = id then Text.encode text else []
  | _ => []

/-- The end of a run or of a line. -/
def Closes : Event → Prop
  | lineEnded _ _ => True
  | runEnded _ _ _ _ _ => True
  | _ => False

/-- Neither the end of a line that failed nor a complaint. -/
def Smooth : Event → Prop
  | lineEnded _ status => status = Status.success
  | wrote _ purpose _ => purpose ≠ .complaint
  | _ => True

end Event

/-- The lines that have begun and not ended, the innermost first. -/
def openLines : List Event → List String
  | [] => []
  | .lineBegan _ line _ :: earlier => line :: openLines earlier
  | .lineEnded _ _ :: earlier => (openLines earlier).tail
  | _ :: earlier => openLines earlier

/-- The statuses of the lines that ended, the latest first. -/
def lineStatuses (journal : List Event) : List Status :=
  journal.filterMap Event.status?

/-- All that was written to a shell, in the order in which it was written. -/
def transcript (id : ShellId) : List Event → Bytes
  | [] => []
  | event :: earlier => transcript id earlier ++ event.bytes id

theorem transcript_append (id : ShellId) (recent earlier : List Event) :
    transcript id (recent ++ earlier) = transcript id earlier ++ transcript id recent := by
  induction recent with
  | nil => simp [transcript]
  | cons event rest ih => simp [transcript, ih]

/-- The events leave lines open beside those that were open before them. -/
def Opens (lines : List String) (recent : List Event) : Prop :=
  ∀ earlier, openLines (recent ++ earlier) = lines ++ openLines earlier

theorem Opens.append {later earlier : List Event} {inner outer : List String}
    (second : Opens inner later) (first : Opens outer earlier) :
    Opens (inner ++ outer) (later ++ earlier) := by
  intro before
  rw [List.append_assoc, second, first, List.append_assoc]

theorem Opens.openLines_eq {recent : List Event} {lines : List String}
    (opens : Opens lines recent) : openLines recent = lines := by
  simpa [openLines] using opens []

theorem opens_lineBegan (id : ShellId) (line : String) (seen : Catalog) :
    Opens [line] [.lineBegan id line seen] :=
  fun _ => rfl

theorem Opens.lineEnded {recent : List Event} {line : String} {lines : List String}
    (opens : Opens (line :: lines) recent) (id : ShellId) (status : Status) :
    Opens lines (.lineEnded id status :: recent) := by
  intro earlier
  rw [List.cons_append, openLines, opens, List.cons_append, List.tail_cons]

theorem openLines_closing {later : List Event} (closing : ∀ event ∈ later, event.Closes)
    (earlier : List Event) :
    openLines (later ++ earlier) = (openLines earlier).drop (lineStatuses later).length := by
  induction later with
  | nil => rfl
  | cons event rest ih =>
      obtain ⟨here, others⟩ := List.forall_mem_cons.mp closing
      cases event with
      | lineEnded id status =>
          have ended : lineStatuses (.lineEnded id status :: rest) =
              status :: lineStatuses rest := rfl
          rw [List.cons_append, openLines, ih others, ended, List.length_cons, List.tail_drop]
      | runEnded registry image hidden left restored => exact ih others
      | _ => exact here.elim

/-! ## Records -/

/-- What a shell on a sink without a limit added to the journal, and to its sink. -/
structure Recorded (id : ShellId) (before after : Machine Shells) (recent : List Event) : Prop where
  added : after.journal = recent ++ before.journal
  unlimited : (after.world.get id).sink.room = none
  written : (after.world.get id).sink.written.toList =
    (before.world.get id).sink.written.toList ++ transcript id recent

section Recorded

variable {id : ShellId} {before between after : Machine Shells} {recent earlier : List Event}

theorem Recorded.refl (unlimited : (before.world.get id).sink.room = none) :
    Recorded id before before [] :=
  ⟨rfl, unlimited, by simp [transcript]⟩

theorem Recorded.trans (first : Recorded id before between earlier)
    (second : Recorded id between after recent) :
    Recorded id before after (recent ++ earlier) where
  added := by rw [second.added, first.added, List.append_assoc]
  unlimited := second.unlimited
  written := by rw [second.written, first.written, transcript_append, List.append_assoc]

/-- The journal tells what was recorded. -/
theorem Recorded.unique {other : List Event} (recorded : Recorded id before after recent)
    (again : Recorded id before after other) : recent = other :=
  List.append_cancel_right (recorded.added.symm.trans again.added)

theorem Recorded.silent (recorded : Recorded id before after recent)
    (world : after.world = before.world) : transcript id recent = [] := by
  have written := recorded.written
  rwa [world, List.self_eq_append_right] at written

/-- An event that writes nothing. -/
theorem Recorded.of_silent {event : Event} (unlimited : (before.world.get id).sink.room = none)
    (world : after.world = before.world) (added : after.journal = event :: before.journal)
    (silent : event.bytes id = []) : Recorded id before after [event] :=
  ⟨added, world ▸ unlimited, by simp [world, transcript, silent]⟩

theorem Recorded.of_write (unlimited : (before.world.get id).sink.room = none)
    (purpose : Purpose) (text : String) :
    Recorded id before (Shell.write id purpose text before).2 [.wrote id purpose text] ∧
      (Shell.write id purpose text before).1 = .ok (.ok ()) := by
  have taken : (before.world.get id).sink.write (Text.encode text) =
      (true, { (before.world.get id).sink with
        written := (before.world.get id).sink.written ++ Text.encode text }) := by
    simp only [Sink.write, unlimited]
  refine ⟨⟨rfl, ?_, ?_⟩, ?_⟩
  · simp [Shell.write, taken, unlimited]
  · simp [Shell.write, taken, transcript, Event.bytes]
  · simp [Shell.write, taken]

/-- What an answer makes its line write last. -/
def Shell.complaint (id : ShellId) : Except ShellError Status → List Event
  | .ok _ => []
  | .error failure => [.wrote id .complaint (failure.message ++ "\n")]

theorem Shell.transcript_complaint (id : ShellId) (failure : ShellError) :
    transcript id (complaint id (.error failure)) = Text.encode (failure.message ++ "\n") := by
  simp [complaint, transcript, Event.bytes]

theorem Shell.recorded_complain (answer : Except ShellError Status)
    (unlimited : (before.world.get id).sink.room = none) :
    Recorded id before (complain id answer before) (complaint id answer) := by
  cases answer with
  | ok status => exact .refl unlimited
  | error failure => exact (Recorded.of_write unlimited .complaint _).1

/-- A machine on which a shell has written its command down, if it traces commands. -/
def Shell.traceLine (id : ShellId) (line : String) (machine : Machine Shells) :
    Machine Shells :=
  if (machine.world.get id).traceCommands then
    (Shell.write id .trace ("$ " ++ line ++ "\n") machine).2
  else machine

theorem Shell.catalog_traceLine (id : ShellId) (line : String) (machine : Machine Shells) :
    (traceLine id line machine).catalog = machine.catalog := by
  unfold traceLine
  split <;> rfl

theorem Shell.attemptLine_of_command {booter : Booter} {line : String} {command : Command}
    (unlimited : (before.world.get id).sink.room = none)
    (asks : Command.ofLine? line = some command) :
    attemptLine booter id line before = perform booter id command (traceLine id line before) := by
  simp only [attemptLine, asks, traceAndPerform, current, Execution.bind_apply, traceLine]
  split
  · obtain ⟨-, taken⟩ := Recorded.of_write unlimited .trace ("$ " ++ line ++ "\n")
    rw [Execution.bind_apply]
    generalize write id .trace ("$ " ++ line ++ "\n") before = outcome at taken
    obtain ⟨answer, after⟩ := outcome
    obtain rfl : answer = .ok (.ok ()) := taken
    rfl
  · rfl

/-- The beginning and the end of a line write nothing. -/
theorem Recorded.around_line {line : String}
    (inner : Recorded id (Shell.beginLine id line before) between recent) (status : Status) :
    Recorded id before (Shell.endLine id status between)
      (.lineEnded id status :: (recent ++ [.lineBegan id line before.catalog])) where
  added := by
    rw [Shell.endLine, inner.added, Shell.beginLine]
    simp
  unlimited := inner.unlimited
  written := by
    have written := inner.written
    rw [transcript, transcript_append]
    simpa [transcript, Event.bytes, Shell.beginLine, Shell.endLine] using written

/-- The beginning and the end of a run write nothing. -/
theorem Recorded.around_run {registry : RegistryId} {image : Handle} {hidden : Bool}
    (inner : Recorded id (Script.begin registry image before) between recent) :
    Recorded id before (Script.finish registry image hidden between)
      (.runEnded registry image hidden between.catalog
        (Script.unhide between.catalog registry image hidden) ::
        (recent ++ [.runBegan registry image (Script.hide before.catalog registry image).1])) where
  added := by
    rw [Script.finish, inner.added, Script.begin]
    simp
  unlimited := by
    rw [Script.world_finish]
    exact inner.unlimited
  written := by
    have written := inner.written
    rw [Script.world_begin] at written
    rw [Script.world_finish, transcript, transcript_append]
    simpa [transcript, Event.bytes] using written

end Recorded

end BootScript
