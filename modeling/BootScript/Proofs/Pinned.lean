import BootScript.Proofs.Logic
import BootScript.Proofs.Sessions
import BootScript.Proofs.Ways

/-!
# Pinned registries

A pinned registry lets no image go, whatever reason it gives.  So it hides none: an image stays
on the list while it runs, and its own lines find it there.  Only its mark keeps it from running
again.  As nothing was taken off the list nothing is put back on it, and the list stays as it
was.  The reason makes a difference only to a command that asks for an image to be let go.
-/

namespace BootScript

/-- The status of a command that asks for the image to be let go. -/
def Refusal.status (refusal : Refusal) (image : Image) : Status :=
  match refusal.cause image with
  | .notExecutable _ => Status.notExecutable
  | _ => Status.failure

theorem Refusal.status_cause (refusal : Refusal) (image : Image) :
    (ShellError.image (refusal.cause image)).status = refusal.status image := by
  unfold Refusal.status
  cases cause : refusal.cause image with
  | notRegistered name => exact absurd cause (refusal.cause_ne_notRegistered image name)
  | _ => rfl

/-- Two catalogs with the same lists, of images that are told alike whether they are listed. -/
structure Catalog.SameLists (first later : Catalog) : Prop where
  registry_eq : ∀ each, later.registry each = first.registry each
  registered_eq : ∀ image, (later.image image).registered = (first.image image).registered

namespace Catalog.SameLists

variable {first later : Catalog} {registry : RegistryId}

theorem refl (first : Catalog) : first.SameLists first :=
  ⟨fun _ => rfl, fun _ => rfl⟩

theorem listed_eq (same : first.SameLists later) (each : RegistryId) :
    later.listed each = first.listed each :=
  congrArg Registry.listed (same.registry_eq each)

theorem modifyImage (same : first.SameLists later) (image : Handle) {change : Image → Image}
    (kept : ∀ target, (change target).registered = target.registered) :
    first.SameLists (later.modifyImage image change) := by
  refine ⟨same.registry_eq, fun each => ?_⟩
  by_cases this : each = image <;> simp [this, kept, same.registered_eq]

theorem unregister_eq (same : first.SameLists later)
    (pinned : (first.registry registry).pinned = true) (image : Handle) :
    later.unregister registry image =
      .error ((first.registry registry).refusal.cause (later.image image)) := by
  rw [Catalog.unregister, same.registry_eq, if_pos pinned]

/-- A pinned registry hides no image. -/
theorem hide (same : first.SameLists later) (pinned : (first.registry registry).pinned = true)
    (image : Handle) :
    (Script.hide later registry image).1 = false ∧
      first.SameLists (Script.hide later registry image).2 := by
  have marked : first.SameLists ((later.setExecuting image true).hold image) := by
    unfold Catalog.setExecuting Catalog.hold
    exact (same.modifyImage image (by simp)).modifyImage image (by simp)
  rw [Script.hide, marked.unregister_eq pinned]
  exact ⟨rfl, marked⟩

/-- What was not hidden is not put back. -/
theorem unhide (same : first.SameLists later) (registry : RegistryId) (image : Handle) :
    first.SameLists (Script.unhide later registry image false) := by
  unfold Script.unhide Catalog.setExecuting Catalog.release
  exact (same.modifyImage image (by simp)).modifyImage image (by simp)

end Catalog.SameLists

/-! ## Lines within lines -/

/-- What becomes of a catalog at an event, if its lists stay.  The beginning and the end of a
line do not stand alone. -/
def Event.Turns (before after : Catalog) : Event → Prop
  | dispatched _ | runRefused _ | wrote _ _ _ => after = before
  | runBegan registry image hidden => (hidden, after) = Script.hide before registry image
  | runEnded registry image hidden left restored =>
      left = before ∧ restored = after ∧ after = Script.unhide before registry image hidden
  | _ => False

/-- Events that lead from one catalog to another, in lines that have ended, each with a
property of the line, what it saw, the events within it, its status and what it left. -/
inductive Unfolds (property : String → Catalog → List Event → Status → Catalog → Prop) :
    Catalog → List Event → Catalog → Prop
  | nil (catalog : Catalog) : Unfolds property catalog [] catalog
  | aside {first between last : Catalog} {event : Event} {earlier : List Event}
      (before : Unfolds property first earlier between) (turns : event.Turns between last) :
      Unfolds property first (event :: earlier) last
  | line {first seen left : Catalog} {id : ShellId} {line : String} {status : Status}
      {earlier within : List Event} (before : Unfolds property first earlier seen)
      (inner : Unfolds property seen within left) (holds : property line seen within status left) :
      Unfolds property first
        (.lineEnded id status :: (within ++ .lineBegan id line seen :: earlier)) left

theorem Unfolds.append {property : String → Catalog → List Event → Status → Catalog → Prop}
    {first between last : Catalog} {earlier later : List Event}
    (before : Unfolds property first earlier between)
    (after : Unfolds property between later last) :
    Unfolds property first (later ++ earlier) last := by
  induction after with
  | nil => exact before
  | aside _ turns ih => exact .aside (ih before) turns
  | line _ inner holds ih _ =>
      rw [List.cons_append, List.append_assoc, List.cons_append]
      exact .line (ih before) inner holds

namespace Shell

variable {id : ShellId} {registry : RegistryId} {first : Catalog}
  {machine before between after : Machine Shells}

/-- What becomes of a line over a pinned registry.  It finds the lists as they ever were, frees
nothing, does not run the lines of what runs already, and leaves the marks as they were. -/
structure PinnedLine (registry : RegistryId) (first : Catalog) (line : String) (seen : Catalog)
    (within : List Event) (status : Status) (left : Catalog) : Prop where
  lists : first.SameLists seen
  frees : ∀ name image, Command.ofLine? line = some (.free [name]) →
    image ∈ seen.listed registry → (seen.image image).name = name →
    ∃ found, seen.find? registry name = some found ∧
      status = (first.registry registry).refusal.status (seen.image found)
  boots : ∀ arguments image, Command.ofLine? line = some (.boot arguments) →
    bootTarget seen registry arguments = .ok image →
    (seen.image image).format.map Format.loader = some .script →
    (seen.image image).executing = true →
    status = Status.busy ∧ ∀ shell line catalog, .lineBegan shell line catalog ∉ within
  marks : ∀ image, (left.image image).executing = (seen.image image).executing

/-- A shell on a sink without a limit, over a registry whose list is as it ever was. -/
structure OnPinned (id : ShellId) (registry : RegistryId) (first : Catalog)
    (machine : Machine Shells) : Prop where
  serves : (machine.world.get id).registry = registry
  unlimited : (machine.world.get id).sink.room = none
  lists : first.SameLists machine.catalog

/-- A machine that comes of another by what a shell does over a pinned registry. -/
structure Leads (id : ShellId) (registry : RegistryId) (first : Catalog)
    (before after : Machine Shells) : Prop where
  ends : OnPinned id registry first after
  told : ∃ recent, after.journal = recent ++ before.journal ∧
    Unfolds (PinnedLine registry first) before.catalog recent after.catalog

/-- An execution that leads on whenever it returns.  What is abandoned leaves lines open. -/
def Leading {Value : Type} (id : ShellId) (registry : RegistryId) (first : Catalog)
    (execution : Execution Shells Value) : Prop :=
  ∀ machine value after, OnPinned id registry first machine →
    execution machine = (.ok value, after) → Leads id registry first machine after

namespace Leads

theorem refl (stands : OnPinned id registry first machine) :
    Leads id registry first machine machine :=
  ⟨stands, [], rfl, .nil _⟩

theorem trans (earlier : Leads id registry first before between)
    (later : Leads id registry first between after) : Leads id registry first before after := by
  obtain ⟨-, recent, added, unfolds⟩ := earlier
  obtain ⟨ends, recent', added', unfolds'⟩ := later
  have whole : after.journal = (recent' ++ recent) ++ before.journal := by
    rw [added', added, List.append_assoc]
  exact ⟨ends, recent' ++ recent, whole, unfolds.append unfolds'⟩

theorem aside {event : Event} (stands : OnPinned id registry first after)
    (added : after.journal = event :: before.journal)
    (turns : event.Turns before.catalog after.catalog) : Leads id registry first before after :=
  ⟨stands, [event], added, .aside (.nil _) turns⟩

end Leads

theorem OnPinned.leads_write (stands : OnPinned id registry first machine) (purpose : Purpose)
    (text : String) : Leads id registry first machine (write id purpose text machine).2 := by
  obtain ⟨recorded, -⟩ := Recorded.of_write stands.unlimited purpose text
  refine .aside ⟨?_, recorded.unlimited, stands.lists⟩ recorded.added rfl
  simpa [write] using stands.serves

def Way.onPinned (id : ShellId) (registry : RegistryId) (first : Catalog) : Way where
  Stands := OnPinned id registry first
  Leads := Shell.Leads id registry first
  refl := Shell.Leads.refl
  trans := Shell.Leads.trans
  ends := Shell.Leads.ends

/-- A run over a pinned registry hides nothing and puts nothing back. -/
theorem Leading.whileHidden {Value : Type} {body : Execution Shells Value}
    (leading : Leading id registry first body) (pinned : (first.registry registry).pinned = true)
    (image : Handle) : Leading id registry first (Script.whileHidden registry image body) := by
  have takes : (Way.onPinned id registry first).Takes body := leading
  refine takes.whileHidden ?_ ?_
  · intro machine stands
    obtain ⟨-, lists⟩ := stands.lists.hide pinned image
    have begun : Shell.Leads id registry first machine (Script.begin registry image machine) :=
      .aside ⟨stands.serves, stands.unlimited, lists⟩ rfl rfl
    exact begun
  · intro machine left stands stands'
    rw [(stands.lists.hide pinned image).1]
    have ends : OnPinned id registry first (Script.finish registry image false left) :=
      ⟨by rw [Script.world_finish, stands'.serves], by rw [Script.world_finish, stands'.unlimited],
        stands'.lists.unhide registry image⟩
    have ended : Shell.Leads id registry first left (Script.finish registry image false left) :=
      .aside ends rfl ⟨rfl, rfl, rfl⟩
    exact ended

/-- Nothing leaves a pinned list. -/
def Practice.pinned (id : ShellId) {registry : RegistryId} {first : Catalog}
    (pinned : (first.registry registry).pinned = true) : Practice id where
  Serves served := served = registry
  Reaches _ := True
  Holds execution := Leading id registry first execution
  ofTooDeep _ _ _ _ returned := by simp [Execution.abandon] at returned
  ofPure := (Way.onPinned id registry first).takes_pure
  ofBind begins continues passes := by
    have takes : (Way.onPinned id registry first).Takes _ := begins
    exact takes.bind continues passes
  ofWrite text := by
    intro machine answer after stands returned
    have leads := stands.leads_write .result text
    rwa [returned] at leads
  ofRegistry next holds := by
    intro machine answer after stands returned
    exact holds _ stands.serves machine answer after stands returned
  ofListing _ holds := by
    intro machine answer after stands returned
    exact holds _ machine answer after stands returned
  ofBootTarget {served} arguments _ _ refused chosen :=
    (Way.onPinned id registry first).takes_target (bootTarget · served arguments) refused
      fun image => chosen image trivial
  ofFreeTarget {served} arguments _ _ refused chosen :=
    (Way.onPinned id registry first).takes_target (freeTarget · served arguments) refused
      fun image => chosen image trivial
  ofUnregister := by
    rintro _ image rfl - machine answer after stands returned
    rw [Execution.unregister_apply, stands.lists.unregister_eq pinned] at returned
    obtain ⟨-, rfl⟩ := Prod.mk.inj returned
    exact .refl stands
  ofImage next _ holds := by
    intro machine answer after stands returned
    exact holds _ machine answer after stands returned
  ofNote {_ _ event _} quiet leading := by
    have takes : (Way.onPinned id registry first).Takes _ := leading
    refine takes.note fun machine stands => ?_
    have turns : event.Turns machine.catalog machine.catalog := by
      cases event with
      | dispatched | runRefused => rfl
      | _ => exact quiet.elim
    exact .aside ⟨stands.serves, stands.unlimited, stands.lists⟩ rfl turns
  ofHidden := by
    rintro _ _ served image body rfl - holds
    exact holds.whileHidden pinned image

/-! ## A line -/

theorem OnPinned.leads_traceLine (stands : OnPinned id registry first machine) (line : String) :
    Leads id registry first machine (traceLine id line machine) := by
  unfold traceLine
  split
  · exact stands.leads_write .trace _
  · exact .refl stands

theorem OnPinned.leads_complain (stands : OnPinned id registry first machine)
    (answer : Except ShellError Status) :
    Leads id registry first machine (complain id answer machine) := by
  cases answer with
  | ok => exact .refl stands
  | error failure => exact stands.leads_write .complaint _

/-- Nothing is freed, for the reason that the registry has. -/
theorem OnPinned.perform_free (stands : OnPinned id registry first machine)
    (pinned : (first.registry registry).pinned = true) (booter : Booter) {name : String}
    {image : Handle} (listed : image ∈ machine.catalog.listed registry)
    (named : (machine.catalog.image image).name = name) :
    ∃ found, machine.catalog.find? registry name = some found ∧
      perform booter id (.free [name]) machine =
        (.ok (.error
          (.image ((first.registry registry).refusal.cause (machine.catalog.image found)))),
          machine) := by
  obtain ⟨found, finds⟩ : ∃ found, machine.catalog.find? registry name = some found := by
    rw [← Option.isSome_iff_exists, Catalog.find?, List.find?_isSome]
    exact ⟨image, listed, by simpa using named⟩
  have target : freeTarget machine.catalog registry [name] = .ok found := by
    rw [freeTarget, finds]
  refine ⟨found, finds, ?_⟩
  simp only [perform, free, current, Execution.bind_apply, Execution.catalog, stands.serves, target,
    Execution.unregister_apply, stands.lists.unregister_eq pinned]
  rfl

/-- A script that runs already is handed to its format, which refuses to run it. -/
theorem perform_boot_running (depth : Nat) {arguments : List String} {image : Handle}
    (serves : (machine.world.get id).registry = registry)
    (selects : bootTarget machine.catalog registry arguments = .ok image)
    (loads : (machine.catalog.image image).format.map Format.loader = some .script)
    (runs : (machine.catalog.image image).executing = true) :
    perform (booterWithin id depth) id (.boot arguments) machine =
      (.ok (.ok Status.busy),
        { machine with journal := .runRefused image :: .dispatched image :: machine.journal }) := by
  obtain ⟨format, script, loader⟩ := Option.map_eq_some_iff.mp loads
  simp only [perform, boot, current, Execution.bind_apply, Execution.catalog, serves, selects,
    booterWithin, dispatch, script, Execution.note, Execution.modify, Format.execute, loader,
    Script.execute, Script.run_apply, runs, if_true]
  rfl

theorem traceLine_begins_no_line (id : ShellId) (line : String) (machine : Machine Shells) :
    (traceLine id line machine).catalog = machine.catalog ∧
      ∃ trace, (traceLine id line machine).journal = trace ++ machine.journal ∧
        ∀ shell line catalog, .lineBegan shell line catalog ∉ trace := by
  unfold traceLine
  split
  · exact ⟨rfl, [.wrote id .trace ("$ " ++ line ++ "\n")], rfl, by simp⟩
  · exact ⟨rfl, [], rfl, by simp⟩

section Attempts

variable {line : String} {answer : Except ShellError Status} {image : Handle}

theorem OnPinned.attemptLine_free {booter : Booter} {name : String}
    (stands : OnPinned id registry first machine)
    (pinned : (first.registry registry).pinned = true)
    (asks : Command.ofLine? line = some (.free [name]))
    (listed : image ∈ machine.catalog.listed registry)
    (named : (machine.catalog.image image).name = name)
    (returned : attemptLine booter id line machine = (.ok answer, after)) :
    ∃ found, machine.catalog.find? registry name = some found ∧ Ending.status answer =
      (first.registry registry).refusal.status (machine.catalog.image found) := by
  obtain ⟨same, -⟩ := traceLine_begins_no_line id line machine
  rw [← same] at listed named
  obtain ⟨found, finds, performed⟩ :=
    (stands.leads_traceLine line).ends.perform_free pinned booter listed named
  rw [attemptLine_of_command stands.unlimited asks, performed] at returned
  rw [same] at finds returned
  obtain ⟨rfl, -⟩ : .error (.image _) = answer ∧ _ = after := by simpa using returned
  exact ⟨found, finds, Refusal.status_cause ..⟩

theorem OnPinned.attemptLine_boot_running {depth : Nat} {arguments : List String}
    (stands : OnPinned id registry first machine)
    (asks : Command.ofLine? line = some (.boot arguments))
    (selects : bootTarget machine.catalog registry arguments = .ok image)
    (loads : (machine.catalog.image image).format.map Format.loader = some .script)
    (runs : (machine.catalog.image image).executing = true)
    (returned : attemptLine (booterWithin id depth) id line machine = (.ok answer, after)) :
    answer = .ok Status.busy ∧ ∃ within, after.journal = within ++ machine.journal ∧
      ∀ shell line catalog, .lineBegan shell line catalog ∉ within := by
  obtain ⟨same, trace, added, silent⟩ := traceLine_begins_no_line id line machine
  rw [← same] at selects loads runs
  have performed :=
    perform_boot_running depth (stands.leads_traceLine line).ends.serves selects loads runs
  rw [attemptLine_of_command stands.unlimited asks, performed] at returned
  obtain ⟨rfl, rfl⟩ : .ok Status.busy = answer ∧ _ = after := by simpa using returned
  refine ⟨rfl, .runRefused image :: .dispatched image :: trace, ?_, by simpa using silent⟩
  rw [added, List.cons_append, List.cons_append]

end Attempts

theorem executing_runLineWithin (id : ShellId) (depth : Nat) (line : String)
    (machine : Machine Shells) (image : Handle) :
    ((runLineWithin id depth line machine).2.catalog.image image).executing =
      (machine.catalog.image image).executing := by
  have follows : (runLineWithin id depth line).FollowsAt Conduct.settled machine :=
    follows_runLineWithin (Conduct.settled_admitsPlaybook.shells id) depth line machine
  exact follows.executing_eq image

/-- A line is a pinned line if every command leads on. -/
theorem leading_runLineWithin_succ (pinned : (first.registry registry).pinned = true)
    (depth : Nat) (line : String)
    (performs : ∀ command,
      Leading id registry first (perform (booterWithin id depth) id command)) :
    Leading id registry first (runLineWithin id (depth + 1) line) := by
  intro machine status after stands returned
  have marks := executing_runLineWithin id (depth + 1) line machine
  rw [returned] at marks
  rw [runLineWithin_succ] at returned
  obtain ⟨answer, between, attempted, rfl, rfl⟩ := asLine_eq_ok returned
  have begun : OnPinned id registry first (beginLine id line machine) :=
    ⟨stands.serves, stands.unlimited, stands.lists⟩
  have attempt : Leads id registry first (beginLine id line machine) between :=
    (Way.onPinned id registry first).takes_attemptLine line (fun _ stands => stands.unlimited)
      (fun _ stands => stands.leads_traceLine line) performs _ answer between begun attempted
  obtain ⟨ends, within, added, unfolds⟩ := attempt.trans (attempt.ends.leads_complain answer)
  have holds : PinnedLine registry first line machine.catalog within (Ending.status answer)
      (complain id answer between).catalog := by
    refine ⟨stands.lists, ?_, ?_, marks⟩
    · intro name image asks listed named
      exact begun.attemptLine_free pinned asks listed named attempted
    · intro arguments image asks selects loads runs
      obtain ⟨rfl, recent, told, silent⟩ :=
        begun.attemptLine_boot_running asks selects loads runs attempted
      -- A boot is no failure, so nothing was written after what the attempt told.
      have same : recent = within := List.append_cancel_right (told.symm.trans added)
      exact ⟨rfl, same ▸ silent⟩
  have told : Unfolds (PinnedLine registry first) machine.catalog
      (.lineEnded id (Ending.status answer) :: (within ++ [.lineBegan id line machine.catalog]))
      (complain id answer between).catalog :=
    .line (.nil machine.catalog) unfolds holds
  refine ⟨⟨ends.serves, ends.unlimited, ends.lists⟩, _, ?_, told⟩
  rw [endLine, added, beginLine]
  simp

theorem leading_runLine (pinned : (first.registry registry).pinned = true) (line : String) :
    Leading id registry first (runLine id line) := fun machine =>
  (Practice.pinned id pinned).runLineWithin (leading_runLineWithin_succ pinned)
    (nestingBound machine.catalog) line machine

/-- Over a pinned registry the lists and the registered flags stay as they are, at every line
of every nest, nothing is freed, and what runs already is not run again. -/
theorem afterLines_pinned
    (pinned : (machine.catalog.registry (machine.world.get id).registry).pinned = true)
    (unlimited : (machine.world.get id).sink.room = none) (lines : List String) :
    let after := afterLines id lines machine
    machine.catalog.SameLists after.catalog ∧
      (∃ recent, after.journal = recent ++ machine.journal ∧
        Unfolds (PinnedLine (machine.world.get id).registry machine.catalog) machine.catalog
          recent after.catalog) ∧
      ∀ line, ∃ status next, runLine id line after = (.ok status, next) ∧
        ∀ image, (next.catalog.image image).executing =
          (after.catalog.image image).executing := by
  intro after
  have leads : Leads id (machine.world.get id).registry machine.catalog machine after := by
    induction lines using List.reverseRecOn with
    | nil => exact .refl ⟨rfl, unlimited, .refl _⟩
    | append_singleton lines line ih =>
        obtain ⟨status, next, returned⟩ := runLine_returns id line (afterLines id lines machine)
        have last := leading_runLine pinned line _ status next ih.ends returned
        have whole : after = next := by simp only [after, afterLines_concat, returned]
        exact whole ▸ ih.trans last
  refine ⟨leads.ends.lists, leads.told, fun line => ?_⟩
  obtain ⟨status, next, returned⟩ := runLine_returns id line after
  have marks := executing_runLineWithin id (nestingBound after.catalog) line after
  rw [← runLine_apply, returned] at marks
  exact ⟨status, next, returned, marks⟩

theorem afterLines_pinned_self :
    let bootItself : Buffer := { contents := ⟨#[98, 111, 111, 116, 32, 97], by decide⟩ }
    let machine := ((Session.start [{ pinned := true }] [{}] {}).after
      [.create "a" bootItself, .setFormat 0 Script.format, .register 0 0]).machine
    let after := afterLines 0 ["boot a", "imgfree a"] machine
    after.catalog.listed 0 = [0] ∧
      lineStatuses after.journal = [Status.failure, Status.busy, Status.busy] ∧
      ∃ recent, after.journal = recent ++ machine.journal ∧
        Unfolds (PinnedLine 0 machine.catalog) machine.catalog recent after.catalog := by
  intro bootItself machine after
  have serves : (machine.world.get 0).registry = 0 := by decide
  have pinned : (machine.catalog.registry (machine.world.get 0).registry).pinned = true := by decide
  have unlimited : (machine.world.get 0).sink.room = none := by decide
  have listed : machine.catalog.listed 0 = [0] := by decide
  have statuses : lineStatuses (afterLines 0 ["boot a", "imgfree a"] machine).journal =
      [Status.failure, Status.busy, Status.busy] := by decide +kernel
  clear_value machine
  obtain ⟨lists, told, -⟩ := afterLines_pinned pinned unlimited ["boot a", "imgfree a"]
  rw [serves] at told
  exact ⟨(lists.listed_eq 0).trans listed, statuses, told⟩

/-- If the reason is that the image is not executable, the line has the status of that. -/
theorem runLine_free_notExecutable :
    let refusal : Refusal :=
      { cause := fun image => .notExecutable image.name
        cause_ne_notRegistered := fun _ _ => ImageError.noConfusion }
    let machine := ((Session.start [{ pinned := true, refusal }] [{}] {}).after
      [.create "a" default, .register 0 0]).machine
    (machine.catalog.registry (machine.world.get 0).registry).pinned = true ∧
      (machine.world.get 0).sink.room = none ∧
      Command.ofLine? "imgfree a" = some (.free ["a"]) ∧
      0 ∈ machine.catalog.listed 0 ∧ (machine.catalog.image 0).name = "a" ∧
      (runLine 0 "imgfree a" machine).1 = .ok Status.notExecutable ∧
      Status.notExecutable ≠ Status.failure := by
  decide +kernel

end Shell

end BootScript
