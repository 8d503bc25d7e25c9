import BootScript.Playbook
import BootScript.Proofs.Course

/-!
# Executions that follow a conduct

An execution follows a conduct if a course that the conduct permits leads from any
machine to the machine it leaves behind, with no run left open.  Running a script
adds no demand of its own: it follows whatever conduct its interpreter follows and
that permits the run.  Shells and playbooks follow every conduct that admits what
their commands ask for.
-/

namespace BootScript

variable {World Value Result : Type}

/-- A machine with no run in progress. -/
def Conduct.outset (conduct : Conduct World) (machine : Machine World) : Position World :=
  ⟨machine, [], conduct.holdings machine.world⟩

namespace Execution

/-! ## Single operations -/

theorem register_apply (registry : RegistryId) (image : Handle) (machine : Machine World) :
    register registry image machine =
      match machine.catalog.register registry image with
      | .ok catalog =>
          (.ok (.ok ()),
            { machine with catalog, journal := .registered registry image :: machine.journal })
      | .error failure => (.ok (.error failure), machine) := by
  simp only [register, bind_apply, attempt]
  cases machine.catalog.register registry image <;> rfl

theorem unregister_apply (registry : RegistryId) (image : Handle) (machine : Machine World) :
    unregister registry image machine =
      match machine.catalog.unregister registry image with
      | .ok catalog =>
          (.ok (.ok ()),
            { machine with catalog, journal := .unregistered registry image :: machine.journal })
      | .error failure => (.ok (.error failure), machine) := by
  simp only [unregister, bind_apply, attempt]
  cases machine.catalog.unregister registry image <;> rfl

theorem classify_apply (formats : Formats) (image : Handle) (machine : Machine World) :
    classify formats image machine =
      match machine.catalog.classify image formats with
      | .ok (format, catalog) =>
          (.ok (.ok format),
            { machine with catalog, journal := .classified image format :: machine.journal })
      | .error failure => (.ok (.error failure), machine) := by
  simp only [classify, bind_apply, catalog]
  cases machine.catalog.classify image formats <;> rfl

theorem register_returns (registry : RegistryId) (image : Handle) (machine : Machine World) :
    ∃ result after, register registry image machine = (.ok result, after) := by
  rw [register_apply]
  cases machine.catalog.register registry image <;> exact ⟨_, _, rfl⟩

theorem unregister_returns (registry : RegistryId) (image : Handle) (machine : Machine World) :
    ∃ result after, unregister registry image machine = (.ok result, after) := by
  rw [unregister_apply]
  cases machine.catalog.unregister registry image <;> exact ⟨_, _, rfl⟩

theorem classify_returns (formats : Formats) (image : Handle) (machine : Machine World) :
    ∃ result after, classify formats image machine = (.ok result, after) := by
  rw [classify_apply]
  cases machine.catalog.classify image formats <;> exact ⟨_, _, rfl⟩

/-! ## Following -/

def FollowsAt (conduct : Conduct World) (execution : Execution World Value)
    (machine : Machine World) : Prop :=
  conduct.worlds machine.world →
    conduct.worlds (execution machine).2.world ∧
      Course conduct (conduct.outset machine) (conduct.outset (execution machine).2)

def Follows (conduct : Conduct World) (execution : Execution World Value) : Prop :=
  ∀ machine, execution.FollowsAt conduct machine

variable {conduct : Conduct World} {execution : Execution World Value} {machine : Machine World}

theorem FollowsAt.of_unchanged (same : (execution machine).2 = machine) :
    execution.FollowsAt conduct machine := by
  intro kept
  rw [same]
  exact ⟨kept, .refl⟩

theorem FollowsAt.of_move (world : (execution machine).2.world = machine.world)
    (move : Move conduct (conduct.outset machine) (conduct.outset (execution machine).2)) :
    execution.FollowsAt conduct machine := by
  intro kept
  exact ⟨world ▸ kept, .single move⟩

theorem follows_pure (value : Value) : (pure value : Execution World Value).Follows conduct :=
  fun _ => .of_unchanged rfl

theorem follows_abandon (abort : Abort) :
    (abandon abort : Execution World Value).Follows conduct :=
  fun _ => .of_unchanged rfl

theorem FollowsAt.bind {next : Value → Execution World Result}
    (first : execution.FollowsAt conduct machine)
    (second : ∀ value after, execution machine = (.ok value, after) →
      (next value).FollowsAt conduct after) :
    (execution >>= next).FollowsAt conduct machine := by
  intro kept
  obtain ⟨keptBetween, course⟩ := first kept
  rw [bind_apply]
  match outcome : execution machine with
  | (.error abort, after) =>
      rw [outcome] at keptBetween course
      exact ⟨keptBetween, course⟩
  | (.ok value, after) =>
      rw [outcome] at keptBetween course
      obtain ⟨keptAfter, rest⟩ := second value after outcome keptBetween
      exact ⟨keptAfter, course.trans rest⟩

theorem Follows.bind {next : Value → Execution World Result} (first : execution.Follows conduct)
    (second : ∀ value, (next value).Follows conduct) : (execution >>= next).Follows conduct :=
  fun machine => (first machine).bind fun value after _ => second value after

theorem FollowsAt.after_catalog {next : Catalog → Execution World Result}
    (second : (next machine.catalog).FollowsAt conduct machine) :
    (catalog >>= next).FollowsAt conduct machine := by
  apply (FollowsAt.of_unchanged rfl).bind
  rintro _ _ ⟨⟩
  exact second

theorem FollowsAt.after_note {event : Event} {next : Unit → Execution World Result}
    (truthful : event.Remarks machine.catalog)
    (second : (next ()).FollowsAt conduct
      { machine with journal := event :: machine.journal }) :
    (note event >>= next).FollowsAt conduct machine := by
  have noted : (note event).FollowsAt conduct machine :=
    .of_move rfl (.remark (conduct.outset machine) event truthful)
  apply noted.bind
  rintro _ _ ⟨⟩
  exact second

theorem followsAt_register {registry : RegistryId} {image : Handle}
    (permitted : conduct.acts machine.catalog (.register registry image)) :
    (register registry image).FollowsAt conduct machine := by
  have applied := register_apply registry image machine
  cases result : machine.catalog.register registry image with
  | error failure => exact .of_unchanged (by rw [applied, result])
  | ok after =>
      rw [result] at applied
      refine .of_move (by rw [applied]) ?_
      rw [applied]
      exact .act (conduct.outset machine) _ after permitted trivial result

theorem followsAt_unregister {registry : RegistryId} {image : Handle}
    (permitted : conduct.acts machine.catalog (.unregister registry image)) :
    (unregister registry image).FollowsAt conduct machine := by
  have applied := unregister_apply registry image machine
  cases result : machine.catalog.unregister registry image with
  | error failure => exact .of_unchanged (by rw [applied, result])
  | ok after =>
      rw [result] at applied
      refine .of_move (by rw [applied]) ?_
      rw [applied]
      exact .act (conduct.outset machine) _ after permitted trivial result

theorem followsAt_classify {formats : Formats} {image : Handle}
    (permitted : ∀ format, conduct.acts machine.catalog (.setFormat image format)) :
    (classify formats image).FollowsAt conduct machine := by
  have applied := classify_apply formats image machine
  match result : machine.catalog.classify image formats with
  | .error failure => exact .of_unchanged (by rw [applied, result])
  | .ok (format, after) =>
      rw [result] at applied
      refine .of_move (by rw [applied]) ?_
      rw [applied]
      exact .act (conduct.outset machine) _ after (permitted format) trivial
        (Catalog.setFormat_of_classify result)

end Execution

/-! ## Running scripts -/

namespace Script

/-- The machine on which the body of a run begins. -/
def begin (registry : RegistryId) (image : Handle) (machine : Machine World) : Machine World :=
  { machine with
    catalog := (hide machine.catalog registry image).2
    journal :=
      .runBegan registry image (hide machine.catalog registry image).1 :: machine.journal }

/-- The machine that a run leaves behind when its body has left `machine` behind. -/
def finish (registry : RegistryId) (image : Handle) (hidden : Bool) (machine : Machine World) :
    Machine World :=
  { machine with
    catalog := unhide machine.catalog registry image hidden
    journal :=
      .runEnded registry image hidden machine.catalog
        (unhide machine.catalog registry image hidden) :: machine.journal }

@[simp] theorem world_begin (registry : RegistryId) (image : Handle) (machine : Machine World) :
    (begin registry image machine).world = machine.world := by simp only [begin]

@[simp] theorem world_finish (registry : RegistryId) (image : Handle) (hidden : Bool)
    (machine : Machine World) :
    (finish registry image hidden machine).world = machine.world := by simp only [finish]

theorem journal_finish (registry : RegistryId) (image : Handle) (hidden : Bool)
    (machine : Machine World) :
    (finish registry image hidden machine).journal =
      .runEnded registry image hidden machine.catalog
        (unhide machine.catalog registry image hidden) :: machine.journal := by
  simp only [finish]

theorem whileHidden_apply (registry : RegistryId) (image : Handle)
    (body : Execution World Value) (machine : Machine World) :
    whileHidden registry image body machine =
      ((body (begin registry image machine)).1,
        finish registry image (hide machine.catalog registry image).1
          (body (begin registry image machine)).2) := rfl

theorem run_apply (interpret : Interpreter World) (registry : RegistryId) (image : Handle)
    (machine : Machine World) :
    run interpret registry image machine =
      if (machine.catalog.image image).executing then
        (.ok (.error (.alreadyRunning (machine.catalog.image image).name)),
          { machine with journal := .runRefused image :: machine.journal })
      else
        whileHidden registry image
          (runLines interpret (machine.catalog.image image).buffer.lines) machine := by
  by_cases busy : (machine.catalog.image image).executing = true
  · simp only [run, Execution.bind_apply, Execution.catalog, if_pos busy]
    rfl
  · simp only [run, Execution.bind_apply, Execution.catalog, if_neg busy]

variable {conduct : Conduct World} {interpret : Interpreter World} {registry : RegistryId}
  {image : Handle} {machine : Machine World}

theorem enter_outset :
    (conduct.outset machine).enter registry image =
      (conduct.outset (begin registry image machine)).above
        [⟨registry, image, (hide machine.catalog registry image).1⟩] fun _ => 0 := by
  simp only [Position.enter, Position.above, Conduct.outset, begin, Position.catalog,
    Position.journal, List.nil_append, Nat.add_zero]

theorem leave_outset {hidden : Bool} :
    ((conduct.outset machine).above [⟨registry, image, hidden⟩] fun _ => 0).leave =
      conduct.outset (finish registry image hidden machine) := by
  simp only [Position.leave, Position.above, Conduct.outset, finish, Position.catalog,
    Position.journal, List.nil_append, Nat.add_zero]

theorem follows_runLines (follows : ∀ command, (interpret command).Follows conduct)
    (lines : List (Except ImageError Bytes)) : (runLines interpret lines).Follows conduct := by
  induction lines with
  | nil => exact Execution.follows_pure _
  | cons line rest ih =>
      cases line with
      | error cause => exact Execution.follows_pure _
      | ok command =>
          apply (follows command).bind
          intro status
          split
          · exact ih
          · exact Execution.follows_pure _

theorem followsAt_whileHidden {body : Execution World Value}
    (permitted : conduct.runs machine.catalog registry image)
    (idle : (machine.catalog.image image).executing = false)
    (lines : (machine.catalog.image image).buffer.lines ≠ [])
    (follows : body.Follows conduct) :
    (whileHidden registry image body).FollowsAt conduct machine := by
  intro kept
  obtain ⟨keptAfter, course⟩ := follows (begin registry image machine) kept
  rw [whileHidden_apply]
  simp only [world_finish]
  refine ⟨keptAfter, ?_⟩
  have entered := Move.enter (conduct.outset machine) registry image permitted idle lines
  have within := course.above
    [⟨registry, image, (hide machine.catalog registry image).1⟩] fun _ => 0
  rw [← enter_outset] at within
  rw [← leave_outset]
  exact (within.head entered).tail (.leave _)

theorem followsAt_run (permitted : conduct.runs machine.catalog registry image)
    (follows : ∀ command, (interpret command).Follows conduct) :
    (run interpret registry image).FollowsAt conduct machine := by
  intro kept
  rw [run_apply]
  cases busy : (machine.catalog.image image).executing with
  | true => exact ⟨kept, .single (.refuse (conduct.outset machine) registry image permitted busy)⟩
  | false =>
      simp only [Bool.false_eq_true, if_false]
      by_cases lines : (machine.catalog.image image).buffer.lines = []
      · have passed := Move.pass (conduct.outset machine) registry image permitted busy lines
        rw [enter_outset, leave_outset] at passed
        rw [lines, whileHidden_apply]
        simp only [runLines, Execution.pure_apply, world_finish, world_begin]
        exact ⟨kept, .single passed⟩
      · exact followsAt_whileHidden permitted busy lines (follows_runLines follows _) kept

theorem followsAt_execute (permitted : conduct.runs machine.catalog registry image)
    (follows : ∀ command, (interpret command).Follows conduct) :
    (execute interpret registry image).FollowsAt conduct machine := by
  apply (followsAt_run permitted follows).bind
  intro result after _
  cases result <;> exact Execution.follows_pure _ after

end Script

section Dispatch

variable {conduct : Conduct World} {interpret : Interpreter World} {registry : RegistryId}
  {image : Handle} {machine : Machine World}

theorem dispatch_of_none (untagged : (machine.catalog.image image).format = none) :
    dispatch interpret registry image machine =
      (.ok (.error (.notExecutable (machine.catalog.image image).name)), machine) := by
  simp only [dispatch, Execution.bind_apply, Execution.catalog, untagged, Execution.pure_apply]

theorem dispatch_of_some {format : Format}
    (tagged : (machine.catalog.image image).format = some format) :
    dispatch interpret registry image machine =
      let executed := format.execute interpret registry image
        { machine with journal := .dispatched image :: machine.journal }
      (executed.1.map .ok, executed.2) := by
  simp only [dispatch, Execution.bind_apply, Execution.catalog, tagged, Execution.note,
    Execution.modify, Execution.pure_apply]
  generalize format.execute interpret registry image _ = executed
  obtain ⟨outcome, after⟩ := executed
  cases outcome <;> rfl

theorem execute_of_dispatch {format : Format} {status : Status} {after : Machine World}
    (tagged : (machine.catalog.image image).format = some format)
    (script : format.loader = .script)
    (executed : dispatch interpret registry image machine = (.ok (.ok status), after)) :
    Script.execute interpret registry image
      { machine with journal := .dispatched image :: machine.journal } = (.ok status, after) := by
  rw [dispatch_of_some tagged] at executed
  simp only [Format.execute, script] at executed
  generalize Script.execute interpret registry image _ = executed' at executed ⊢
  obtain ⟨outcome, left⟩ := executed'
  cases outcome <;> cases executed
  rfl

theorem Format.followsAt_execute {format : Format}
    (permitted : conduct.runs machine.catalog registry image)
    (follows : ∀ command, (interpret command).Follows conduct) :
    (format.execute interpret registry image).FollowsAt conduct machine := by
  unfold Format.execute
  cases format.loader with
  | script => exact Script.followsAt_execute permitted follows
  | program status => exact Execution.follows_pure _ machine

theorem followsAt_dispatch (permitted : conduct.runs machine.catalog registry image)
    (follows : ∀ command, (interpret command).Follows conduct) :
    (dispatch interpret registry image).FollowsAt conduct machine := by
  refine .after_catalog ?_
  dsimp only
  split
  · exact Execution.follows_pure _ machine
  · refine .after_note trivial ?_
    refine Execution.FollowsAt.bind (Format.followsAt_execute permitted follows) ?_
    exact fun status after _ => Execution.follows_pure _ after

end Dispatch

end BootScript
