import BootScript.Proofs.Depth
import BootScript.Proofs.Sessions
import Mathlib.Data.List.Perm.Subperm

/-!
# Re-entry

An interpreter may run images, be handed the lines of images that it runs, and meet
an image again that runs already.  Every step of a session comes to an end all the
same: runs nest no deeper than there are images, because a nest is of different
images and an image that runs is not run again.
-/

namespace BootScript

/-- Where an interpreter is called by an execution that began over a catalog. -/
structure CallNests (first : Catalog) (earlier : List Event) (seen : Catalog) : Prop where
  /-- The marks are those found at the beginning and those of the enclosing runs. -/
  executing : ∀ image, (seen.image image).executing = true ↔
    (first.image image).executing = true ∨ image ∈ enclosing earlier
  distinct : (enclosing earlier).Nodup
  bounded : (enclosing earlier).length ≤ first.images.size

theorem length_le_of_nodup_of_lt {images : List Handle} {size : Nat} (distinct : images.Nodup)
    (below : ∀ image ∈ images, image < size) : images.length ≤ size := by
  have within : images ⊆ List.range size := fun image member =>
    List.mem_range.mpr (below image member)
  simpa using (List.subperm_of_subset distinct within).length_le

theorem Nested.callNests {World : Type} {first : Catalog} {position : Position World}
    (nested : Nested first position) (lined : Lined first position) :
    CallNests first position.journal position.catalog where
  executing := by
    rw [nested.enclosing]
    exact nested.executing
  distinct := by
    rw [nested.enclosing]
    exact nested.distinct
  bounded := by
    rw [nested.enclosing]
    exact length_le_of_nodup_of_lt nested.distinct fun image member =>
      Catalog.lt_size_of_lines (lined.lines image member)

/-- The calls of a course on which no images are made. -/
theorem Course.callNests {World : Type} {conduct : Conduct World} {machine : Machine World}
    {owned : Handle → Nat} {after : Position World}
    (course : Course conduct ⟨machine, [], owned⟩ after)
    (creates : ∀ catalog name buffer, ¬conduct.acts catalog (.create name buffer)) :
    ∃ recent, after.journal = recent ++ machine.journal ∧
      AtCalls (CallNests machine.catalog) recent := by
  obtain ⟨recent, added, blank⟩ := course.recent
  let Holds (position : Position World) : Prop :=
    Nested machine.catalog position ∧ Lined machine.catalog position
  have kept {start stop : Position World} (move : Move conduct start stop)
      (holds : Holds start) : Holds stop :=
    ⟨holds.1.move move, holds.2.move move creates⟩
  have start : Holds (Position.withJournal ⟨machine, [], owned⟩ []) :=
    ⟨Nested.start { machine with journal := [] } rfl owned, fun _ => rfl, nofun⟩
  exact ⟨recent, added,
    Course.atCalls blank kept (fun holds => holds.1.callNests holds.2) start atCalls_nil⟩

namespace Session

/-- An interpreter that nests to a depth that is not the session's own bound. -/
def interpreterWithin (session : Session) (depth : Nat) (registry : RegistryId) :
    InterpreterChoice → Interpreter Shells
  | .shell id => Shell.interpretWithin id depth
  | .playbook => session.playbook.interpretWithin session.formats registry depth

/-- A step whose executions nest to a depth that is not the session's own bound. -/
def stepWithin (session : Session) (depth : Nat) : Step → Answer × Session
  | .line shell line =>
      session.carryOut (Shell.runLineWithin shell depth (Text.lossy line)) Answer.status
  | .execute choice registry entry image =>
      session.execute (session.interpreterWithin depth registry choice) registry image entry
  | step => session.step step

variable (session : Session)

/-- Only the machine of the session matters to an execution. -/
theorem carryOut_congr {Value : Type} {first second : Execution Shells Value}
    (same : first session.machine = second session.machine) (answer : Value → Answer) :
    session.carryOut first answer = session.carryOut second answer := by
  unfold carryOut
  rw [same]

theorem step_eq_stepWithin (step : Step) :
    session.step step = session.stepWithin (Shell.nestingBound session.catalog) step := by
  cases step with
  | line shell line => exact session.carryOut_congr (Shell.runLine_apply ..) _
  | execute choice registry entry image => cases choice <;> rfl
  | _ => rfl

theorem ofAttempt_ne (result : Except ImageError Unit) (abort : Abort) :
    ofAttempt result ≠ .abandoned abort := by
  cases result <;> simp [ofAttempt]

theorem ofClassification_ne (result : Except ImageError Format) (abort : Abort) :
    ofClassification result ≠ .abandoned abort := by
  cases result <;> simp [ofClassification]

theorem ofDispatch_ne (result : Except ImageError Status) (abort : Abort) :
    ofDispatch result ≠ .abandoned abort := by
  cases result <;> simp [ofDispatch]

theorem ofRun_ne (result : Except ScriptError Unit) (abort : Abort) :
    ofRun result ≠ .abandoned abort := by
  cases result <;> simp [ofRun]

theorem carryOut_of_agreesAt {Value : Type} {first second : Execution Shells Value}
    (agrees : first.AgreesAt second session.machine) (answer : Value → Answer)
    (answers : ∀ value, answer value ≠ .abandoned .tooDeep) :
    session.carryOut first answer = session.carryOut second answer ∧
      (session.carryOut first answer).1 ≠ .abandoned .tooDeep := by
  obtain ⟨same, shallow⟩ := agrees
  refine ⟨session.carryOut_congr same answer, ?_⟩
  unfold carryOut
  match outcome : first session.machine with
  | (.ok value, machine) => simpa using answers value
  | (.error abort, machine) =>
      rw [outcome] at shallow
      simpa using shallow

variable {session}

theorem agreesAt_interpreterWithin {depth deeper : Nat} (deep : depth ≤ deeper)
    (registry : RegistryId) (choice : InterpreterChoice) (command : Bytes)
    {machine : Machine Shells} (enough : machine.catalog.waiting.card < depth) :
    (session.interpreterWithin depth registry choice command).AgreesAt
      (session.interpreterWithin deeper registry choice command) machine := by
  cases choice with
  | shell id => exact Shell.agreesAt_interpretWithin deep command enough
  | playbook => exact Playbook.agreesAt_interpretWithin _ _ registry deep command enough

theorem follows_interpreterWithin (depth : Nat) (registry : RegistryId)
    (choice : InterpreterChoice) (command : Bytes) :
    (session.interpreterWithin depth registry choice command).Follows Conduct.settled := by
  have admits := Conduct.settled_admitsPlaybook
  cases choice with
  | shell id => exact Shell.follows_interpretWithin (admits.shells id) depth command
  | playbook => exact Playbook.follows_interpretWithin admits _ _ registry depth command

theorem execute_agrees (session : Session) (choice : InterpreterChoice) (registry : RegistryId)
    (entry : Entry) (image : Handle) {depth : Nat}
    (deep : Shell.nestingBound session.catalog ≤ depth) :
    session.step (.execute choice registry entry image) =
        session.stepWithin depth (.execute choice registry entry image) ∧
      (session.step (.execute choice registry entry image)).1 ≠ .abandoned .tooDeep := by
  rw [step_eq_stepWithin]
  have enough : session.catalog.waiting.card < Shell.nestingBound session.catalog + 1 :=
    Nat.lt_succ_of_lt session.catalog.card_waiting_lt
  have agrees (command : Bytes) (machine : Machine Shells)
      (few : machine.catalog.waiting.card < Shell.nestingBound session.catalog) :=
    session.agreesAt_interpreterWithin deep registry choice command few
  have follows := session.follows_interpreterWithin
    (Shell.nestingBound session.catalog) registry choice
  cases entry with
  | dispatch =>
      have same := agreesAt_dispatch agrees follows registry image enough
      exact session.carryOut_of_agreesAt same ofDispatch fun result => ofDispatch_ne result _
  | run =>
      have same := Script.agreesAt_run agrees follows registry image enough
      exact session.carryOut_of_agreesAt same ofRun fun result => ofRun_ne result _
  | format format =>
      have same := format.agreesAt_execute agrees follows registry image enough
      exact session.carryOut_of_agreesAt same Answer.status (by simp)

/-- The bound of a session is never hit, and no deeper one makes a difference. -/
theorem step_agrees (session : Session) (step : Step) {depth : Nat}
    (deep : Shell.nestingBound session.catalog ≤ depth) :
    session.step step = session.stepWithin depth step ∧
      (session.step step).1 ≠ .abandoned .tooDeep := by
  cases step with
  | classify image =>
      obtain ⟨result, after, returned⟩ :=
        Execution.classify_returns session.formats image session.machine
      exact session.carryOut_of_agreesAt (.of_ok returned) ofClassification
        fun result => ofClassification_ne result _
  | register registry image =>
      obtain ⟨result, after, returned⟩ :=
        Execution.register_returns registry image session.machine
      exact session.carryOut_of_agreesAt (.of_ok returned) ofAttempt
        fun result => ofAttempt_ne result _
  | unregister registry image =>
      obtain ⟨result, after, returned⟩ :=
        Execution.unregister_returns registry image session.machine
      exact session.carryOut_of_agreesAt (.of_ok returned) ofAttempt
        fun result => ofAttempt_ne result _
  | line shell line =>
      rw [step_eq_stepWithin]
      have agrees : (Shell.runLineWithin shell _ (Text.lossy line)).AgreesAt _ session.machine :=
        Shell.agreesAt_runLineWithin deep (Text.lossy line) session.catalog.card_waiting_lt
      exact session.carryOut_of_agreesAt agrees Answer.status (by simp)
  | execute choice registry entry image =>
      exact session.execute_agrees choice registry entry image deep
  | setFormat image format =>
      refine ⟨rfl, ?_⟩
      dsimp only [step]
      cases session.catalog.setFormat image format <;> simp [keepFormat]
  | probe image format =>
      refine ⟨rfl, ?_⟩
      dsimp only [step]
      cases session.catalog.probe image format <;> simp [keepFormat]
  | release reference =>
      refine ⟨rfl, ?_⟩
      dsimp only [step]
      cases session.acquired.get reference <;> simp
  | _ => exact ⟨rfl, by simp [step]⟩

theorem step_callNests (session : Session) (step : Step) :
    ∃ recent, (session.step step).2.machine.journal = recent ++ session.machine.journal ∧
      AtCalls (CallNests session.catalog) recent := by
  by_cases creates : ∃ name buffer, step = .create name buffer
  · obtain ⟨name, buffer, rfl⟩ := creates
    exact ⟨[], rfl, atCalls_nil⟩
  · have course := course_step (Conduct.admitsSession Conduct.settled_ordinary) session step
      (fun name buffer same => absurd ⟨name, buffer, same⟩ creates)
      (fun image value _ _ _ _ => Deed.noConfusion)
    exact course.callNests Conduct.settled_creates

/-- Every step comes to its end, however deep it may nest: its bound is never hit, and
without it nothing would change.  Wherever an interpreter is called on the way, the runs
that enclose the call are of different images, and theirs are the only marks that were
not there before the step.  An image that is marked is not run. -/
theorem step_nests (session : Session) (step : Step) :
    ((session.step step).1 ≠ .abandoned .tooDeep ∧
      ∀ depth, Shell.nestingBound session.catalog ≤ depth →
        session.stepWithin depth step = session.step step) ∧
    (∃ recent, (session.step step).2.machine.journal = recent ++ session.machine.journal ∧
      AtCalls (CallNests session.catalog) recent) ∧
    ∀ (interpret : Interpreter Shells) (registry : RegistryId) (image : Handle)
      (machine : Machine Shells), (machine.catalog.image image).executing = true →
        Script.run interpret registry image machine =
          (.ok (.error (.alreadyRunning (machine.catalog.image image).name)),
            { machine with journal := .runRefused image :: machine.journal }) ∧
        Script.execute interpret registry image machine =
          (.ok Status.busy, { machine with journal := .runRefused image :: machine.journal }) := by
  refine ⟨⟨?_, ?_⟩, session.step_callNests step, ?_⟩
  · exact (session.step_agrees step (Nat.le_refl _)).2
  · intro depth deep
    exact (session.step_agrees step deep).1.symm
  · intro interpret registry image machine busy
    have refused := Script.run_apply interpret registry image machine
    rw [if_pos busy] at refused
    refine ⟨refused, ?_⟩
    rw [Script.execute, Execution.bind_apply, refused]
    rfl

/-- A script that stays on the list while it runs boots itself. -/
theorem step_nests_running :
    let bootSelf : Buffer :=
      { contents := ⟨#[98, 111, 111, 116, 32, 115, 101, 108, 102], by decide⟩ }
    let self : Image :=
      { name := "self", buffer := bootSelf, format := some Script.format, registered := true }
    let session : Session :=
      { machine :=
          { catalog :=
              { images := .ofList [self]
                registries := .ofList [{ pinned := true, listed := [0] }] }
            world := .ofList [{}] } }
    let boot : Step := .line 0 (Text.encode "boot self")
    let running := Script.begin 0 0 session.machine
    session.stepWithin 5 boot = session.step boot ∧
      callers (session.step boot).2.machine.journal = [[0], []] ∧
      AtCalls (CallNests session.catalog) (session.step boot).2.machine.journal ∧
      Script.execute (Shell.interpretWithin 0 5) 0 0 running =
        (.ok Status.busy, { running with journal := .runRefused 0 :: running.journal }) := by
  intro bootSelf self session boot running
  obtain ⟨⟨-, stable⟩, ⟨recent, added, nests⟩, refused⟩ := session.step_nests boot
  have whole : (session.step boot).2.machine.journal = recent := added.trans (List.append_nil _)
  have busy := refused (Shell.interpretWithin 0 5) 0 0 running (by decide)
  exact ⟨stable 5 (by decide), by decide +kernel, whole ▸ nests, busy.2⟩

end Session

end BootScript
