import BootScript.Proofs.Interpreters
import BootScript.Proofs.Nesting
import Mathlib.Data.Finset.Card

/-!
# Depth of nesting

Lines nest only through images that wait to be run: that are not running and have
lines.  A run takes its image from the waiting ones, and whatever its lines do, the
same images wait again when they are done.  So a nest is no deeper than there are
waiting images, and a bound beyond their number changes nothing and is never hit.
-/

namespace BootScript

namespace Catalog

/-- The images whose scripts would hand lines to an interpreter. -/
def waiting (catalog : Catalog) : Finset Handle :=
  (Finset.range catalog.images.size).filter fun image =>
    (catalog.image image).executing = false ∧ (catalog.image image).buffer.lines ≠ []

theorem mem_waiting {catalog : Catalog} {image : Handle} :
    image ∈ catalog.waiting ↔
      (catalog.image image).executing = false ∧ (catalog.image image).buffer.lines ≠ [] := by
  rw [waiting, Finset.mem_filter, Finset.mem_range]
  exact ⟨And.right, fun waits => ⟨lt_size_of_lines waits.2, waits⟩⟩

theorem card_waiting_lt (catalog : Catalog) :
    catalog.waiting.card < Shell.nestingBound catalog := by
  have atMost := Finset.card_filter_le (Finset.range catalog.images.size) fun image =>
    (catalog.image image).executing = false ∧ (catalog.image image).buffer.lines ≠ []
  rw [Finset.card_range] at atMost
  exact Nat.lt_succ_of_le atMost

theorem waiting_congr {catalog after : Catalog}
    (executing : ∀ image, (after.image image).executing = (catalog.image image).executing)
    (buffer : ∀ image, (after.image image).buffer = (catalog.image image).buffer) :
    after.waiting = catalog.waiting := by
  ext image
  rw [mem_waiting, mem_waiting, executing, buffer]

theorem waiting_hide {catalog : Catalog} {image : Handle} (registry : RegistryId) :
    (Script.hide catalog registry image).2.waiting = catalog.waiting.erase image := by
  ext other
  rw [mem_waiting, Finset.mem_erase, mem_waiting, Script.buffer_hide, Script.image_hide]
  by_cases same : other = image <;> simp [same]

end Catalog

/-- A conduct that makes no images. -/
def Conduct.settled {World : Type} : Conduct World where
  acts _ deed := ∀ name buffer, deed ≠ .create name buffer

theorem Conduct.settled_creates {World : Type} (catalog : Catalog) (name : String)
    (buffer : Buffer) : ¬(settled : Conduct World).acts catalog (.create name buffer) :=
  fun permitted => permitted name buffer rfl

theorem Conduct.settled_ordinary (catalog : Catalog) (deed : Deed) (ordinary : deed.Ordinary) :
    (settled : Conduct Shells).acts catalog deed := by
  rintro name buffer rfl
  exact ordinary

theorem Conduct.settled_admitsPlaybook : (settled : Conduct Shells).AdmitsPlaybook :=
  admitsPlaybook settled_ordinary

namespace Execution

variable {World Value Result : Type}

/-- The same images are marked as running after an execution as were before. -/
theorem FollowsAt.executing_eq {execution : Execution World Value} {machine : Machine World}
    (follows : execution.FollowsAt Conduct.settled machine) (image : Handle) :
    ((execution machine).2.catalog.image image).executing =
      (machine.catalog.image image).executing := by
  obtain ⟨-, course⟩ := follows trivial
  obtain ⟨recent, -, blank⟩ := course.recent
  have nested : Nested machine.catalog _ :=
    blank.invariant Nested.move (Nested.start { machine with journal := [] } rfl _)
  exact nested.executing_eq rfl image

/-- The same images wait after an execution as did before. -/
theorem FollowsAt.waiting_eq {execution : Execution World Value} {machine : Machine World}
    (follows : execution.FollowsAt Conduct.settled machine) :
    (execution machine).2.catalog.waiting = machine.catalog.waiting := by
  obtain ⟨-, course⟩ := follows trivial
  obtain ⟨recent, -, blank⟩ := course.recent
  have lined : Lined machine.catalog _ :=
    blank.invariant (Lined.move · Conduct.settled_creates) ⟨fun _ => rfl, by simp [Position.images,
      Position.withJournal, Conduct.outset]⟩
  exact Catalog.waiting_congr follows.executing_eq lined.buffer

/-! ## Agreement -/

/-- Two executions come to the same end, and not for want of depth. -/
def AgreesAt (first second : Execution World Value) (machine : Machine World) : Prop :=
  first machine = second machine ∧ (first machine).1 ≠ .error .tooDeep

variable {machine after : Machine World}

theorem AgreesAt.of_ok {execution : Execution World Value} {value : Value}
    (outcome : execution machine = (.ok value, after)) : execution.AgreesAt execution machine := by
  refine ⟨rfl, ?_⟩
  rw [outcome]
  simp

theorem agreesAt_pure (value : Value) :
    (pure value : Execution World Value).AgreesAt (pure value) machine :=
  .of_ok rfl

theorem AgreesAt.bind {first second : Execution World Value}
    {firstNext secondNext : Value → Execution World Result}
    (agrees : first.AgreesAt second machine)
    (next : ∀ value after, first machine = (.ok value, after) →
      (firstNext value).AgreesAt (secondNext value) after) :
    (first >>= firstNext).AgreesAt (second >>= secondNext) machine := by
  obtain ⟨same, shallow⟩ := agrees
  unfold AgreesAt
  rw [bind_apply, bind_apply, ← same]
  match outcome : first machine with
  | (.error abort, after) =>
      rw [outcome] at shallow
      refine ⟨rfl, ?_⟩
      simpa using shallow
  | (.ok value, after) => exact next value after outcome

/-- Where both executions begin with the same operation, which succeeds. -/
theorem AgreesAt.beginning {execution : Execution World Value} {value : Value}
    {firstNext secondNext : Value → Execution World Result}
    (outcome : execution machine = (.ok value, after))
    (next : (firstNext value).AgreesAt (secondNext value) after) :
    (execution >>= firstNext).AgreesAt (execution >>= secondNext) machine := by
  apply (AgreesAt.of_ok outcome).bind
  intro other machine' other'
  obtain ⟨rfl, rfl⟩ : value = other ∧ after = machine' := by
    simpa [outcome] using other'
  exact next

end Execution

/-! ## Agreement of runs -/

section Runs

variable {World : Type} {first second : Interpreter World} {depth : Nat}

theorem Script.agreesAt_runLines
    (agrees : ∀ command machine, machine.catalog.waiting.card < depth →
      (first command).AgreesAt (second command) machine)
    (follows : ∀ command, (first command).Follows Conduct.settled)
    (lines : List (Except ImageError Bytes)) {machine : Machine World}
    (enough : machine.catalog.waiting.card < depth) :
    (runLines first lines).AgreesAt (runLines second lines) machine := by
  induction lines generalizing machine with
  | nil => exact Execution.agreesAt_pure _
  | cons line rest ih =>
      cases line with
      | error cause => exact Execution.agreesAt_pure _
      | ok command =>
          apply (agrees command machine enough).bind
          intro status after outcome
          split
          · have same := (follows command machine).waiting_eq
            rw [outcome] at same
            exact ih (by rwa [same])
          · exact Execution.agreesAt_pure _

theorem Script.agreesAt_whileHidden {Value : Type} {firstBody secondBody : Execution World Value}
    {registry : RegistryId} {image : Handle} {machine : Machine World}
    (agrees : firstBody.AgreesAt secondBody (begin registry image machine)) :
    (whileHidden registry image firstBody).AgreesAt (whileHidden registry image secondBody)
      machine := by
  obtain ⟨same, shallow⟩ := agrees
  unfold Execution.AgreesAt
  rw [whileHidden_apply, whileHidden_apply, ← same]
  exact ⟨rfl, shallow⟩

/-- One run takes one image from those that wait. -/
theorem Script.agreesAt_run
    (agrees : ∀ command machine, machine.catalog.waiting.card < depth →
      (first command).AgreesAt (second command) machine)
    (follows : ∀ command, (first command).Follows Conduct.settled) (registry : RegistryId)
    (image : Handle) {machine : Machine World}
    (enough : machine.catalog.waiting.card < depth + 1) :
    (run first registry image).AgreesAt (run second registry image) machine := by
  unfold Execution.AgreesAt
  rw [run_apply, run_apply]
  cases busy : (machine.catalog.image image).executing with
  | true => simp
  | false =>
      simp only [Bool.false_eq_true, if_false]
      apply agreesAt_whileHidden
      by_cases lines : (machine.catalog.image image).buffer.lines = []
      · rw [lines]
        exact Execution.agreesAt_pure _
      · apply agreesAt_runLines agrees follows
        have waits : image ∈ machine.catalog.waiting := Catalog.mem_waiting.mpr ⟨busy, lines⟩
        have fewer := Finset.card_erase_lt_of_mem waits
        simp only [begin, Catalog.waiting_hide]
        omega

theorem Script.agreesAt_execute
    (agrees : ∀ command machine, machine.catalog.waiting.card < depth →
      (first command).AgreesAt (second command) machine)
    (follows : ∀ command, (first command).Follows Conduct.settled) (registry : RegistryId)
    (image : Handle) {machine : Machine World}
    (enough : machine.catalog.waiting.card < depth + 1) :
    (execute first registry image).AgreesAt (execute second registry image) machine := by
  apply (agreesAt_run agrees follows registry image enough).bind
  intro result after _
  cases result <;> exact Execution.agreesAt_pure _

theorem Format.agreesAt_execute
    (agrees : ∀ command machine, machine.catalog.waiting.card < depth →
      (first command).AgreesAt (second command) machine)
    (follows : ∀ command, (first command).Follows Conduct.settled) (format : Format)
    (registry : RegistryId) (image : Handle) {machine : Machine World}
    (enough : machine.catalog.waiting.card < depth + 1) :
    (format.execute first registry image).AgreesAt (format.execute second registry image)
      machine := by
  unfold Format.execute
  cases format.loader with
  | script => exact Script.agreesAt_execute agrees follows registry image enough
  | program status => exact Execution.agreesAt_pure _

theorem agreesAt_dispatch
    (agrees : ∀ command machine, machine.catalog.waiting.card < depth →
      (first command).AgreesAt (second command) machine)
    (follows : ∀ command, (first command).Follows Conduct.settled) (registry : RegistryId)
    (image : Handle) {machine : Machine World}
    (enough : machine.catalog.waiting.card < depth + 1) :
    (dispatch first registry image).AgreesAt (dispatch second registry image) machine := by
  refine .beginning rfl ?_
  dsimp only
  split
  · exact Execution.agreesAt_pure _
  · refine .beginning rfl ?_
    refine Execution.AgreesAt.bind
      (Format.agreesAt_execute agrees follows _ registry image enough) ?_
    exact fun status after _ => Execution.agreesAt_pure _

end Runs

/-! ## Agreement of shells -/

namespace Shell

variable {id : ShellId} {firstBooter secondBooter : Booter} {machine : Machine Shells}

/-- Writing always comes to an answer and leaves the catalog as it is. -/
theorem write_outcome (id : ShellId) (purpose : Purpose) (text : String)
    (machine : Machine Shells) :
    ∃ answer after, write id purpose text machine = (.ok answer, after) ∧
      after.catalog = machine.catalog :=
  ⟨_, _, rfl, rfl⟩

theorem writeAll_outcome (id : ShellId) (texts : List String) (machine : Machine Shells) :
    ∃ answer after, writeAll id texts machine = (.ok answer, after) ∧
      after.catalog = machine.catalog := by
  induction texts generalizing machine with
  | nil => exact ⟨_, _, rfl, rfl⟩
  | cons text rest ih =>
      obtain ⟨answer, between, outcome, kept⟩ := write_outcome id .result text machine
      rw [writeAll, Execution.bind_apply, outcome]
      cases answer with
      | ok =>
          obtain ⟨answer, after, outcome, keptAfter⟩ := ih between
          exact ⟨answer, after, outcome, keptAfter.trans kept⟩
      | error failure => exact ⟨_, _, rfl, kept⟩

theorem agreesAt_free (registry : RegistryId) (arguments : List String) :
    (free registry arguments).AgreesAt (free registry arguments) machine := by
  refine .beginning rfl ?_
  cases freeTarget machine.catalog registry arguments with
  | error failure => exact Execution.agreesAt_pure _
  | ok image =>
      obtain ⟨result, after, returned⟩ := Execution.unregister_returns registry image machine
      refine .beginning returned ?_
      cases result <;> exact Execution.agreesAt_pure _

theorem agreesAt_boot (boots : ∀ registry image,
      (firstBooter registry image).AgreesAt (secondBooter registry image) machine)
    (registry : RegistryId) (arguments : List String) :
    (boot firstBooter registry arguments).AgreesAt (boot secondBooter registry arguments)
      machine := by
  refine .beginning rfl ?_
  cases bootTarget machine.catalog registry arguments with
  | error failure => exact Execution.agreesAt_pure _
  | ok image =>
      apply (boots registry image).bind
      intro result after _
      cases result <;> exact Execution.agreesAt_pure _

theorem agreesAt_perform (boots : ∀ registry image,
      (firstBooter registry image).AgreesAt (secondBooter registry image) machine)
    (command : Command) :
    (perform firstBooter id command).AgreesAt (perform secondBooter id command) machine := by
  cases command with
  | echo arguments =>
      obtain ⟨answer, after, outcome, -⟩ :=
        writeAll_outcome id [" ".intercalate arguments ++ "\n"] machine
      exact .of_ok outcome
  | listImages =>
      refine .beginning rfl (.beginning rfl ?_)
      obtain ⟨answer, after, outcome, -⟩ := writeAll_outcome id _ machine
      exact .of_ok outcome
  | free arguments => exact .beginning rfl (agreesAt_free _ _)
  | boot arguments => exact .beginning rfl (agreesAt_boot boots _ _)
  | _ => exact Execution.agreesAt_pure _

/-- Two booters that agree over a catalog make lines agree over it. -/
theorem agreesAt_runLineWith (boots : ∀ other : Machine Shells, other.catalog = machine.catalog →
      ∀ registry image,
        (firstBooter registry image).AgreesAt (secondBooter registry image) other)
    (line : String) :
    (runLineWith firstBooter id line).AgreesAt (runLineWith secondBooter id line) machine := by
  refine .beginning rfl (.beginning rfl ?_)
  refine Execution.AgreesAt.bind ?_ fun result after _ => ?_
  · unfold attemptLine
    split
    · exact Execution.agreesAt_pure _
    · next command _ =>
        refine .beginning rfl ?_
        split
        · obtain ⟨answer, after, outcome, kept⟩ :=
            write_outcome id .trace ("$ " ++ line ++ "\n")
              { machine with journal := .lineBegan id line machine.catalog :: machine.journal }
          refine .beginning outcome ?_
          cases answer with
          | ok => exact agreesAt_perform (boots after kept) command
          | error failure => exact Execution.agreesAt_pure _
        · have noted := boots
            { machine with journal := .lineBegan id line machine.catalog :: machine.journal } rfl
          exact agreesAt_perform noted command
  · refine Execution.AgreesAt.bind ?_ fun status after _ => ?_
    · cases result with
      | ok status => exact Execution.agreesAt_pure _
      | error failure => exact .beginning rfl (Execution.agreesAt_pure _)
    · exact .beginning rfl (Execution.agreesAt_pure _)

/-- A bound beyond the number of waiting images is never hit, and no deeper one makes a
difference. -/
theorem agreesAt_runLineWithin {depth deeper : Nat} (deep : depth ≤ deeper) (line : String)
    (enough : machine.catalog.waiting.card < depth) :
    (runLineWithin id depth line).AgreesAt (runLineWithin id deeper line) machine := by
  induction depth generalizing deeper line machine with
  | zero => exact absurd enough (Nat.not_lt_zero _)
  | succ depth ih =>
      obtain ⟨deeper, rfl⟩ := Nat.exists_eq_add_of_lt (Nat.lt_of_lt_of_le (Nat.succ_pos _) deep)
      rw [Nat.zero_add] at deep ⊢
      refine agreesAt_runLineWith (fun other same registry image => ?_) line
      have within : other.catalog.waiting.card < depth + 1 := by rwa [same]
      refine agreesAt_dispatch ?_ ?_ registry image within
      · exact fun command machine enough =>
          ih (Nat.le_of_succ_le_succ deep) (Text.lossy command) enough
      · exact fun command =>
          follows_runLineWithin (Conduct.settled_admitsPlaybook.shells id) depth _

theorem agreesAt_interpretWithin {depth deeper : Nat} (deep : depth ≤ deeper) (command : Bytes)
    (enough : machine.catalog.waiting.card < depth) :
    (interpretWithin id depth command).AgreesAt (interpretWithin id deeper command) machine :=
  agreesAt_runLineWithin deep _ enough

end Shell

/-! ## Agreement of playbooks -/

namespace Playbook

variable {firstBooter secondBooter : Shell.Booter} {machine : Machine Shells}

theorem agreesAt_executeIfAny (boots : ∀ registry image,
      (firstBooter registry image).AgreesAt (secondBooter registry image) machine)
    (registry : RegistryId) (image : Option Handle) :
    (executeIfAny firstBooter registry image).AgreesAt (executeIfAny secondBooter registry image)
      machine := by
  cases image with
  | none => exact Execution.agreesAt_pure _
  | some image =>
      apply (boots registry image).bind
      intro result after _
      cases result <;> exact Execution.agreesAt_pure _

theorem agreesAt_perform {firstAsk secondAsk : ShellId → Execution Shells Status}
    (boots : ∀ registry image,
      (firstBooter registry image).AgreesAt (secondBooter registry image) machine)
    (asks : ∀ shell, (firstAsk shell).AgreesAt (secondAsk shell) machine) (formats : Formats)
    (registry : RegistryId) (act : Act) :
    (perform formats firstBooter firstAsk registry act).AgreesAt
      (perform formats secondBooter secondAsk registry act) machine := by
  cases act with
  | answer status => exact Execution.agreesAt_pure _
  | bootFirst => exact .beginning rfl (agreesAt_executeIfAny boots registry _)
  | boot name => exact .beginning rfl (agreesAt_executeIfAny boots registry _)
  | execute image => exact agreesAt_executeIfAny boots registry (some image)
  | register image =>
      obtain ⟨result, after, returned⟩ := Execution.register_returns registry image machine
      exact .beginning returned (Execution.agreesAt_pure _)
  | unregister image =>
      obtain ⟨result, after, returned⟩ := Execution.unregister_returns registry image machine
      exact .beginning returned (Execution.agreesAt_pure _)
  | classify image =>
      obtain ⟨result, after, returned⟩ := Execution.classify_returns formats image machine
      exact .beginning returned (Execution.agreesAt_pure _)
  | askShell shell => exact asks shell
  | panic => exact ⟨rfl, by simp [perform, Execution.abandon]⟩

theorem agreesAt_interpretWithin (playbook : Playbook) (formats : Formats)
    (registry : RegistryId) {depth deeper : Nat} (deep : depth ≤ deeper) (command : Bytes)
    (enough : machine.catalog.waiting.card < depth) :
    (playbook.interpretWithin formats registry depth command).AgreesAt
      (playbook.interpretWithin formats registry deeper command) machine := by
  induction depth generalizing deeper registry command machine with
  | zero => exact absurd enough (Nat.not_lt_zero _)
  | succ depth ih =>
      obtain ⟨deeper, rfl⟩ := Nat.exists_eq_add_of_lt (Nat.lt_of_lt_of_le (Nat.succ_pos _) deep)
      rw [Nat.zero_add] at deep ⊢
      refine .beginning rfl (.beginning rfl ?_)
      refine agreesAt_perform (fun registry image => ?_) (fun shell => ?_) formats registry _
      · refine agreesAt_dispatch ?_ ?_ registry image enough
        · exact fun command machine enough =>
            ih registry (Nat.le_of_succ_le_succ deep) command enough
        · exact fun command =>
            follows_interpretWithin Conduct.settled_admitsPlaybook playbook formats registry
              depth command
      · exact Shell.agreesAt_interpretWithin deep command enough

end Playbook

end BootScript
