import BootScript.Proofs.Following

/-!
# Shells and playbooks follow conducts

A shell asks for little: it writes to its own sink, lets go of images that its
registry lists, and runs images that its registry lists.  A playbook asks for
registrations, classifications and runs of any image over its own registry, and for
whatever the shells ask that it hands commands to.  Every conduct that admits this is
followed, at every depth of nesting.
-/

namespace BootScript

/-- What a conduct must admit for a shell to follow it. -/
structure Conduct.AdmitsShell (conduct : Conduct Shells) (id : ShellId) : Prop where
  writes : ∀ shells sink, conduct.worlds shells →
    conduct.worlds (shells.modify id fun shell => { shell with sink }) ∧
      conduct.holdings (shells.modify id fun shell => { shell with sink }) =
        conduct.holdings shells
  frees : ∀ catalog shells image, conduct.worlds shells →
    image ∈ catalog.listed (shells.get id).registry →
      conduct.acts catalog (.unregister (shells.get id).registry image)
  boots : ∀ catalog shells image, conduct.worlds shells →
    image ∈ catalog.listed (shells.get id).registry →
      conduct.runs catalog (shells.get id).registry image

namespace Shell

variable {conduct : Conduct Shells} {id : ShellId} {machine : Machine Shells}

/-! ## Shells -/

theorem mem_listed_of_bootTarget {catalog : Catalog} {registry : RegistryId} {image : Handle}
    {arguments : List String} (target : bootTarget catalog registry arguments = .ok image) :
    image ∈ catalog.listed registry := by
  unfold bootTarget at target
  split at target
  · cases found : catalog.firstClassified? registry <;> simp only [found] at target
    · simp at target
    · exact List.mem_of_find?_eq_some (Except.ok.inj target ▸ found)
  · next name =>
      cases found : catalog.find? registry name <;> simp only [found] at target
      · simp at target
      · exact List.mem_of_find?_eq_some (Except.ok.inj target ▸ found)
  · simp at target

theorem mem_listed_of_freeTarget {catalog : Catalog} {registry : RegistryId} {image : Handle}
    {arguments : List String} (target : freeTarget catalog registry arguments = .ok image) :
    image ∈ catalog.listed registry := by
  unfold freeTarget at target
  split at target
  · next name =>
      cases found : catalog.find? registry name <;> simp only [found] at target
      · simp at target
      · exact List.mem_of_find?_eq_some (Except.ok.inj target ▸ found)
  · simp at target

theorem follows_write (admits : conduct.AdmitsShell id) (purpose : Purpose) (text : String) :
    (write id purpose text).Follows conduct := by
  intro machine kept
  obtain ⟨keptAfter, sameHoldings⟩ := admits.writes machine.world
    ((machine.world.get id).sink.write (Text.encode text)).2 kept
  refine ⟨keptAfter, ?_⟩
  have turned : Move conduct (conduct.outset machine) _ := .turn (conduct.outset machine)
    (write id purpose text machine).2.world
  have remarked : Move conduct _ _ := .remark
    { conduct.outset machine with
      machine := { machine with world := (write id purpose text machine).2.world } }
    (.wrote id purpose text) trivial
  have reached : conduct.outset (write id purpose text machine).2 =
      ({ conduct.outset machine with
          machine := { machine with world := (write id purpose text machine).2.world } } :
        Position Shells).note (.wrote id purpose text) := by
    simp only [Conduct.outset, write, Position.note, sameHoldings]
    rfl
  rw [reached]
  exact (Relation.ReflTransGen.single turned).tail remarked

theorem follows_writeAll (admits : conduct.AdmitsShell id) (texts : List String) :
    (writeAll id texts).Follows conduct := by
  induction texts with
  | nil => exact Execution.follows_pure _
  | cons text rest ih =>
      apply (follows_write admits .result text).bind
      intro answer
      cases answer with
      | ok => exact ih
      | error failure => exact Execution.follows_pure _

theorem followsAt_current {Result : Type} {next : Shell → Execution Shells Result}
    (second : (next (machine.world.get id)).FollowsAt conduct machine) :
    (current id >>= next).FollowsAt conduct machine := by
  apply Execution.FollowsAt.bind (.of_unchanged rfl)
  rintro _ _ ⟨⟩
  exact second

theorem followsAt_free (admits : conduct.AdmitsShell id) (arguments : List String) :
    (free (machine.world.get id).registry arguments).FollowsAt conduct machine := by
  intro kept
  refine Execution.FollowsAt.after_catalog ?_ kept
  cases target : freeTarget machine.catalog (machine.world.get id).registry arguments with
  | error failure => exact Execution.follows_pure _ machine
  | ok image =>
      have permitted := admits.frees machine.catalog machine.world image kept
        (mem_listed_of_freeTarget target)
      apply (Execution.followsAt_unregister permitted).bind
      intro result after _
      cases result <;> exact Execution.follows_pure _ after

theorem followsAt_boot {booter : Booter} (admits : conduct.AdmitsShell id)
    (boots : ∀ machine registry image, conduct.runs machine.catalog registry image →
      (booter registry image).FollowsAt conduct machine) (arguments : List String) :
    (boot booter (machine.world.get id).registry arguments).FollowsAt conduct machine := by
  intro kept
  refine Execution.FollowsAt.after_catalog ?_ kept
  cases target : bootTarget machine.catalog (machine.world.get id).registry arguments with
  | error failure => exact Execution.follows_pure _ machine
  | ok image =>
      have permitted := admits.boots machine.catalog machine.world image kept
        (mem_listed_of_bootTarget target)
      apply (boots machine _ image permitted).bind
      intro result after _
      cases result <;> exact Execution.follows_pure _ after

theorem follows_perform {booter : Booter} (admits : conduct.AdmitsShell id)
    (boots : ∀ machine registry image, conduct.runs machine.catalog registry image →
      (booter registry image).FollowsAt conduct machine) (command : Command) :
    (perform booter id command).Follows conduct := by
  intro machine
  cases command with
  | echo arguments => exact follows_writeAll admits _ machine
  | listImages =>
      refine followsAt_current (.after_catalog ?_)
      exact follows_writeAll admits _ machine
  | free arguments => exact followsAt_current (followsAt_free admits arguments)
  | boot arguments => exact followsAt_current (followsAt_boot admits boots arguments)
  | _ => exact Execution.follows_pure _ machine

theorem follows_traceAndPerform {booter : Booter} (admits : conduct.AdmitsShell id)
    (boots : ∀ machine registry image, conduct.runs machine.catalog registry image →
      (booter registry image).FollowsAt conduct machine) (line : String) (command : Command) :
    (traceAndPerform booter id line command).Follows conduct := by
  intro machine
  apply followsAt_current
  split
  · apply ((follows_write admits .trace _) machine).bind
    intro answer after _
    cases answer with
    | ok => exact follows_perform admits boots command after
    | error failure => exact Execution.follows_pure _ after
  · exact follows_perform admits boots command machine

theorem follows_attemptLine {booter : Booter} (admits : conduct.AdmitsShell id)
    (boots : ∀ machine registry image, conduct.runs machine.catalog registry image →
      (booter registry image).FollowsAt conduct machine) (line : String) :
    (attemptLine booter id line).Follows conduct := by
  unfold attemptLine
  split
  · exact Execution.follows_pure _
  · exact follows_traceAndPerform admits boots line _

theorem follows_conclude (admits : conduct.AdmitsShell id)
    (result : Except ShellError Status) : (conclude id result).Follows conduct := by
  cases result with
  | ok status => exact Execution.follows_pure _
  | error failure =>
      exact (follows_write admits .complaint _).bind fun _ => Execution.follows_pure _

theorem follows_runLineWith {booter : Booter} (admits : conduct.AdmitsShell id)
    (boots : ∀ machine registry image, conduct.runs machine.catalog registry image →
      (booter registry image).FollowsAt conduct machine) (line : String) :
    (runLineWith booter id line).Follows conduct := by
  intro machine
  refine .after_catalog (.after_note rfl ?_)
  apply (follows_attemptLine admits boots line _).bind
  intro result after _
  apply (follows_conclude admits result after).bind
  intro status after _
  exact .after_note trivial (Execution.follows_pure _ _)

/-- The step from one depth to the next is the step into a run. -/
theorem follows_runLineWithin (admits : conduct.AdmitsShell id) (depth : Nat) (line : String) :
    (runLineWithin id depth line).Follows conduct := by
  induction depth generalizing line with
  | zero => exact Execution.follows_abandon _
  | succ depth ih =>
      refine follows_runLineWith admits ?_ line
      intro machine registry image permitted
      exact followsAt_dispatch permitted fun command => ih (Text.lossy command)

theorem runLine_apply (id : ShellId) (line : String) (machine : Machine Shells) :
    runLine id line machine = runLineWithin id (nestingBound machine.catalog) line machine := rfl

theorem follows_runLine (admits : conduct.AdmitsShell id) (line : String) :
    (runLine id line).Follows conduct := by
  intro machine
  have follows := follows_runLineWithin admits (nestingBound machine.catalog) line machine
  unfold Execution.FollowsAt at follows ⊢
  rwa [runLine_apply]

theorem follows_interpretWithin (admits : conduct.AdmitsShell id) (depth : Nat)
    (command : Bytes) : (interpretWithin id depth command).Follows conduct :=
  follows_runLineWithin admits depth _

end Shell

/-! ## Playbooks -/

/-- What a conduct must admit for every playbook to follow it. -/
structure Conduct.AdmitsPlaybook (conduct : Conduct Shells) : Prop where
  shells : ∀ id, conduct.AdmitsShell id
  registers : ∀ catalog registry image, conduct.acts catalog (.register registry image)
  unregisters : ∀ catalog registry image, conduct.acts catalog (.unregister registry image)
  classifies : ∀ catalog image format, conduct.acts catalog (.setFormat image format)
  runs : ∀ catalog registry image, conduct.runs catalog registry image

theorem Conduct.admitsPlaybook {acts : Catalog → Deed → Prop}
    (ordinary : ∀ catalog deed, deed.Ordinary → acts catalog deed) :
    ({ acts } : Conduct Shells).AdmitsPlaybook where
  shells _ :=
    { writes := fun _ _ _ => ⟨trivial, rfl⟩
      frees := fun _ _ _ _ _ => ordinary _ _ trivial
      boots := fun _ _ _ _ _ => trivial }
  registers _ _ _ := ordinary _ _ trivial
  unregisters _ _ _ := ordinary _ _ trivial
  classifies _ _ _ := ordinary _ _ trivial
  runs _ _ _ := trivial

namespace Playbook

variable {conduct : Conduct Shells}

theorem follows_executeIfAny {booter : Shell.Booter}
    (boots : ∀ registry image, (booter registry image).Follows conduct) (registry : RegistryId)
    (image : Option Handle) : (executeIfAny booter registry image).Follows conduct := by
  cases image with
  | none => exact Execution.follows_pure _
  | some image =>
      apply (boots registry image).bind
      intro result
      cases result <;> exact Execution.follows_pure _

theorem follows_perform {booter : Shell.Booter} {askShell : ShellId → Execution Shells Status}
    (admits : conduct.AdmitsPlaybook)
    (boots : ∀ registry image, (booter registry image).Follows conduct)
    (asks : ∀ shell, (askShell shell).Follows conduct) (formats : Formats)
    (registry : RegistryId) (act : Act) :
    (perform formats booter askShell registry act).Follows conduct := by
  intro machine
  cases act with
  | answer status => exact Execution.follows_pure _ machine
  | bootFirst => exact .after_catalog (follows_executeIfAny boots registry _ machine)
  | boot name => exact .after_catalog (follows_executeIfAny boots registry _ machine)
  | execute image => exact follows_executeIfAny boots registry _ machine
  | register image =>
      apply (Execution.followsAt_register (admits.registers _ _ _)).bind
      intro _ after _
      exact Execution.follows_pure _ after
  | unregister image =>
      apply (Execution.followsAt_unregister (admits.unregisters _ _ _)).bind
      intro _ after _
      exact Execution.follows_pure _ after
  | classify image =>
      apply (Execution.followsAt_classify (admits.classifies _ _)).bind
      intro _ after _
      exact Execution.follows_pure _ after
  | askShell shell => exact asks shell machine
  | panic => exact Execution.follows_abandon _ machine

theorem follows_interpretWithin (admits : conduct.AdmitsPlaybook) (playbook : Playbook)
    (formats : Formats) (registry : RegistryId) (depth : Nat) (command : Bytes) :
    (playbook.interpretWithin formats registry depth command).Follows conduct := by
  induction depth generalizing registry command with
  | zero => exact Execution.follows_abandon _
  | succ depth ih =>
      intro machine
      refine .after_catalog (.after_note rfl ?_)
      refine follows_perform admits ?_ ?_ formats registry _ _
      · exact fun registry image machine =>
          followsAt_dispatch (admits.runs _ _ _) fun command => ih registry command
      · exact fun shell => Shell.follows_interpretWithin (admits.shells shell) _ command

end Playbook

end BootScript
