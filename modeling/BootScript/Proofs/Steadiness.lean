import BootScript.Proofs.PlainLoop
import BootScript.Proofs.References

/-!
# Lines that boot nothing

A line that boots nothing leaves the catalog as it is, whatever becomes of its output, unless
it lets an image go.  It lets go of the first image of the name that it gives, and then it
succeeds.  So a line that fails has changed nothing but output.
-/

namespace BootScript

/-! ## Commands by their words -/

namespace Command

theorem ofName_eq_free {name : String} {arguments others : List String}
    (frees : ofName name arguments = .free others) : name = "imgfree" ∧ arguments = others := by
  unfold ofName at frees
  split at frees <;> simp_all

theorem ofName_eq_boot {name : String} {arguments others : List String}
    (boots : ofName name arguments = .boot others) : name = "boot" ∨ name = "imgexec" := by
  unfold ofName at boots
  split at boots <;> simp_all

theorem ofLine?_eq_some_iff {line : String} {command : Command} :
    ofLine? line = some command ↔
      ∃ name arguments, Text.words line = name :: arguments ∧ isComment name = false ∧
        ofName name arguments = command := by
  unfold ofLine?
  cases Text.words line with
  | nil => simp [ofWords?]
  | cons name arguments => by_cases comment : isComment name <;> simp [ofWords?, comment]

theorem ofLine?_eq_free_iff {line : String} {arguments : List String} :
    ofLine? line = some (.free arguments) ↔ Text.words line = "imgfree" :: arguments := by
  rw [ofLine?_eq_some_iff]
  constructor
  · rintro ⟨name, others, words, -, frees⟩
    obtain ⟨rfl, rfl⟩ := ofName_eq_free frees
    exact words
  · intro words
    exact ⟨"imgfree", arguments, words, by decide, rfl⟩

theorem ne_boot_of_head? {line : String} {command : Command}
    (plain : ∀ name ∈ (Text.words line).head?, name ≠ "boot" ∧ name ≠ "imgexec")
    (asks : ofLine? line = some command) (arguments : List String) : command ≠ .boot arguments := by
  rintro rfl
  obtain ⟨name, others, words, -, boots⟩ := ofLine?_eq_some_iff.mp asks
  obtain ⟨notBoot, notExecute⟩ := plain name (by rw [words]; rfl)
  rcases ofName_eq_boot boots with boot | execute
  · exact notBoot boot
  · exact notExecute execute

end Command

/-! ## Letting an image go -/

namespace Catalog

/-- The first listed image of a name is let go, and all else stays as it is. -/
structure LetsGo (registry : RegistryId) (name : String) (image : Handle)
    (before after : Catalog) : Prop where
  named : (before.image image).name = name
  lists : ∃ earlier later, before.listed registry = earlier ++ image :: later ∧
    (∀ each ∈ earlier, (before.image each).name ≠ name) ∧
    after.listed registry = earlier ++ later
  flag : after.image image = { before.image image with registered := false }
  images : ∀ other, other ≠ image → after.image other = before.image other
  registries : ∀ other, other ≠ registry → after.registry other = before.registry other
  policy : (after.registry registry).toPolicy = (before.registry registry).toPolicy
  references : after.references image + 1 = before.references image
  otherReferences : ∀ other, other ≠ image → after.references other = before.references other

variable {catalog after : Catalog} {registry : RegistryId} {name : String} {image : Handle}

/-- The image that is looked up by name is found again as itself, at the same place. -/
theorem letsGo_of_unregister (found : catalog.find? registry name = some image)
    (freed : catalog.unregister registry image = .ok after) :
    LetsGo registry name image catalog after := by
  obtain ⟨-, member, rfl⟩ := unregister_eq_ok_iff.mp freed
  obtain ⟨named, earlier, later, split, others⟩ := List.find?_eq_some_iff_append.mp found
  have named : (catalog.image image).name = name := of_decide_eq_true named
  have others : ∀ each ∈ earlier, (catalog.image each).name ≠ name := fun each member same =>
    absurd (others each member) (by simp [same])
  have absent : image ∉ earlier := fun member => others image member named
  have erased : (catalog.listed registry).erase image = earlier ++ later := by
    rw [split, List.erase_append_right _ absent, List.erase_cons_head]
  rw [erased]
  have entry : (earlier ++ later).count image + 1 = (catalog.listed registry).count image := by
    rw [split, List.count_append, List.count_append, List.count_cons_self, Nat.add_assoc]
  have others' (other : Handle) (differs : other ≠ image) :
      (earlier ++ later).count other = (catalog.listed registry).count other := by
    rw [split, List.count_append, List.count_append, List.count_cons_of_ne differs.symm]
  refine ⟨named, ⟨earlier, later, split, others, ?_⟩, ?_, ?_, ?_, ?_, ?_, ?_⟩
  · simp
  · simp
  · intro other differs
    simp [differs]
  · intro other differs
    simp [differs]
  · simp
  · have fewer := @entries_of_removed catalog
      ((catalog.setRegistered image false).setListed registry (earlier ++ later)) registry image
      (by simpa using entry) (fun other differs => by simp [differs])
    simp only [references, image_setListed, image_setRegistered, if_true]
    omega
  · intro other differs
    have same := @entries_congr catalog
      ((catalog.setRegistered image false).setListed registry (earlier ++ later)) other
      (fun each => by
        by_cases this : each = registry
        · subst this
          simpa using others' other differs
        · simp [this])
    simp [references, same, differs]

end Catalog

namespace Shell

variable {id : ShellId} {line : String} {booter : Booter} {machine : Machine Shells}

/-! ## Commands -/

/-- What becomes of a command that boots nothing. -/
inductive CommandDoes (catalog : Catalog) (registry : RegistryId) (command : Command) :
    Except ShellError Status → Catalog → Prop
  | frees {name : String} {image : Handle} {after : Catalog} (asks : command = .free [name])
      (found : catalog.find? registry name = some image)
      (freed : catalog.unregister registry image = .ok after) :
      CommandDoes catalog registry command (.ok Status.success) after
  | keeps {answer : Except ShellError Status}
      (idle : ∀ name, command = .free [name] → catalog.find? registry name = none) :
      CommandDoes catalog registry command answer catalog

theorem free_does {registry : RegistryId} (arguments : List String)
    (unpinned : (machine.catalog.registry registry).pinned = false) :
    ∃ answer after, free registry arguments machine = (.ok answer, after) ∧
      CommandDoes machine.catalog registry (.free arguments) answer after.catalog := by
  simp only [free, Execution.bind_apply, Execution.catalog]
  cases target : freeTarget machine.catalog registry arguments with
  | error failure =>
      refine ⟨.error failure, machine, rfl, .keeps ?_⟩
      rintro name ⟨⟩
      rw [Option.eq_none_iff_forall_ne_some]
      intro image found
      simp [freeTarget, found] at target
  | ok image =>
      have member := mem_listed_of_freeTarget target
      have freed := Catalog.unregister_eq_ok_iff.mpr ⟨unpinned, member, rfl⟩
      simp only [Execution.bind_apply, Execution.unregister_apply, freed]
      refine ⟨.ok Status.success, _, rfl, ?_⟩
      unfold freeTarget at target
      split at target
      · next name =>
          cases found : machine.catalog.find? registry name with
          | none => simp [found] at target
          | some first =>
              obtain rfl : first = image := by simpa [found] using target
              exact .frees rfl found freed
      · cases target

theorem perform_does {command : Command} (plain : ∀ arguments, command ≠ .boot arguments)
    (unpinned : (machine.catalog.registry (machine.world.get id).registry).pinned = false) :
    ∃ answer after, perform booter id command machine = (.ok answer, after) ∧
      CommandDoes machine.catalog (machine.world.get id).registry command answer after.catalog := by
  cases command with
  | echo arguments =>
      obtain ⟨answer, after, returned, kept⟩ :=
        writeAll_outcome id [" ".intercalate arguments ++ "\n"] machine
      exact ⟨answer, after, returned, kept ▸ .keeps nofun⟩
  | listImages =>
      obtain ⟨answer, after, returned, kept⟩ := writeAll_outcome id
        ((machine.catalog.listed (machine.world.get id).registry).map fun image =>
          imageLine (machine.catalog.image image)) machine
      exact ⟨answer, after, returned, kept ▸ .keeps nofun⟩
  | free arguments => exact free_does arguments unpinned
  | boot arguments => exact absurd rfl (plain arguments)
  | _ => exact ⟨_, machine, rfl, .keeps nofun⟩

/-! ## Lines -/

/-- The line lets this image go: it is the first of the name that the line gives, and the
trace of the line, if there is one, is written. -/
structure Frees (shell : Shell) (catalog : Catalog) (line name : String) (image : Handle) :
    Prop where
  words : Text.words line = ["imgfree", name]
  found : catalog.find? shell.registry name = some image
  traced : shell.traceCommands = true →
    (shell.sink.write (Text.encode ("$ " ++ line ++ "\n"))).1 = true

theorem Frees.unique {shell : Shell} {catalog : Catalog} {name other : String}
    {image counterpart : Handle} (frees : shell.Frees catalog line name image)
    (frees' : shell.Frees catalog line other counterpart) : name = other ∧ image = counterpart := by
  have words := frees.words.symm.trans frees'.words
  obtain rfl : name = other := by simpa using words
  exact ⟨rfl, Option.some.inj (frees.found.symm.trans frees'.found)⟩

/-- What becomes of a line that boots nothing. -/
inductive LineDoes (shell : Shell) (catalog : Catalog) (line : String) :
    Except ShellError Status → Catalog → Prop
  | frees {name : String} {image : Handle} {after : Catalog}
      (frees : shell.Frees catalog line name image)
      (freed : catalog.unregister shell.registry image = .ok after) :
      LineDoes shell catalog line (.ok Status.success) after
  | keeps {answer : Except ShellError Status}
      (idle : ∀ name image, ¬shell.Frees catalog line name image) :
      LineDoes shell catalog line answer catalog

theorem CommandDoes.lineDoes {shell : Shell} {catalog after : Catalog} {command : Command}
    {answer : Except ShellError Status} (asks : Command.ofLine? line = some command)
    (traced : shell.traceCommands = true →
      (shell.sink.write (Text.encode ("$ " ++ line ++ "\n"))).1 = true)
    (does : CommandDoes catalog shell.registry command answer after) :
    LineDoes shell catalog line answer after := by
  cases does with
  | frees same found freed =>
      have words := Command.ofLine?_eq_free_iff.mp (asks.trans (congrArg some same))
      exact .frees ⟨words, found, traced⟩ freed
  | keeps idle =>
      refine .keeps fun name image frees => ?_
      have same := asks.symm.trans (Command.ofLine?_eq_free_iff.mpr frees.words)
      have absent := idle name (Option.some.inj same)
      rw [frees.found] at absent
      cases absent

theorem traceAndPerform_does {command : Command} (asks : Command.ofLine? line = some command)
    (plain : ∀ arguments, command ≠ .boot arguments)
    (unpinned : (machine.catalog.registry (machine.world.get id).registry).pinned = false) :
    ∃ answer after, traceAndPerform booter id line command machine = (.ok answer, after) ∧
      LineDoes (machine.world.get id) machine.catalog line answer after.catalog := by
  simp only [traceAndPerform, current, Execution.bind_apply]
  by_cases traces : (machine.world.get id).traceCommands = true
  · rw [if_pos traces, Execution.bind_apply]
    simp only [write]
    by_cases complete :
        ((machine.world.get id).sink.write (Text.encode ("$ " ++ line ++ "\n"))).1 = true
    · rw [if_pos complete]
      let traced := (write id .trace ("$ " ++ line ++ "\n") machine).2
      have same : (traced.world.get id).registry = (machine.world.get id).registry := by
        simp [traced, write]
      obtain ⟨answer, after, returned, does⟩ :=
        @perform_does id booter traced command plain (by rw [same]; exact unpinned)
      rw [same] at does
      exact ⟨answer, after, returned, does.lineDoes asks fun _ => complete⟩
    · rw [if_neg complete]
      refine ⟨_, _, rfl, .keeps fun name image frees => ?_⟩
      exact complete (frees.traced traces)
  · rw [if_neg traces]
    obtain ⟨answer, after, returned, does⟩ := perform_does plain unpinned
    exact ⟨answer, after, returned, does.lineDoes asks fun traces' => absurd traces' traces⟩

theorem attemptLine_does
    (plain : ∀ name ∈ (Text.words line).head?, name ≠ "boot" ∧ name ≠ "imgexec")
    (unpinned : (machine.catalog.registry (machine.world.get id).registry).pinned = false) :
    ∃ answer after, attemptLine booter id line machine = (.ok answer, after) ∧
      LineDoes (machine.world.get id) machine.catalog line answer after.catalog := by
  unfold attemptLine
  cases asks : Command.ofLine? line with
  | none =>
      refine ⟨_, machine, rfl, .keeps fun name image frees => ?_⟩
      rw [Command.ofLine?_eq_free_iff.mpr frees.words] at asks
      cases asks
  | some command =>
      exact traceAndPerform_does asks (Command.ne_boot_of_head? plain asks) unpinned

/-! ## Output -/

/-- Nothing but the output of one shell differs. -/
structure SinkOnly (id : ShellId) (before after : Shells) : Prop where
  others : ∀ other, other ≠ id → after.get other = before.get other
  shell : ∃ sink, after.get id = { before.get id with sink }

theorem sinkOnly_runLine (id : ShellId) (line : String) (machine : Machine Shells) :
    SinkOnly id machine.world (runLine id line machine).2.world := by
  have keeps : KeepsShells (SinkOnly id machine.world) (runLine id line) := by
    refine keepsShells_runLine (fun between purpose text same => ⟨?_, ?_⟩) line
    · intro other differs
      simpa [write, differs] using same.others other differs
    · obtain ⟨sink, shell⟩ := same.shell
      simp [write, shell]
  exact (keeps machine ⟨fun _ _ => rfl, _, rfl⟩).2

theorem catalog_complain (id : ShellId) (answer : Except ShellError Status)
    (machine : Machine Shells) : (complain id answer machine).catalog = machine.catalog := by
  cases answer <;> rfl

/-- A line that boots nothing changes nothing but output, unless it lets an image go.  It does so
if it names a listed image and its trace is not in the way, and only then. -/
theorem runLine_lets_go
    (plain : ∀ name ∈ (Text.words line).head?, name ≠ "boot" ∧ name ≠ "imgexec")
    (unpinned : (machine.catalog.registry (machine.world.get id).registry).pinned = false) :
    let shell := machine.world.get id
    ∃ status after, runLine id line machine = (.ok status, after) ∧
      SinkOnly id machine.world after.world ∧
      (∀ name image, shell.Frees machine.catalog line name image →
        status = Status.success ∧
          machine.catalog.LetsGo shell.registry name image after.catalog) ∧
      ((∀ name image, ¬shell.Frees machine.catalog line name image) →
        after.catalog = machine.catalog) ∧
      (status ≠ Status.success → after.catalog = machine.catalog) := by
  intro shell
  have output := sinkOnly_runLine id line machine
  obtain ⟨answer, between, attempted, does⟩ :=
    @attemptLine_does id line (booterWithin id machine.catalog.images.size)
      (beginLine id line machine) plain unpinned
  have returned : runLine id line machine = (.ok (Ending.status answer),
      endLine id (Ending.status answer) (complain id answer between)) := by
    rw [runLine_eq_asLine, asLine_apply, attempted]
  rw [returned] at output
  refine ⟨_, _, returned, output, ?_⟩
  have catalog : (endLine id (Ending.status answer) (complain id answer between)).catalog =
      between.catalog := catalog_complain id answer between
  rw [catalog]
  change LineDoes shell machine.catalog line answer between.catalog at does
  generalize between.catalog = left at does ⊢
  cases does with
  | frees frees freed =>
      refine ⟨?_, fun idle => absurd frees (idle _ _), fun failed => absurd rfl failed⟩
      intro name image frees'
      obtain ⟨rfl, rfl⟩ := frees.unique frees'
      exact ⟨rfl, Catalog.letsGo_of_unregister frees.found freed⟩
  | keeps idle =>
      exact ⟨fun name image frees => absurd frees (idle name image), fun _ => rfl, fun _ => rfl⟩

/-- Of two images of one name the first is let go. -/
theorem runLine_lets_go_first :
    let machine := ((Session.start [{}] [{ traceCommands := true }] {}).after
      [.create "b" default, .create "a" default, .create "a" default, .register 0 0, .register 0 1,
        .register 0 2]).machine
    ∃ after, runLine 0 "imgfree a" machine = (.ok Status.success, after) ∧
      machine.catalog.LetsGo 0 "a" 1 after.catalog ∧ after.catalog.listed 0 = [0, 2] := by
  intro machine
  have plain : ∀ name ∈ (Text.words "imgfree a").head?, name ≠ "boot" ∧ name ≠ "imgexec" := by
    decide
  have serves : (machine.world.get 0).registry = 0 := by decide
  have unpinned : (machine.catalog.registry (machine.world.get 0).registry).pinned = false := by
    decide
  have frees : (machine.world.get 0).Frees machine.catalog "imgfree a" "a" 1 :=
    ⟨by decide, by decide, by decide⟩
  have left : (runLine 0 "imgfree a" machine).2.catalog.listed 0 = [0, 2] := by decide +kernel
  clear_value machine
  obtain ⟨status, after, returned, -, lets, -⟩ := runLine_lets_go plain unpinned
  obtain ⟨rfl, letsGo⟩ := lets "a" 1 frees
  rw [serves] at letsGo
  rw [returned] at left
  exact ⟨after, returned, letsGo, left⟩

end Shell

end BootScript
