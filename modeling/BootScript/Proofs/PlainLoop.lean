import BootScript.Proofs.BufferLines
import BootScript.Proofs.Logic
import BootScript.Proofs.Sessions
import BootScript.Proofs.Unlisted

/-!
# Booting by a plain loop

A boot marks its image, holds it, hides it and hands its lines to the shell from within a
line.  A shell that takes an image off the list, runs its lines one after another until one
fails, and puts the image back on the list comes to the same end.  The mark tells a shell
nothing while the image is not listed.
-/

namespace BootScript

theorem Execution.AgreesAt.symm {World Value : Type} {first second : Execution World Value}
    {machine : Machine World} (agrees : first.AgreesAt second machine) :
    second.AgreesAt first machine :=
  ⟨agrees.1.symm, agrees.1 ▸ agrees.2⟩

namespace Shell

variable {id : ShellId}

/-! ## The loop -/

/-- Run lines one after another, up to the first that fails. -/
def runUntilFailure (id : ShellId) : List String → Execution Shells Status
  | [] => pure Status.success
  | line :: rest => do
      let status ← runLine id line
      if status = Status.success then runUntilFailure id rest else pure status

/-- The pieces of a script between newlines, each cut at its first zero byte. -/
def scriptCommands (image : Image) : List Bytes :=
  (Buffer.splitLines image.buffer.contents.bytes.toList).map Buffer.cutAtZero

/-- Take an image off the list, run its lines, and put it back on the list. -/
def bootPlainly (id : ShellId) (registry : RegistryId) (image : Handle) :
    Execution Shells Status := do
  let script := (← Execution.catalog).image image
  let _ ← Execution.unregister registry image
  let status ← runUntilFailure id ((scriptCommands script).map Text.lossy)
  let _ ← Execution.register registry image
  pure status

theorem lines_eq_scriptCommands {image : Image} (readable : image.buffer.readable = none) :
    image.buffer.lines = (scriptCommands image).map .ok := by
  rw [Buffer.lines_eq readable, scriptCommands, List.map_map]
  rfl

theorem runUntilFailure_eq (commands : List Bytes) (machine : Machine Shells) :
    ∃ result after,
      Script.runLines (fun command => runLine id (Text.lossy command)) (commands.map .ok)
        machine = (.ok result, after) ∧
      runUntilFailure id (commands.map Text.lossy) machine =
        (.ok (Ending.status result), after) := by
  induction commands generalizing machine with
  | nil => exact ⟨.ok (), machine, rfl, rfl⟩
  | cons command rest ih =>
      obtain ⟨status, between, returned⟩ := runLine_returns id (Text.lossy command) machine
      simp only [List.map_cons, Script.runLines, runUntilFailure, Execution.bind_apply, returned]
      by_cases succeeded : status = Status.success
      · rw [if_pos succeeded, if_pos succeeded]
        exact ih between
      · rw [if_neg succeeded, if_neg succeeded]
        exact ⟨_, between, rfl, rfl⟩

/-- Any bound beyond the number of waiting images will do. -/
theorem agreesAt_runLine {depth : Nat} {machine : Machine Shells} (line : String)
    (enough : machine.catalog.waiting.card < depth) :
    (runLineWithin id depth line).AgreesAt (runLine id line) machine := by
  have agrees : (runLineWithin id depth line).AgreesAt
      (runLineWithin id (nestingBound machine.catalog) line) machine := by
    rcases Nat.le_total depth (nestingBound machine.catalog) with deep | deep
    · exact agreesAt_runLineWithin deep line enough
    · exact (agreesAt_runLineWithin deep line machine.catalog.card_waiting_lt).symm
  unfold Execution.AgreesAt at agrees ⊢
  rwa [runLine_apply]

theorem agreesAt_runLines {depth : Nat} {machine : Machine Shells}
    (enough : machine.catalog.waiting.card < depth) (commands : List Bytes) :
    (Script.runLines (interpretWithin id depth) (commands.map .ok)).AgreesAt
      (Script.runLines (fun command => runLine id (Text.lossy command)) (commands.map .ok))
      machine := by
  refine Script.agreesAt_runLines (fun command machine => agreesAt_runLine _) ?_ _ enough
  exact fun command =>
    follows_runLineWithin (Conduct.settled_admitsPlaybook.shells id) depth (Text.lossy command)

/-! ## A boot -/

section Booting

variable {registry : RegistryId} {image : Handle} {format : Format} {arguments : List String}
  {line : String} {machine left : Machine Shells}

theorem execute_of_runLines {interpret : Interpreter Shells} {result : Except ScriptError Unit}
    (idle : (machine.catalog.image image).executing = false)
    (ran : Script.runLines interpret (machine.catalog.image image).buffer.lines
      (Script.begin registry image machine) = (.ok result, left)) :
    Script.execute interpret registry image machine =
      (.ok (Ending.status result),
        Script.finish registry image (Script.hide machine.catalog registry image).1 left) := by
  rw [Script.execute, Execution.bind_apply, Script.run_apply, idle, if_neg Bool.false_ne_true,
    Script.whileHidden_apply, ran]
  cases result <;> rfl

theorem dispatch_of_execute {interpret : Interpreter Shells} {status : Status}
    (script : (machine.catalog.image image).format = some format)
    (loads : format.loader = .script)
    (executed : Script.execute interpret registry image
      { machine with journal := .dispatched image :: machine.journal } = (.ok status, left)) :
    dispatch interpret registry image machine = (.ok (.ok status), left) := by
  have executes : format.execute interpret registry image
      { machine with journal := .dispatched image :: machine.journal } = (.ok status, left) := by
    simp only [Format.execute, loads, executed]
  rw [dispatch_of_some script, executes]
  rfl

theorem attemptLine_of_booter {booter : Booter} {status : Status}
    (serves : (machine.world.get id).registry = registry)
    (untraced : (machine.world.get id).traceCommands = false)
    (command : Command.ofLine? line = some (.boot arguments))
    (selects : bootTarget machine.catalog registry arguments = .ok image)
    (booted : booter registry image machine = (.ok (.ok status), left)) :
    attemptLine booter id line machine = (.ok (.ok status), left) := by
  have performed : perform booter id (.boot arguments) machine = (.ok (.ok status), left) := by
    simp only [perform, boot, current, Execution.bind_apply, serves, Execution.catalog, selects,
      booted]
    rfl
  simp only [attemptLine, command, traceAndPerform, current, Execution.bind_apply, untraced]
  exact performed

/-- A machine on which a line has handed an image to its format. -/
def handOver (id : ShellId) (line : String) (image : Handle) (machine : Machine Shells) :
    Machine Shells :=
  { beginLine id line machine with
    journal := .dispatched image :: (beginLine id line machine).journal }

theorem world_handOver : (handOver id line image machine).world = machine.world := rfl

theorem runLineWithin_of_runLines {depth : Nat} {result : Except ScriptError Unit}
    (serves : (machine.world.get id).registry = registry)
    (untraced : (machine.world.get id).traceCommands = false)
    (command : Command.ofLine? line = some (.boot arguments))
    (selects : bootTarget machine.catalog registry arguments = .ok image)
    (script : (machine.catalog.image image).format = some format)
    (loads : format.loader = .script) (idle : (machine.catalog.image image).executing = false)
    (ran : Script.runLines (interpretWithin id depth) (machine.catalog.image image).buffer.lines
      (Script.begin registry image (handOver id line image machine)) = (.ok result, left)) :
    runLineWithin id (depth + 1) line machine =
      (.ok (Ending.status result), endLine id (Ending.status result)
        (Script.finish registry image (Script.hide machine.catalog registry image).1 left)) := by
  have executed : Script.execute (interpretWithin id depth) registry image
      (handOver id line image machine) = _ := execute_of_runLines idle ran
  have booted : booterWithin id depth registry image (beginLine id line machine) = _ :=
    dispatch_of_execute script loads executed
  have attempted : attemptLine (booterWithin id depth) id line (beginLine id line machine) = _ :=
    attemptLine_of_booter serves untraced command selects booted
  exact runLineWithin_of_attempt attempted

/-! ## Side by side -/

/-- A listed image is marked, held and taken off the list when its run begins. -/
theorem hide_of_listed {catalog : Catalog}
    (unpinned : (catalog.registry registry).pinned = false)
    (once : (catalog.listed registry).Nodup) (listed : image ∈ catalog.listed registry) :
    (Script.hide catalog registry image).1 = true ∧
      (Script.hide catalog registry image).2.image image =
        { catalog.image image with
          executing := true, held := (catalog.image image).held + 1, registered := false } ∧
      image ∉ (Script.hide catalog registry image).2.listed registry := by
  have hidden : (Script.hide catalog registry image).1 = true :=
    (Script.hide_fst ..).mpr ⟨unpinned, listed⟩
  refine ⟨hidden, ?_, ?_⟩
  · rw [Script.image_hide, if_pos rfl, hidden]
    rfl
  · rw [Script.listed_hide, if_pos ⟨hidden, rfl⟩]
    exact once.not_mem_erase

/-- A listed image is out of sight once it runs, and once it is off the list. -/
theorem alike_begin {catalog : Catalog} {later : List Event}
    (serves : (machine.world.get id).registry = registry)
    (unpinned : (machine.catalog.registry registry).pinned = false)
    (once : (machine.catalog.listed registry).Nodup)
    (listed : image ∈ machine.catalog.listed registry)
    (freed : machine.catalog.unregister registry image = .ok catalog) :
    Alike id registry image
      { machine.catalog.image image with
        executing := true, held := (machine.catalog.image image).held + 1, registered := false }
      { machine.catalog.image image with registered := false }
      (Script.begin registry image (handOver id line image machine))
      { machine with catalog, journal := later } := by
  obtain ⟨-, -, rfl⟩ := Catalog.unregister_eq_ok_iff.mp freed
  obtain ⟨hidden, marked, gone⟩ := hide_of_listed unpinned once listed
  refine ⟨?_, ?_, ?_⟩
  · rw [Script.world_begin, world_handOver, serves]
  · rw [Script.world_begin, world_handOver]
  · show Catalog.Apart registry image _ _ (Script.hide machine.catalog registry image).2 _
    constructor
    · exact marked
    · simp
    · exact gone
    · intro each differs
      rw [Script.image_hide, if_neg differs]
      simp [differs]
    · intro each
      rw [Script.listed_hide, hidden]
      by_cases same : each = registry <;> simp [same]
    · intro each
      rw [Script.policy_hide]
      by_cases same : each = registry <;> simp [same]

/-- Putting the image back gives the same catalog, with a mark to clear and without. -/
theorem Alike.restored {script : Image} {right : Machine Shells}
    (alike : Alike id registry image
      { script with executing := true, held := script.held + 1, registered := false }
      { script with registered := false } left right)
    (idle : script.executing = false) :
    ∃ catalog, right.catalog.register registry image = .ok catalog ∧
      (∀ each, (Script.unhide left.catalog registry image true).listed each =
        catalog.listed each) ∧
      ∀ each, (Script.unhide left.catalog registry image true).image each =
        catalog.image each := by
  have unlisted := alike.apart.unlisted
  have addable : image ∉ right.catalog.listed registry :=
    alike.apart.listed_eq registry ▸ unlisted
  refine ⟨_, Catalog.register_eq_ok_iff.mpr ⟨addable, rfl⟩, ?_, ?_⟩
  · intro each
    rw [Script.listed_unhide]
    by_cases same : each = registry <;> simp [same, unlisted, alike.apart.listed_eq]
  · intro each
    rw [Script.image_unhide]
    by_cases same : each = image
    · simp [same, unlisted, alike.apart.left_image, alike.apart.right_image, idle]
    · simp [same, alike.apart.image_eq each same]

/-- The loop hands a shell what a boot hands it from within a line. -/
theorem runUntilFailure_of_alike {one other : Image} {right : Machine Shells} {depth : Nat}
    (alike : Alike id registry image one other machine right)
    (enough : right.catalog.waiting.card < depth) (commands : List Bytes) :
    ∃ result left after,
      Script.runLines (interpretWithin id depth) (commands.map .ok) machine = (.ok result, left) ∧
      runUntilFailure id (commands.map Text.lossy) right = (.ok (Ending.status result), after) ∧
      Alike id registry image one other left after := by
  obtain ⟨result, after, ran, looped⟩ := runUntilFailure_eq commands right
  have within : TreatsAlike id registry image one other
      (Script.runLines (interpretWithin id depth) (commands.map .ok)) :=
    (Discipline.unlisted id registry image one other).runLines
      (fun command => treatsAlike_runLineWithin depth (Text.lossy command)) _
  have both := within machine right alike
  rw [(agreesAt_runLines enough commands).1, ran] at both
  match outcome : Script.runLines (interpretWithin id depth) (commands.map .ok) machine with
  | (.error abort, left) => simp [outcome] at both
  | (.ok ended, left) =>
      rw [outcome] at both
      obtain ⟨same, ends⟩ := both
      obtain rfl : result = ended := by simpa using same
      exact ⟨result, left, after, rfl, looped, ends⟩

theorem bootPlainly_of_runUntilFailure {catalog restored : Catalog} {status : Status}
    {right : Machine Shells} (freed : machine.catalog.unregister registry image = .ok catalog)
    (looped : runUntilFailure id
      ((scriptCommands (machine.catalog.image image)).map Text.lossy)
      { machine with catalog, journal := .unregistered registry image :: machine.journal } =
        (.ok status, right))
    (registered : right.catalog.register registry image = .ok restored) :
    bootPlainly id registry image machine =
      (.ok status, { right with
        catalog := restored, journal := .registered registry image :: right.journal }) := by
  simp only [bootPlainly, Execution.bind_apply, Execution.catalog, Execution.unregister_apply,
    freed, looped, Execution.register_apply, registered]
  rfl

/-- A boot line comes to the same end as the loop. -/
theorem runLine_boots_plainly
    (serves : (machine.world.get id).registry = registry)
    (untraced : (machine.world.get id).traceCommands = false)
    (unpinned : (machine.catalog.registry registry).pinned = false)
    (once : (machine.catalog.listed registry).Nodup)
    (idle : ∀ each ∈ machine.catalog.listed registry,
      (machine.catalog.image each).executing = false)
    (command : Command.ofLine? line = some (.boot arguments))
    (selects : bootTarget machine.catalog registry arguments = .ok image)
    (script : (machine.catalog.image image).format = some format)
    (loads : format.loader = .script)
    (readable : (machine.catalog.image image).buffer.readable = none) :
    ∃ status after plain, runLine id line machine = (.ok status, after) ∧
      bootPlainly id registry image machine = (.ok status, plain) ∧
      after.world = plain.world ∧
      (∀ each, after.catalog.listed each = plain.catalog.listed each) ∧
      ∀ each, after.catalog.image each = plain.catalog.image each := by
  have listed := mem_listed_of_bootTarget selects
  have hidden : (Script.hide machine.catalog registry image).1 = true :=
    (Script.hide_fst ..).mpr ⟨unpinned, listed⟩
  obtain ⟨catalog, freed⟩ : ∃ catalog, machine.catalog.unregister registry image = .ok catalog :=
    ⟨_, Catalog.unregister_eq_ok_iff.mpr ⟨unpinned, listed, rfl⟩⟩
  have waits : catalog.waiting = machine.catalog.waiting := by
    obtain ⟨-, -, rfl⟩ := Catalog.unregister_eq_ok_iff.mp freed
    apply Catalog.waiting_congr <;> intro each <;> by_cases same : each = image <;> simp [same]
  obtain ⟨result, left, right, ran, looped, alike⟩ := runUntilFailure_of_alike
    (alike_begin serves unpinned once listed freed)
    (waits ▸ machine.catalog.card_waiting_lt) (scriptCommands (machine.catalog.image image))
  obtain ⟨restored, registered, lists, images⟩ := alike.restored (idle image listed)
  rw [← lines_eq_scriptCommands readable] at ran
  have booted := runLineWithin_of_runLines serves untraced command selects script loads
    (idle image listed) ran
  have agrees : (runLineWithin id (nestingBound machine.catalog + 1) line).AgreesAt
      (runLine id line) machine :=
    agreesAt_runLine line (Nat.lt_succ_of_lt machine.catalog.card_waiting_lt)
  rw [hidden] at booted
  refine ⟨_, _, _, agrees.1.symm.trans booted,
    bootPlainly_of_runUntilFailure freed looped registered, ?_, lists, images⟩
  rw [endLine, Script.world_finish, alike.world_eq]

theorem runLine_boots_plainly_nested :
    let bootAgain : Buffer :=
      { contents := ⟨#[98, 111, 111, 116, 32, 98, 10, 102, 97, 108, 115, 101], by decide⟩ }
    let echo : Buffer := { contents := ⟨#[101, 99, 104, 111, 32, 121], by decide⟩ }
    let machine := ((Session.start [{}] [{}] {}).after
      [.create "a" bootAgain, .create "b" echo, .setFormat 0 Script.format,
        .setFormat 1 Script.format, .register 0 0, .register 0 1]).machine
    ∃ after plain, runLine 0 "boot a" machine = (.ok Status.failure, after) ∧
      bootPlainly 0 0 0 machine = (.ok Status.failure, plain) ∧
      (plain.world.get 0).sink.written.toList = Text.encode "y\n" ∧
      plain.catalog.listed 0 = [1, 0] := by
  intro bootAgain echo machine
  have serves : (machine.world.get 0).registry = 0 := by decide
  have untraced : (machine.world.get 0).traceCommands = false := by decide
  have unpinned : (machine.catalog.registry 0).pinned = false := by decide
  have once : (machine.catalog.listed 0).Nodup := by decide
  have idle : ∀ each ∈ machine.catalog.listed 0,
      (machine.catalog.image each).executing = false := by decide
  have command : Command.ofLine? "boot a" = some (.boot ["a"]) := by decide
  have selects : bootTarget machine.catalog 0 ["a"] = .ok 0 := by decide +kernel
  have loader : (machine.catalog.image 0).format.map Format.loader = some .script := by
    decide +kernel
  have readable : (machine.catalog.image 0).buffer.readable = none := by decide
  have fails : (runLine 0 "boot a" machine).1.toOption = some Status.failure := by decide +kernel
  have writes : ((runLine 0 "boot a" machine).2.world.get 0).sink.written.toList =
      Text.encode "y\n" := by decide +kernel
  have left : (runLine 0 "boot a" machine).2.catalog.listed 0 = [1, 0] := by decide +kernel
  clear_value machine
  obtain ⟨format, script, loads⟩ := Option.map_eq_some_iff.mp loader
  obtain ⟨status, after, plain, returned, looped, world, lists, -⟩ :=
    runLine_boots_plainly serves untraced unpinned once idle command selects script loads readable
  rw [returned] at fails writes left
  obtain rfl : status = Status.failure := Option.some.inj fails
  rw [world] at writes
  rw [lists] at left
  exact ⟨after, plain, returned, looped, writes, left⟩

end Booting

end Shell

end BootScript
