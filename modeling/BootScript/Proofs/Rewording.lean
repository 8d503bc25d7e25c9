import BootScript.Proofs.PlainLoop

/-!
# Scripts in other words

A shell that does not trace its commands sees no more of a line than its words, and nothing
at all of blank lines and comments.  So a script can be worded in another way, as long as
its commands have the same words: booting it comes to the same end.  Its own image is out of
sight meanwhile, so not even its length shows.
-/

namespace BootScript

attribute [ext] Registry

namespace Shell

variable {id : ShellId} {registry : RegistryId} {image : Handle} {one other : Image}
  {left right : Machine Shells}

/-! ## Lines of the same words -/

theorem attemptLine_reworded {booter : Booter} {line reworded : String} {machine : Machine Shells}
    (same : Text.words reworded = Text.words line)
    (untraced : (machine.world.get id).traceCommands = false) :
    attemptLine booter id reworded machine = attemptLine booter id line machine := by
  unfold attemptLine Command.ofLine?
  rw [same]
  cases Command.ofWords? (Text.words line) with
  | none => rfl
  | some command => simp [traceAndPerform, current, Execution.bind_apply, untraced]

theorem Alike.complain (alike : Alike id registry image one other left right)
    (answer : Except ShellError Status) :
    Alike id registry image one other (complain id answer left) (complain id answer right) := by
  cases answer with
  | ok status => exact alike
  | error failure => exact (treatsAlike_write .complaint _ left right alike).2

theorem runLineWithin_reworded (alike : Alike id registry image one other left right)
    (untraced : (left.world.get id).traceCommands = false) {line reworded : String}
    (same : Text.words reworded = Text.words line) (depth : Nat) :
    (runLineWithin id depth reworded right).1 = (runLineWithin id depth line left).1 ∧
      Alike id registry image one other (runLineWithin id depth line left).2
        (runLineWithin id depth reworded right).2 := by
  cases depth with
  | zero => exact ⟨rfl, alike⟩
  | succ depth =>
      have within : TreatsAlike id registry image one other
          (attemptLine (booterWithin id depth) id line) :=
        (Discipline.unlisted id registry image one other).attemptLine
          ((Discipline.unlisted id registry image one other).booterWithin depth) line
      have begun : Alike id registry image one other (beginLine id line left)
          (beginLine id reworded right) := ⟨alike.serves, alike.world_eq, alike.apart⟩
      have attempts :
          attemptLine (booterWithin id depth) id reworded (beginLine id reworded right) =
            attemptLine (booterWithin id depth) id line (beginLine id reworded right) :=
        attemptLine_reworded same (by rw [begun.world_eq]; exact untraced)
      rw [runLineWithin_succ, runLineWithin_succ]
      refine asLine_side_by_side ?_ (fun answer _ _ alike => alike.complain answer)
        (fun _ _ _ alike => ⟨alike.serves, alike.world_eq, alike.apart⟩)
      rw [attempts]
      exact within _ _ begun

/-- The bounds on nesting may differ.  One beyond both makes no difference to either. -/
theorem runLine_of_words (alike : Alike id registry image one other left right)
    (untraced : (left.world.get id).traceCommands = false) {line reworded : String}
    (same : Text.words reworded = Text.words line) :
    ∃ status after after', runLine id line left = (.ok status, after) ∧
      runLine id reworded right = (.ok status, after') ∧
      Alike id registry image one other after after' := by
  let depth := max (nestingBound left.catalog) (nestingBound right.catalog)
  have enough : left.catalog.waiting.card < depth :=
    lt_of_lt_of_le left.catalog.card_waiting_lt (le_max_left _ _)
  have enough' : right.catalog.waiting.card < depth :=
    lt_of_lt_of_le right.catalog.card_waiting_lt (le_max_right _ _)
  obtain ⟨outcome, ends⟩ := runLineWithin_reworded alike untraced same depth
  rw [(agreesAt_runLine line enough).1, (agreesAt_runLine reworded enough').1] at outcome ends
  obtain ⟨status, after, returned⟩ := runLine_returns id line left
  rw [returned] at outcome ends
  exact ⟨status, after, (runLine id reworded right).2, returned, Prod.ext outcome rfl, ends⟩

theorem runLine_of_no_command {line : String} (idle : Command.ofLine? line = none)
    (machine : Machine Shells) :
    runLine id line machine =
      (.ok Status.success, endLine id Status.success (beginLine id line machine)) :=
  runLineWithin_of_no_command idle id machine.catalog.images.size machine

theorem untraced_runLine (line : String) {machine : Machine Shells}
    (untraced : (machine.world.get id).traceCommands = false) :
    ((runLine id line machine).2.world.get id).traceCommands = false := by
  have keeps : KeepsShells (fun shells => (shells.get id).traceCommands = false)
      (runLine id line) := by
    refine keepsShells_runLine ?_ line
    intro machine purpose text untraced
    simpa [write] using untraced
  exact (keeps machine untraced).2

/-! ## Scripts of the same words -/

/-- The words of commands, among the words of lines: neither none nor a comment. -/
def saysCommand (words : List String) : Bool :=
  words.head?.any fun name => !Command.isComment name

theorem ofLine?_eq_none_iff {line : String} :
    Command.ofLine? line = none ↔ saysCommand (Text.words line) = false := by
  unfold Command.ofLine? saysCommand
  cases Text.words line with
  | nil => simp [Command.ofWords?]
  | cons name arguments => by_cases comment : Command.isComment name <;>
      simp [Command.ofWords?, comment]

/-- The words of the commands among lines, in order. -/
def commandWords (lines : List String) : List (List String) :=
  (lines.map Text.words).filter saysCommand

/-- Lines that differ in no command. -/
inductive SayTheSame : List String → List String → Prop
  | nil : SayTheSame [] []
  | skip {line : String} {lines others : List String} (idle : Command.ofLine? line = none)
      (rest : SayTheSame lines others) : SayTheSame (line :: lines) others
  | pass {line : String} {lines others : List String} (idle : Command.ofLine? line = none)
      (rest : SayTheSame lines others) : SayTheSame lines (line :: others)
  | cons {line reworded : String} {lines others : List String}
      (same : Text.words reworded = Text.words line) (rest : SayTheSame lines others) :
      SayTheSame (line :: lines) (reworded :: others)

theorem commandWords_cons_of_idle {line : String} (idle : Command.ofLine? line = none)
    (lines : List String) : commandWords (line :: lines) = commandWords lines := by
  simp [commandWords, ofLine?_eq_none_iff.mp idle]

theorem commandWords_cons {line : String} (speaks : Command.ofLine? line ≠ none)
    (lines : List String) :
    commandWords (line :: lines) = Text.words line :: commandWords lines := by
  have spoken : saysCommand (Text.words line) = true := by
    rwa [ne_eq, ofLine?_eq_none_iff, Bool.not_eq_false] at speaks
  simp [commandWords, spoken]

theorem sayTheSame_of_commandWords {lines others : List String}
    (same : commandWords others = commandWords lines) : SayTheSame lines others := by
  -- Lines that are no commands go first, from the one list and then from the other.
  induction lines generalizing others with
  | nil =>
      induction others with
      | nil => exact .nil
      | cons line others ih =>
          by_cases idle : Command.ofLine? line = none
          · exact .pass idle (ih (by rwa [commandWords_cons_of_idle idle] at same))
          · rw [commandWords_cons idle] at same
            exact absurd same (List.cons_ne_nil _ _)
  | cons line lines ih =>
      by_cases idle : Command.ofLine? line = none
      · exact .skip idle (ih (by rwa [commandWords_cons_of_idle idle] at same))
      · rw [commandWords_cons idle] at same
        induction others with
        | nil => exact absurd same.symm (List.cons_ne_nil _ _)
        | cons other others passes =>
            by_cases silent : Command.ofLine? other = none
            · exact .pass silent (passes (by rwa [commandWords_cons_of_idle silent] at same))
            · rw [commandWords_cons silent] at same
              obtain ⟨words, rest⟩ := List.cons.inj same
              exact .cons words (ih rest)

theorem Alike.of_idle {line : String} (alike : Alike id registry image one other left right)
    (idle : Command.ofLine? line = none) :
    Alike id registry image one other (runLine id line left).2 right ∧
      Alike id registry image one other left (runLine id line right).2 := by
  rw [runLine_of_no_command idle, runLine_of_no_command idle]
  exact ⟨⟨alike.serves, alike.world_eq, alike.apart⟩, ⟨alike.serves, alike.world_eq, alike.apart⟩⟩

theorem runUntilFailure_of_idle {line : String} (idle : Command.ofLine? line = none)
    (rest : List String) (machine : Machine Shells) :
    runUntilFailure id (line :: rest) machine =
      runUntilFailure id rest (runLine id line machine).2 := by
  rw [runLine_of_no_command idle]
  simp only [runUntilFailure, Execution.bind_apply, runLine_of_no_command idle, if_pos]

theorem runUntilFailure_reworded {lines others : List String}
    (same : SayTheSame lines others) (alike : Alike id registry image one other left right)
    (untraced : (left.world.get id).traceCommands = false) :
    ∃ status after after', runUntilFailure id lines left = (.ok status, after) ∧
      runUntilFailure id others right = (.ok status, after') ∧
      Alike id registry image one other after after' := by
  induction same generalizing left right with
  | nil => exact ⟨Status.success, left, right, rfl, rfl, alike⟩
  | skip idle _ ih =>
      rw [runUntilFailure_of_idle idle]
      exact ih (alike.of_idle idle).1 (untraced_runLine _ untraced)
  | pass idle _ ih =>
      rw [runUntilFailure_of_idle idle]
      exact ih (alike.of_idle idle).2 untraced
  | @cons line reworded lines others same _ ih =>
      obtain ⟨status, between, between', returned, returned', between_alike⟩ :=
        runLine_of_words alike untraced same
      have still : (between.world.get id).traceCommands = false := by
        simpa [returned] using untraced_runLine line untraced
      simp only [runUntilFailure, Execution.bind_apply, returned, returned']
      by_cases succeeded : status = Status.success
      · rw [if_pos succeeded, if_pos succeeded]
        exact ih between_alike still
      · rw [if_neg succeeded, if_neg succeeded]
        exact ⟨status, between, between', rfl, rfl, between_alike⟩

/-! ## Booting a script in other words -/

section Booting

variable {format : Format} {arguments : List String} {line : String} {machine : Machine Shells}

/-- A boot hands the lines of its script to the shell as the loop does. -/
theorem runLine_of_runUntilFailure {status : Status}
    (serves : (machine.world.get id).registry = registry)
    (untraced : (machine.world.get id).traceCommands = false)
    (command : Command.ofLine? line = some (.boot arguments))
    (selects : bootTarget machine.catalog registry arguments = .ok image)
    (script : (machine.catalog.image image).format = some format)
    (loads : format.loader = .script) (idle : (machine.catalog.image image).executing = false)
    (readable : (machine.catalog.image image).buffer.readable = none)
    (looped : runUntilFailure id ((scriptCommands (machine.catalog.image image)).map Text.lossy)
      (Script.begin registry image (handOver id line image machine)) = (.ok status, left)) :
    runLine id line machine =
      (.ok status, endLine id status
        (Script.finish registry image (Script.hide machine.catalog registry image).1 left)) := by
  have waits : (Script.begin registry image (handOver id line image machine)).catalog.waiting =
      machine.catalog.waiting.erase image := Catalog.waiting_hide registry
  have enough : (Script.begin registry image (handOver id line image machine)).catalog.waiting.card
      < nestingBound machine.catalog := by
    rw [waits]
    exact Finset.card_erase_le.trans_lt machine.catalog.card_waiting_lt
  obtain ⟨result, after, ran, ends⟩ := @runUntilFailure_eq id
    (scriptCommands (machine.catalog.image image))
    (Script.begin registry image (handOver id line image machine))
  obtain ⟨rfl, rfl⟩ : status = Ending.status result ∧ left = after := by
    simpa using looped.symm.trans ends
  rw [← (agreesAt_runLines enough _).1, ← lines_eq_scriptCommands readable] at ran
  have booted := runLineWithin_of_runLines serves untraced command selects script loads idle ran
  have agrees : (runLineWithin id (nestingBound machine.catalog + 1) line).AgreesAt
      (runLine id line) machine :=
    agreesAt_runLine line (Nat.lt_succ_of_lt machine.catalog.card_waiting_lt)
  exact agrees.1.symm.trans booted

/-- A machine with another image in the place of one. -/
def withImage (image : Handle) (other : Image) (machine : Machine Shells) : Machine Shells :=
  { machine with catalog := machine.catalog.modifyImage image fun _ => other }

theorem bootTarget_withImage (named : other.name = (machine.catalog.image image).name)
    (classified : other.format.isSome = (machine.catalog.image image).format.isSome)
    (arguments : List String) :
    bootTarget (withImage image other machine).catalog registry arguments =
      bootTarget machine.catalog registry arguments := by
  have names : ∀ each, ((withImage image other machine).catalog.image each).name =
      (machine.catalog.image each).name := by
    intro each
    by_cases same : each = image <;> simp [withImage, same, named]
  have formats : ∀ each, ((withImage image other machine).catalog.image each).format.isSome =
      (machine.catalog.image each).format.isSome := by
    intro each
    by_cases same : each = image <;> simp [withImage, same, classified]
  have lists : (withImage image other machine).catalog.listed registry =
      machine.catalog.listed registry := rfl
  unfold bootTarget Catalog.find? Catalog.firstClassified?
  simp only [lists, names, formats]

/-- Either image is out of sight once it runs. -/
theorem alike_begin_withImage (line reworded : String)
    (serves : (machine.world.get id).registry = registry)
    (unpinned : (machine.catalog.registry registry).pinned = false)
    (once : (machine.catalog.listed registry).Nodup)
    (listed : image ∈ machine.catalog.listed registry) :
    Alike id registry image
      { machine.catalog.image image with
        executing := true, held := (machine.catalog.image image).held + 1, registered := false }
      { other with executing := true, held := other.held + 1, registered := false }
      (Script.begin registry image (handOver id line image machine))
      (Script.begin registry image
        (handOver id reworded image (withImage image other machine))) := by
  obtain ⟨hidden, marked, gone⟩ := hide_of_listed unpinned once listed
  obtain ⟨hidden', marked', -⟩ :=
    @hide_of_listed registry image (withImage image other machine).catalog unpinned once listed
  refine ⟨?_, ?_, ?_⟩
  · rw [Script.world_begin, world_handOver, serves]
  · rw [Script.world_begin, Script.world_begin, world_handOver, world_handOver, withImage]
  · show Catalog.Apart registry image _ _ (Script.hide machine.catalog registry image).2
      (Script.hide (withImage image other machine).catalog registry image).2
    constructor
    · exact marked
    · simpa [withImage] using marked'
    · exact gone
    · intro each differs
      rw [Script.image_hide, Script.image_hide, if_neg differs, if_neg differs]
      simp [withImage, differs]
    · intro each
      rw [Script.listed_hide, Script.listed_hide, hidden, hidden']
      rfl
    · intro each
      rw [Script.policy_hide, Script.policy_hide]
      rfl

/-- Each image is back on the list, in the place where its run left it. -/
theorem Alike.unhidden {script : Image}
    (alike : Alike id registry image
      { script with executing := true, held := script.held + 1, registered := false }
      { other with executing := true, held := other.held + 1, registered := false } left right)
    (idle : script.executing = false) (idle' : other.executing = false) :
    (∀ each, (Script.unhide right.catalog registry image true).registry each =
        (Script.unhide left.catalog registry image true).registry each) ∧
      (Script.unhide left.catalog registry image true).image image =
        { script with registered := true } ∧
      (Script.unhide right.catalog registry image true).image image =
        { other with registered := true } ∧
      ∀ each, each ≠ image → (Script.unhide right.catalog registry image true).image each =
        (Script.unhide left.catalog registry image true).image each := by
  have unlisted := alike.apart.unlisted
  have unlisted' : image ∉ right.catalog.listed registry :=
    alike.apart.listed_eq registry ▸ unlisted
  refine ⟨?_, ?_, ?_, ?_⟩
  · intro each
    have policies : ((Script.unhide right.catalog registry image true).registry each).toPolicy =
        ((Script.unhide left.catalog registry image true).registry each).toPolicy := by
      rw [Script.policy_unhide, Script.policy_unhide, alike.apart.policy_eq]
    have lists : (Script.unhide right.catalog registry image true).listed each =
        (Script.unhide left.catalog registry image true).listed each := by
      simp only [Script.listed_unhide, alike.apart.listed_eq]
    exact congrArg₂ Registry.mk policies lists
  · rw [Script.image_unhide, if_pos rfl, alike.apart.left_image]
    simp [unlisted, idle]
  · rw [Script.image_unhide, if_pos rfl, alike.apart.right_image]
    simp [unlisted', idle']
  · intro each differs
    rw [Script.image_unhide, Script.image_unhide, if_neg differs, if_neg differs]
    exact alike.apart.image_eq each differs

/-- A script under the same name, at rest, whose commands have the same words. -/
structure Rewords (script other : Image) : Prop where
  name_eq : other.name = script.name
  loads : other.format.map Format.loader = some .script
  idle : other.executing = false
  readable : other.buffer.readable = none
  words_eq : commandWords ((scriptCommands other).map Text.lossy) =
    commandWords ((scriptCommands script).map Text.lossy)

/-- Booting a script and booting it in other words come to the same end. -/
theorem runLine_reworded
    (serves : (machine.world.get id).registry = registry)
    (untraced : (machine.world.get id).traceCommands = false)
    (unpinned : (machine.catalog.registry registry).pinned = false)
    (once : (machine.catalog.listed registry).Nodup)
    (idle : ∀ each ∈ machine.catalog.listed registry,
      (machine.catalog.image each).executing = false)
    (command : Command.ofLine? line = some (.boot arguments))
    (selects : bootTarget machine.catalog registry arguments = .ok image)
    (loads : (machine.catalog.image image).format.map Format.loader = some .script)
    (readable : (machine.catalog.image image).buffer.readable = none)
    (rewords : Rewords (machine.catalog.image image) other) :
    bootTarget (withImage image other machine).catalog registry arguments = .ok image ∧
      ∀ reworded arguments', Command.ofLine? reworded = some (.boot arguments') →
        bootTarget (withImage image other machine).catalog registry arguments' = .ok image →
        ∃ status after after', runLine id line machine = (.ok status, after) ∧
          runLine id reworded (withImage image other machine) = (.ok status, after') ∧
          after'.world = after.world ∧
          (∀ each, after'.catalog.registry each = after.catalog.registry each) ∧
          after.catalog.image image =
            { machine.catalog.image image with registered := true } ∧
          after'.catalog.image image = { other with registered := true } ∧
          ∀ each, each ≠ image → after'.catalog.image each = after.catalog.image each := by
  obtain ⟨format, script, loader⟩ := Option.map_eq_some_iff.mp loads
  obtain ⟨format', script', loader'⟩ := Option.map_eq_some_iff.mp rewords.loads
  have classified : other.format.isSome = (machine.catalog.image image).format.isSome := by
    rw [script, script']
    rfl
  refine ⟨(bootTarget_withImage rewords.name_eq classified arguments).trans selects, ?_⟩
  intro reworded arguments' command' selects'
  have listed := mem_listed_of_bootTarget selects
  have placed : (withImage image other machine).catalog.image image = other := by
    simp [withImage]
  obtain ⟨status, left, right, looped, looped', alike⟩ := runUntilFailure_reworded
    (sayTheSame_of_commandWords rewords.words_eq)
    (alike_begin_withImage line reworded serves unpinned once listed)
    (by rwa [Script.world_begin, world_handOver])
  have booted := runLine_of_runUntilFailure serves untraced command selects script loader
    (idle image listed) readable looped
  have booted' : runLine id reworded (withImage image other machine) = _ :=
    runLine_of_runUntilFailure serves untraced command' selects' (by rw [placed, script']) loader'
      (by rw [placed, rewords.idle]) (by rw [placed, rewords.readable])
      (by rw [placed]; exact looped')
  have hidden : (Script.hide machine.catalog registry image).1 = true :=
    (Script.hide_fst ..).mpr ⟨unpinned, listed⟩
  have hidden' : (Script.hide (withImage image other machine).catalog registry image).1 = true :=
    (Script.hide_fst ..).mpr ⟨unpinned, listed⟩
  rw [hidden] at booted
  rw [hidden'] at booted'
  refine ⟨status, _, _, booted, booted', ?_, alike.unhidden (idle image listed) rewords.idle⟩
  rw [endLine, endLine, Script.world_finish, Script.world_finish, alike.world_eq]

theorem runLine_reworded_nested :
    let bootAgain : Buffer :=
      { contents := ⟨#[98, 111, 111, 116, 32, 98, 10, 102, 97, 108, 115, 101], by decide⟩ }
    let spacedOut : Buffer :=
      { contents := ⟨#[35, 10, 98, 111, 111, 116, 32, 32, 98, 13, 10, 10, 102, 97, 108, 115, 101,
          13], by decide⟩ }
    let echo : Buffer := { contents := ⟨#[101, 99, 104, 111, 32, 121], by decide⟩ }
    let machine := ((Session.start [{}] [{}] {}).after
      [.create "a" bootAgain, .create "b" echo, .setFormat 0 Script.format,
        .setFormat 1 Script.format, .register 0 0, .register 0 1]).machine
    let other : Image := { name := "a", buffer := spacedOut, format := some Script.format }
    ∃ after after', runLine 0 "boot a" machine = (.ok Status.failure, after) ∧
      runLine 0 "boot\ta" (withImage 0 other machine) = (.ok Status.failure, after') ∧
      (after'.world.get 0).sink.written.toList = Text.encode "y\n" ∧
      after'.catalog.listed 0 = [1, 0] ∧
      (after'.catalog.image 0).buffer = spacedOut := by
  intro bootAgain spacedOut echo machine other
  have serves : (machine.world.get 0).registry = 0 := by decide
  have untraced : (machine.world.get 0).traceCommands = false := by decide
  have unpinned : (machine.catalog.registry 0).pinned = false := by decide
  have once : (machine.catalog.listed 0).Nodup := by decide
  have idle : ∀ each ∈ machine.catalog.listed 0,
      (machine.catalog.image each).executing = false := by decide
  have command : Command.ofLine? "boot a" = some (.boot ["a"]) := by decide
  have command' : Command.ofLine? "boot\ta" = some (.boot ["a"]) := by decide
  have selects : bootTarget machine.catalog 0 ["a"] = .ok 0 := by decide +kernel
  have loads : (machine.catalog.image 0).format.map Format.loader = some .script := by
    decide +kernel
  have readable : (machine.catalog.image 0).buffer.readable = none := by decide
  have rewords : Rewords (machine.catalog.image 0) other :=
    ⟨by decide, by decide, by decide, by decide, by decide +kernel⟩
  have fails : (runLine 0 "boot a" machine).1.toOption = some Status.failure := by decide +kernel
  have writes : ((runLine 0 "boot a" machine).2.world.get 0).sink.written.toList =
      Text.encode "y\n" := by decide +kernel
  have left : (runLine 0 "boot a" machine).2.catalog.listed 0 = [1, 0] := by decide +kernel
  have told : other.buffer = spacedOut := rfl
  clear_value machine other
  obtain ⟨selects', reworded⟩ := runLine_reworded serves untraced unpinned once idle command selects
    loads readable rewords
  obtain ⟨status, after, after', returned, returned', world, registries, -, placed, -⟩ :=
    reworded "boot\ta" ["a"] command' selects'
  rw [returned] at fails writes left
  obtain rfl : status = Status.failure := Option.some.inj fails
  refine ⟨after, after', returned, returned', ?_, ?_, ?_⟩
  · rwa [world]
  · rwa [Catalog.listed, registries]
  · rw [placed, told]

end Booting

end Shell

end BootScript
