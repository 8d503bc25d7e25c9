import BootScript.Proofs.Discipline
import BootScript.Proofs.Sessions
import BootScript.Proofs.Words

/-!
# Booting by name

A line that boots by a name hands over the first listed image of the name.  As names stand
on lines as words, the images that can be reached so are those whose names are words and that
come first under their names, and the blanks around the words make no difference.
-/

namespace BootScript

/-- No image is listed earlier under the same name. -/
def Catalog.FirstOfName (catalog : Catalog) (registry : RegistryId) (image : Handle) : Prop :=
  ∃ earlier later, catalog.listed registry = earlier ++ image :: later ∧
    ∀ other ∈ earlier, (catalog.image other).name ≠ (catalog.image image).name

theorem Catalog.find?_eq_some_iff {catalog : Catalog} {registry : RegistryId} {name : String}
    {image : Handle} :
    catalog.find? registry name = some image ↔
      (catalog.image image).name = name ∧ catalog.FirstOfName registry image := by
  rw [find?, List.find?_eq_some_iff_append, decide_eq_true_eq]
  refine and_congr_right fun named => ?_
  subst named
  simp [FirstOfName]

namespace Shell

variable {id : ShellId} {machine : Machine Shells} {line : String} {image other : Handle}
  {arguments : List String}

/-! ## Handing images over -/

/-- A line hands an image over to whoever boots images, and does nothing else: this is what
it does whatever booting does. -/
def Selects (id : ShellId) (machine : Machine Shells) (line : String) (image : Handle) : Prop :=
  ∀ booter : Booter, runLineWith booter id line machine =
    asLine id line (bootFound booter (machine.world.get id).registry (.ok image)) machine

/-- The words of the line are a command that boots and a name. -/
def BootsByName (line : String) : Prop :=
  ∃ command ∈ ["boot", "imgexec"], ∃ name, Text.words line = [command, name]

theorem runLineWith_eq_asLine (booter : Booter) (id : ShellId) (line : String) :
    runLineWith booter id line = asLine id line (attemptLine booter id line) :=
  rfl

/-- The shell's own booter executes the image with the shell as its interpreter. -/
theorem Selects.runLine (selects : Selects id machine line image) :
    runLine id line machine =
      asLine id line (bootFound (booterWithin id machine.catalog.images.size)
        (machine.world.get id).registry (.ok image)) machine :=
  selects _

theorem attemptLine_of_boot (untraced : (machine.world.get id).traceCommands = false)
    (asks : Command.ofLine? line = some (.boot arguments)) (booter : Booter) :
    attemptLine booter id line machine =
      bootFound booter (machine.world.get id).registry
        (bootTarget machine.catalog (machine.world.get id).registry arguments) machine := by
  simp only [attemptLine, asks, traceAndPerform, current, Execution.bind_apply, untraced]
  simp only [Bool.false_eq_true, if_false, perform, current, Execution.bind_apply, boot,
    Execution.catalog]
  cases bootTarget machine.catalog (machine.world.get id).registry arguments <;> rfl

/-- A booter that panics at one image and does nothing about the others. -/
def panicAt (image : Handle) : Booter := fun _ other =>
  if other = image then Execution.abandon .panic else pure (.ok Status.success)

theorem bootFound_panicAt_iff {registry : RegistryId} {target : Except ShellError Handle} :
    (asLine id line (bootFound (panicAt image) registry target) machine).1 = .error .panic ↔
      target = .ok image := by
  rw [asLine_apply]
  cases target with
  | error failure => simp [bootFound]
  | ok other =>
      by_cases same : other = image
      · simp [bootFound, panicAt, same, Execution.bind_apply, Execution.abandon]
      · simp [bootFound, panicAt, same, Execution.bind_apply]

/-- A line of a boot command selects what its arguments select. -/
theorem selects_iff (untraced : (machine.world.get id).traceCommands = false)
    (asks : Command.ofLine? line = some (.boot arguments)) :
    Selects id machine line image ↔
      bootTarget machine.catalog (machine.world.get id).registry arguments = .ok image := by
  have attempts (booter : Booter) : runLineWith booter id line machine =
      asLine id line (bootFound booter (machine.world.get id).registry
        (bootTarget machine.catalog (machine.world.get id).registry arguments)) machine := by
    have begun := @attemptLine_of_boot id (beginLine id line machine) line arguments untraced asks
      booter
    rw [runLineWith_eq_asLine, asLine_apply, asLine_apply, begun]
    rfl
  constructor
  · intro selects
    have panics := (@bootFound_panicAt_iff id machine line image (machine.world.get id).registry
      (.ok image)).mpr rfl
    rw [← selects, attempts] at panics
    exact bootFound_panicAt_iff.mp panics
  · intro found booter
    rw [attempts, found]

/-- A line hands over one image at most. -/
theorem Selects.unique (selects : Selects id machine line image)
    (again : Selects id machine line other) : other = image := by
  have panics := (@bootFound_panicAt_iff id machine line image (machine.world.get id).registry
    (.ok image)).mpr rfl
  rw [← selects, again] at panics
  exact Except.ok.inj (bootFound_panicAt_iff.mp panics)

/-! ## Names on lines -/

theorem ofLine?_of_name {name : String} {command : String} (boots : command ∈ ["boot", "imgexec"])
    (words : Text.words line = [command, name]) :
    Command.ofLine? line = some (.boot [name]) := by
  rw [Command.ofLine?, words]
  rcases List.mem_cons.mp boots with rfl | rest
  · rfl
  · rw [List.mem_singleton.mp rest]
    rfl

theorem words_of_bootCommand {command : String} (boots : command ∈ ["boot", "imgexec"]) :
    Text.words command = [command] := by
  rcases List.mem_cons.mp boots with rfl | rest
  · decide
  · rw [List.mem_singleton.mp rest]
    decide

theorem selects_iff_of_name {name : String} {command : String}
    (untraced : (machine.world.get id).traceCommands = false)
    (boots : command ∈ ["boot", "imgexec"]) (words : Text.words line = [command, name]) :
    Selects id machine line image ↔ (machine.catalog.image image).name = name ∧
      machine.catalog.FirstOfName (machine.world.get id).registry image := by
  rw [selects_iff untraced (ofLine?_of_name boots words), ← Catalog.find?_eq_some_iff, bootTarget]
  cases machine.catalog.find? (machine.world.get id).registry name <;> simp

/-- An image can be booted by its name if the name is a word and the image is the first of it,
and then blanks in any number part the words and surround them.  Otherwise no line boots the
image by a name. -/
theorem selects_by_name (untraced : (machine.world.get id).traceCommands = false)
    (image : Handle) :
    let catalog := machine.catalog
    let registry := (machine.world.get id).registry
    let name := (catalog.image image).name
    ((∃ line, BootsByName line ∧ Selects id machine line image) ↔
        name ≠ "" ∧ (∀ character ∈ name.toList, Text.isBlank character = false) ∧
          catalog.FirstOfName registry image) ∧
      (name ≠ "" → (∀ character ∈ name.toList, Text.isBlank character = false) →
        catalog.FirstOfName registry image →
        ∀ command ∈ ["boot", "imgexec"], ∀ before between after : String,
          (∀ character ∈ before.toList, Text.isBlank character = true) →
          (∀ character ∈ between.toList, Text.isBlank character = true) → between ≠ "" →
          (∀ character ∈ after.toList, Text.isBlank character = true) →
          let line := before ++ command ++ between ++ name ++ after
          BootsByName line ∧ Selects id machine line image ∧
            (∀ other, Selects id machine line other → other = image) ∧
            runLine id line machine =
              asLine id line (bootFound (booterWithin id machine.catalog.images.size) registry
                (.ok image)) machine) ∧
      (name = "" ∨ (∃ character ∈ name.toList, Text.isBlank character = true) →
        ∀ line, ¬(BootsByName line ∧ Selects id machine line image)) := by
  intro catalog registry name
  have word (line : String) (boots : BootsByName line) (selects : Selects id machine line image) :
      name ≠ "" ∧ (∀ character ∈ name.toList, Text.isBlank character = false) ∧
        catalog.FirstOfName registry image := by
    obtain ⟨command, boots, given, words⟩ := boots
    obtain ⟨same, first⟩ := (selects_iff_of_name untraced boots words).mp selects
    have member : name ∈ Text.words line := by
      rw [words, ← same]
      exact List.mem_cons_of_mem _ List.mem_cons_self
    exact ⟨Text.ne_empty_of_mem_words member, Text.isBlank_of_mem_words member, first⟩
  have reached (some : name ≠ "")
      (whole : ∀ character ∈ name.toList, Text.isBlank character = false)
      (first : catalog.FirstOfName registry image) {command : String}
      (boots : command ∈ ["boot", "imgexec"]) {before between after : String}
      (blank_before : ∀ character ∈ before.toList, Text.isBlank character = true)
      (blank_between : ∀ character ∈ between.toList, Text.isBlank character = true)
      (parted : between ≠ "")
      (blank_after : ∀ character ∈ after.toList, Text.isBlank character = true) :
      BootsByName (before ++ command ++ between ++ name ++ after) ∧
        Selects id machine (before ++ command ++ between ++ name ++ after) image := by
    have words := Text.words_of_two_words (words_of_bootCommand boots)
      (Text.words_of_word some whole) blank_before blank_between parted blank_after
    exact ⟨⟨command, boots, name, words⟩,
      (selects_iff_of_name untraced boots words).mpr ⟨rfl, first⟩⟩
  refine ⟨⟨fun ⟨line, boots, selects⟩ => word line boots selects, ?_⟩, ?_, ?_⟩
  · rintro ⟨some, whole, first⟩
    exact ⟨_, @reached some whole first "boot" (by decide) "" " " "" nofun
      (List.all_eq_true.mp rfl) (by decide) nofun⟩
  · intro some whole first command boots before between after blank_before blank_between parted
      blank_after line
    obtain ⟨named, selects⟩ :=
      reached some whole first boots blank_before blank_between parted blank_after
    exact ⟨named, selects, fun other again => selects.unique again, selects.runLine⟩
  · rintro unreachable line ⟨boots, selects⟩
    obtain ⟨some, whole, -⟩ := word line boots selects
    rcases unreachable with none | ⟨character, member, blank⟩
    · exact some none
    · rw [whole character member] at blank
      cases blank

/-- A name with a blank in it is not reached, nor is the second image of a name. -/
theorem selects_by_name_menu :
    let machine := ((Session.start [{}] [{}] {}).after
      [.create " menu" default, .create "menu" default, .create "menu" default, .register 0 0,
        .register 0 1, .register 0 2]).machine
    Selects 0 machine "\timgexec\u3000menu " 1 ∧
      (∀ line, ¬(BootsByName line ∧ Selects 0 machine line 0)) ∧
      ∀ line, ¬(BootsByName line ∧ Selects 0 machine line 2) := by
  intro machine
  have untraced : (machine.world.get 0).traceCommands = false := by decide
  have blank : (machine.catalog.image 0).name = " menu" := by decide
  have name : (machine.catalog.image 1).name = "menu" := by decide
  have found : machine.catalog.find? (machine.world.get 0).registry "menu" = some 1 := by decide
  have again : (machine.catalog.image 2).name = "menu" := by decide
  clear_value machine
  obtain ⟨-, reached, -⟩ := selects_by_name untraced 1
  obtain ⟨-, -, unreachable⟩ := selects_by_name untraced 0
  obtain ⟨second, -, -⟩ := selects_by_name untraced 2
  rw [name] at reached
  rw [blank] at unreachable
  refine ⟨?_, unreachable (.inr ⟨' ', by decide, by decide⟩), ?_⟩
  · have first := (Catalog.find?_eq_some_iff.mp found).2
    exact (reached (by decide) (Text.isBlank_of_all (by decide)) first "imgexec" (by decide)
      "\t" "\u3000" " " (List.all_eq_true.mp rfl) (List.all_eq_true.mp rfl) (by decide)
      (List.all_eq_true.mp rfl)).2.1
  · intro line both
    have first := (second.mp ⟨line, both⟩).2.2
    have other := Catalog.find?_eq_some_iff.mpr ⟨again, first⟩
    rw [found] at other
    exact absurd (Option.some.inj other) (by decide)

end Shell

end BootScript
