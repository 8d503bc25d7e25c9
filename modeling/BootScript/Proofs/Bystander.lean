import BootScript.Proofs.Steadiness

/-!
# An image that nobody speaks of

An image without a format that no line names stands by.  Images are looked up by name or by
having a format, so it is passed over wherever it is listed, and everything else is found where
it was found before.  It would show only on a list of all images.  So a shell whose lines ask
for no such list, and speak of no image of that name, works as if the image were not there.
-/

namespace BootScript

/-! ## Lines that avoid a name -/

/-- The line does not contain the name as a word, and does not ask for all images. -/
def Avoids (name line : String) : Prop :=
  name ∉ Text.words line ∧ (Text.words line).head? ≠ some "imgstat"

instance (name line : String) : Decidable (Avoids name line) :=
  inferInstanceAs (Decidable (_ ∧ _))

/-- The lines of the image avoid the name, if the image is a script. -/
def Image.Avoids (name : String) (image : Image) : Prop :=
  image.format.map Format.loader = some .script →
    ∀ command ∈ image.buffer.lines.filterMap Except.toOption,
      BootScript.Avoids name (Text.lossy command)

instance (name : String) (image : Image) : Decidable (image.Avoids name) :=
  inferInstanceAs (Decidable (_ → _))

/-- A command that passes over images of this name. -/
def Command.Avoids (name : String) : Command → Prop
  | .listImages => False
  | .free arguments | .boot arguments => name ∉ arguments
  | _ => True

theorem Command.avoids_of_line {name line : String} {command : Command}
    (avoids : BootScript.Avoids name line) (asks : ofLine? line = some command) :
    command.Avoids name := by
  obtain ⟨first, arguments, words, -, rfl⟩ := ofLine?_eq_some_iff.mp asks
  obtain ⟨absent, lists⟩ := avoids
  rw [words] at absent lists
  have absent : name ∉ arguments := fun member => absent (List.mem_cons_of_mem _ member)
  have lists : first ≠ "imgstat" := fun same => lists (congrArg some same)
  unfold ofName
  split <;> trivial

/-! ## One more image on a list -/

theorem find?_erase_of_neg {Element : Type} [DecidableEq Element] {test : Element → Bool}
    {element : Element} (fails : test element = false) (elements : List Element) :
    (elements.erase element).find? test = elements.find? test := by
  induction elements with
  | nil => rfl
  | cons first rest ih =>
      by_cases same : first = element
      · rw [same, List.erase_cons_head, List.find?_cons_of_neg (by simp [fails])]
      · rw [List.erase_cons_tail (by simpa using same), List.find?_cons, List.find?_cons, ih]

/-- An image without a format, to stand by on the list of a registry.  The scripts that the
registry lists in the beginning do not speak of it. -/
structure Bystander where
  registry : RegistryId
  start : Catalog
  handle : Handle
  image : Image
  unclassified : image.format = none
  unspoken : ∀ each ∈ start.listed registry, (start.image each).Avoids image.name

/-- Two catalogs of which the second lists the bystander and is otherwise like the first.  Both
come of the beginning by changes to its listed images and to the one list. -/
structure Bystander.Joins (bystander : Bystander) (left right : Catalog) : Prop where
  listed : bystander.handle ∈ right.listed bystander.registry
  without : (right.listed bystander.registry).erase bystander.handle =
    left.listed bystander.registry
  unlisted : bystander.handle ∉ left.listed bystander.registry
  stands : right.image bystander.handle = bystander.image
  image_eq : ∀ image, image ≠ bystander.handle → right.image image = left.image image
  policy_eq : (right.registry bystander.registry).toPolicy =
    (left.registry bystander.registry).toPolicy
  others : ∀ other, other ≠ bystander.registry →
    left.registry other = bystander.start.registry other ∧
      right.registry other = bystander.start.registry other
  known : ∀ image ∈ left.listed bystander.registry,
    image ∈ bystander.start.listed bystander.registry
  kept : ∀ image, (left.image image).buffer = (bystander.start.image image).buffer ∧
    (left.image image).format = (bystander.start.image image).format

namespace Bystander.Joins

variable {bystander : Bystander} {left right : Catalog} {image : Handle}

theorem ne_handle (joins : bystander.Joins left right)
    (member : image ∈ left.listed bystander.registry) : image ≠ bystander.handle :=
  ne_of_mem_of_not_mem member joins.unlisted

theorem mem_iff (joins : bystander.Joins left right)
    (differs : image ≠ bystander.handle) :
    image ∈ right.listed bystander.registry ↔ image ∈ left.listed bystander.registry := by
  rw [← joins.without, List.mem_erase_of_ne differs]

/-- A look along the list passes over the bystander. -/
theorem find_eq (joins : bystander.Joins left right) (test : Image → Bool)
    (passed : test bystander.image = false) :
    (right.listed bystander.registry).find? (fun image => test (right.image image)) =
      (left.listed bystander.registry).find? fun image => test (left.image image) := by
  rw [← find?_erase_of_neg (by rw [joins.stands, passed]), joins.without]
  apply List.find?_congr
  intro image member
  rw [joins.image_eq image (joins.ne_handle member)]

theorem find?_eq (joins : bystander.Joins left right) {name : String}
    (differs : bystander.image.name ≠ name) :
    right.find? bystander.registry name = left.find? bystander.registry name :=
  joins.find_eq (fun image => image.name = name) (decide_eq_false differs)

theorem firstClassified?_eq (joins : bystander.Joins left right) :
    right.firstClassified? bystander.registry = left.firstClassified? bystander.registry :=
  joins.find_eq (fun image => image.format.isSome) (by rw [bystander.unclassified]; rfl)

theorem freeTarget_eq (joins : bystander.Joins left right) {arguments : List String}
    (avoids : bystander.image.name ∉ arguments) :
    Shell.freeTarget right bystander.registry arguments =
      Shell.freeTarget left bystander.registry arguments := by
  unfold Shell.freeTarget
  split
  · next name => rw [joins.find?_eq (by simpa using avoids)]
  · rfl

theorem bootTarget_eq (joins : bystander.Joins left right) {arguments : List String}
    (avoids : bystander.image.name ∉ arguments) :
    Shell.bootTarget right bystander.registry arguments =
      Shell.bootTarget left bystander.registry arguments := by
  unfold Shell.bootTarget
  split
  · rw [joins.firstClassified?_eq]
  · next name => rw [joins.find?_eq (by simpa using avoids)]
  · rfl

/-- Another image is let go by both or by neither, for the same reason. -/
theorem unregister (joins : bystander.Joins left right) (differs : image ≠ bystander.handle) :
    (∃ failure, left.unregister bystander.registry image = .error failure ∧
        right.unregister bystander.registry image = .error failure) ∨
      ∃ left' right', left.unregister bystander.registry image = .ok left' ∧
        right.unregister bystander.registry image = .ok right' ∧
        bystander.Joins left' right' := by
  unfold Catalog.unregister
  rw [joins.policy_eq, joins.image_eq image differs]
  by_cases pinned : (left.registry bystander.registry).pinned = true
  · exact .inl ⟨_, if_pos pinned, if_pos pinned⟩
  · rw [if_neg pinned, if_neg pinned]
    by_cases member : image ∈ left.listed bystander.registry
    · have member' := (joins.mem_iff differs).mpr member
      rw [if_pos member, if_pos member']
      refine .inr ⟨_, _, rfl, rfl, ?_⟩
      constructor
      · simpa [List.mem_erase_of_ne differs.symm] using joins.listed
      · rw [Catalog.listed_setListed, Catalog.listed_setListed, if_pos rfl, if_pos rfl,
          List.erase_comm, joins.without]
      · simpa using fun there => joins.unlisted (List.mem_of_mem_erase there)
      · simp [differs.symm, joins.stands]
      · intro third distinct
        simp [joins.image_eq image differs, joins.image_eq third distinct]
      · simp [joins.policy_eq]
      · intro other distinct
        simpa [distinct] using joins.others other distinct
      · intro third there
        simp at there
        exact joins.known third (List.mem_of_mem_erase there)
      · intro third
        by_cases same : third = image
        · simpa [same] using joins.kept image
        · simpa [same] using joins.kept third
    · exact .inl ⟨_, if_neg member, if_neg (mt (joins.mem_iff differs).mp member)⟩

theorem hide (joins : bystander.Joins left right) (differs : image ≠ bystander.handle) :
    (Script.hide right bystander.registry image).1 = (Script.hide left bystander.registry image).1 ∧
      bystander.Joins (Script.hide left bystander.registry image).2
        (Script.hide right bystander.registry image).2 := by
  have same : (Script.hide right bystander.registry image).1 =
      (Script.hide left bystander.registry image).1 := by
    rw [Bool.eq_iff_iff, Script.hide_fst, Script.hide_fst, joins.policy_eq,
      joins.mem_iff differs]
  refine ⟨same, ?_⟩
  constructor
  · rw [Script.listed_hide]
    split
    · exact (List.mem_erase_of_ne differs.symm).mpr joins.listed
    · exact joins.listed
  · rw [Script.listed_hide, Script.listed_hide, same]
    split
    · rw [List.erase_comm, joins.without]
    · exact joins.without
  · rw [Script.listed_hide]
    split
    · exact fun there => joins.unlisted (List.mem_of_mem_erase there)
    · exact joins.unlisted
  · rw [Script.image_hide, if_neg differs.symm, joins.stands]
  · intro third distinct
    rw [Script.image_hide, Script.image_hide, same, joins.image_eq image differs,
      joins.image_eq third distinct]
  · rw [Script.policy_hide, Script.policy_hide, joins.policy_eq]
  · intro other distinct
    rw [Script.registry_hide_of_ne _ _ _ distinct, Script.registry_hide_of_ne _ _ _ distinct]
    exact joins.others other distinct
  · intro third there
    rw [Script.listed_hide] at there
    split at there
    · exact joins.known third (List.mem_of_mem_erase there)
    · exact joins.known third there
  · intro third
    rw [Script.image_hide]
    split
    · next same => exact same ▸ joins.kept third
    · exact joins.kept third

theorem unhide (joins : bystander.Joins left right) (differs : image ≠ bystander.handle)
    (first : image ∈ bystander.start.listed bystander.registry) (hidden : Bool) :
    bystander.Joins (Script.unhide left bystander.registry image hidden)
      (Script.unhide right bystander.registry image hidden) := by
  constructor
  · rw [Script.listed_unhide]
    split
    · exact List.mem_append_left _ joins.listed
    · exact joins.listed
  · rw [Script.listed_unhide, Script.listed_unhide]
    simp only [joins.mem_iff differs]
    split
    · rw [List.erase_append_left _ joins.listed, joins.without]
    · exact joins.without
  · rw [Script.listed_unhide]
    split
    · simpa [differs.symm] using joins.unlisted
    · exact joins.unlisted
  · rw [Script.image_unhide, if_neg differs.symm, joins.stands]
  · intro third distinct
    rw [Script.image_unhide, Script.image_unhide]
    simp only [joins.mem_iff differs, joins.image_eq image differs,
      joins.image_eq third distinct]
  · rw [Script.policy_unhide, Script.policy_unhide, joins.policy_eq]
  · intro other distinct
    rw [Script.registry_unhide_of_ne _ _ _ _ distinct,
      Script.registry_unhide_of_ne _ _ _ _ distinct]
    exact joins.others other distinct
  · intro third there
    rw [Script.listed_unhide] at there
    split at there
    · rcases List.mem_append.mp there with earlier | last
      · exact joins.known third earlier
      · exact List.mem_singleton.mp last ▸ first
    · exact joins.known third there
  · intro third
    rw [Script.image_unhide]
    split
    · next same => exact same ▸ joins.kept third
    · exact joins.kept third

/-- The bystander is on the list once, and on other lists as in the beginning. -/
theorem entries_eq (joins : bystander.Joins left right) {left' right' : Catalog}
    (joins' : bystander.Joins left' right') :
    right'.entries bystander.handle = right.entries bystander.handle := by
  have once {left right : Catalog} (joins : bystander.Joins left right) :
      (right.listed bystander.registry).count bystander.handle = 1 := by
    have absent := List.count_eq_zero_of_not_mem joins.unlisted
    have present := List.count_pos_iff.mpr joins.listed
    rw [← joins.without, List.count_erase_self] at absent
    omega
  apply Catalog.entries_congr
  intro id
  by_cases same : id = bystander.registry
  · rw [same, once joins, once joins']
  · rw [Catalog.listed, Catalog.listed, (joins.others id same).2, (joins'.others id same).2]

theorem references_eq (joins : bystander.Joins left right) {left' right' : Catalog}
    (joins' : bystander.Joins left' right') :
    right'.references bystander.handle = right.references bystander.handle := by
  rw [Catalog.references, Catalog.references, joins.entries_eq joins', joins.stands,
    joins'.stands]

theorem of_listed (unlisted : bystander.handle ∉ bystander.start.listed bystander.registry)
    {earlier later : List Handle}
    (split : bystander.start.listed bystander.registry = earlier ++ later) :
    bystander.Joins bystander.start
      ((bystander.start.modifyImage bystander.handle fun _ => bystander.image).setListed
        bystander.registry (earlier ++ bystander.handle :: later)) := by
  have absent : bystander.handle ∉ earlier := fun member =>
    unlisted (split ▸ List.mem_append_left _ member)
  constructor
  · simp
  · simp [List.erase_append_right _ absent, split]
  · exact unlisted
  · simp
  · intro image differs
    simp [differs]
  · simp
  · intro other differs
    simp [differs]
  · exact fun _ member => member
  · exact fun _ => ⟨rfl, rfl⟩

end Bystander.Joins

namespace Shell

variable {id : ShellId} {bystander : Bystander}

/-- Two machines that look the same to a shell, but for a bystander on its registry's list. -/
structure Accompanied (id : ShellId) (bystander : Bystander) (left right : Machine Shells) :
    Prop where
  serves : (left.world.get id).registry = bystander.registry
  world_eq : right.world = left.world
  joins : bystander.Joins left.catalog right.catalog

/-- An execution that comes to the same outcome whether the bystander is listed or not. -/
def Ignores {Value : Type} (id : ShellId) (bystander : Bystander)
    (execution : Execution Shells Value) : Prop :=
  Respects (Accompanied id bystander) execution

theorem ignores_pure {Value : Type} (value : Value) :
    Ignores id bystander (pure value : Execution Shells Value) :=
  respects_pure value

theorem Ignores.bind {Value Result : Type} {first : Execution Shells Value}
    {next : Value → Execution Shells Result} (begins : Ignores id bystander first)
    (continues : ∀ value, Ignores id bystander (next value)) :
    Ignores id bystander (first >>= next) :=
  Respects.bind begins continues

theorem ignores_write (purpose : Purpose) (text : String) :
    Ignores id bystander (write id purpose text) := by
  intro left right beside
  refine ⟨by simp only [write, beside.world_eq], ?_, ?_, beside.joins⟩
  · simpa [write] using beside.serves
  · simp only [write, beside.world_eq]

theorem ignores_note (event : Event) :
    Ignores id bystander (Execution.note event : Execution Shells Unit) :=
  fun _ _ beside => ⟨rfl, beside.serves, beside.world_eq, beside.joins⟩

/-! ## Running images -/

section Running

variable {interpret : Interpreter Shells} {image : Handle}

theorem ignores_runLines
    (obeys : ∀ command, Avoids bystander.image.name (Text.lossy command) →
      Ignores id bystander (interpret command)) {lines : List (Except ImageError Bytes)}
    (avoids : ∀ command, .ok command ∈ lines →
      Avoids bystander.image.name (Text.lossy command)) :
    Ignores id bystander (Script.runLines interpret lines) := by
  induction lines with
  | nil => exact ignores_pure _
  | cons line rest ih =>
      cases line with
      | error cause => exact ignores_pure _
      | ok command =>
          have later := ih fun each member => avoids each (List.mem_cons_of_mem _ member)
          refine (obeys command (avoids command List.mem_cons_self)).bind fun status => ?_
          split
          · exact later
          · exact ignores_pure _

theorem Accompanied.begin {left right : Machine Shells}
    (beside : Accompanied id bystander left right) (differs : image ≠ bystander.handle) :
    Accompanied id bystander (Script.begin bystander.registry image left)
      (Script.begin bystander.registry image right) := by
  refine ⟨?_, ?_, (beside.joins.hide differs).2⟩
  · rw [Script.world_begin, beside.serves]
  · rw [Script.world_begin, Script.world_begin, beside.world_eq]

theorem Accompanied.finish {left right : Machine Shells}
    (beside : Accompanied id bystander left right) (differs : image ≠ bystander.handle)
    (first : image ∈ bystander.start.listed bystander.registry) (hidden : Bool) :
    Accompanied id bystander (Script.finish bystander.registry image hidden left)
      (Script.finish bystander.registry image hidden right) := by
  refine ⟨?_, ?_, beside.joins.unhide differs first hidden⟩
  · rw [Script.world_finish, beside.serves]
  · rw [Script.world_finish, Script.world_finish, beside.world_eq]

variable
  (obeys : ∀ command, Avoids bystander.image.name (Text.lossy command) →
    Ignores id bystander (interpret command))
  (differs : image ≠ bystander.handle)
  (first : image ∈ bystander.start.listed bystander.registry)

include obeys differs first

/-- Hiding an image and putting it back passes the bystander by. -/
theorem ignores_run
    (script : (bystander.start.image image).format.map Format.loader = some .script) :
    Ignores id bystander (Script.run interpret bystander.registry image) := by
  intro left right beside
  have same := beside.joins.image_eq image differs
  have lines : (left.catalog.image image).buffer = (bystander.start.image image).buffer :=
    (beside.joins.kept image).1
  rw [Script.run_apply, Script.run_apply, same]
  split
  · exact ⟨rfl, beside.serves, beside.world_eq, beside.joins⟩
  · have body : Ignores id bystander
        (Script.runLines interpret (left.catalog.image image).buffer.lines) := by
      refine ignores_runLines obeys fun command member => ?_
      rw [lines] at member
      exact bystander.unspoken image first script command
        (List.mem_filterMap.mpr ⟨_, member, rfl⟩)
    obtain ⟨outcome, ended⟩ := body _ _ (beside.begin differs)
    rw [Script.whileHidden_apply, Script.whileHidden_apply, (beside.joins.hide differs).1]
    exact ⟨outcome, ended.finish differs first _⟩

theorem ignores_execute {format : Format}
    (tagged : (bystander.start.image image).format = some format) :
    Ignores id bystander (format.execute interpret bystander.registry image) := by
  unfold Format.execute
  split
  · next loads =>
      have script : (bystander.start.image image).format.map Format.loader = some .script := by
        rw [tagged, Option.map_some, loads]
      refine (ignores_run obeys differs first script).bind fun result => ?_
      cases result <;> exact ignores_pure _
  · exact ignores_pure _

theorem ignores_dispatch : Ignores id bystander (dispatch interpret bystander.registry image) := by
  intro left right beside
  simp only [dispatch, Execution.bind_apply, Execution.catalog,
    beside.joins.image_eq image differs]
  cases tagged : (left.catalog.image image).format with
  | none => exact ignores_pure _ left right beside
  | some format =>
      have tagged : (bystander.start.image image).format = some format :=
        (beside.joins.kept image).2.symm.trans tagged
      have executes : Ignores id bystander (do
          Execution.note (.dispatched image)
          let status ← format.execute interpret bystander.registry image
          pure (Except.ok status : Except ImageError Status)) :=
        (ignores_note _).bind fun _ =>
          (ignores_execute obeys differs first tagged).bind fun status => ignores_pure _
      exact executes left right beside

end Running

/-! ## Lines -/

theorem ignores_writeAll (texts : List String) : Ignores id bystander (writeAll id texts) := by
  induction texts with
  | nil => exact ignores_pure _
  | cons text rest ih =>
      refine (ignores_write .result text).bind fun answer => ?_
      cases answer with
      | ok => exact ih
      | error failure => exact ignores_pure _

theorem ignores_unregister {image : Handle} (differs : image ≠ bystander.handle) :
    Ignores id bystander (Execution.unregister bystander.registry image) := by
  intro left right beside
  rw [Execution.unregister_apply, Execution.unregister_apply]
  rcases beside.joins.unregister differs with ⟨failure, kept, kept'⟩ |
    ⟨catalog, catalog', letGo, letGo', joins⟩
  · rw [kept, kept']
    exact ⟨rfl, beside⟩
  · rw [letGo, letGo']
    exact ⟨rfl, beside.serves, beside.world_eq, joins⟩

theorem ignores_free {arguments : List String} (avoids : bystander.image.name ∉ arguments) :
    Ignores id bystander (free bystander.registry arguments) := by
  intro left right beside
  simp only [free, Execution.bind_apply, Execution.catalog, beside.joins.freeTarget_eq avoids]
  cases target : freeTarget left.catalog bystander.registry arguments with
  | error failure => exact ignores_pure _ left right beside
  | ok image =>
      have differs := beside.joins.ne_handle (mem_listed_of_freeTarget target)
      refine (ignores_unregister differs).bind (fun answer => ?_) left right beside
      cases answer <;> exact ignores_pure _

section Lines

variable {booter : Booter}
  (boots : ∀ image, image ≠ bystander.handle →
    image ∈ bystander.start.listed bystander.registry →
    Ignores id bystander (booter bystander.registry image))

include boots

theorem ignores_boot {arguments : List String} (avoids : bystander.image.name ∉ arguments) :
    Ignores id bystander (boot booter bystander.registry arguments) := by
  intro left right beside
  simp only [boot, Execution.bind_apply, Execution.catalog, beside.joins.bootTarget_eq avoids]
  cases target : bootTarget left.catalog bystander.registry arguments with
  | error failure => exact ignores_pure _ left right beside
  | ok image =>
      have member := mem_listed_of_bootTarget target
      refine (boots image (beside.joins.ne_handle member) (beside.joins.known image member)).bind
        (fun answer => ?_) left right beside
      cases answer <;> exact ignores_pure _

theorem ignores_perform {command : Command} (avoids : command.Avoids bystander.image.name) :
    Ignores id bystander (perform booter id command) := by
  cases command with
  | echo arguments => exact ignores_writeAll _
  | listImages => exact avoids.elim
  | free arguments =>
      intro left right beside
      simp only [perform, current, Execution.bind_apply, beside.world_eq, beside.serves]
      exact ignores_free avoids left right beside
  | boot arguments =>
      intro left right beside
      simp only [perform, current, Execution.bind_apply, beside.world_eq, beside.serves]
      exact ignores_boot boots avoids left right beside
  | _ => exact ignores_pure _

theorem ignores_attemptLine {line : String} (avoids : Avoids bystander.image.name line) :
    Ignores id bystander (attemptLine booter id line) := by
  unfold attemptLine
  split
  · exact ignores_pure _
  · next command asks =>
      have performs := ignores_perform boots (Command.avoids_of_line avoids asks)
      have traces : Ignores id bystander (write id .trace ("$ " ++ line ++ "\n") >>=
          afterTrace (perform booter id command)) := by
        refine (ignores_write .trace _).bind fun answer => ?_
        cases answer with
        | ok => exact performs
        | error failure => exact ignores_pure _
      intro left right beside
      simp only [traceAndPerform, current, Execution.bind_apply, beside.world_eq]
      split
      · exact traces left right beside
      · exact performs left right beside

end Lines

theorem ignores_complain {left right : Machine Shells}
    (beside : Accompanied id bystander left right) (answer : Except ShellError Status) :
    Accompanied id bystander (complain id answer left) (complain id answer right) := by
  cases answer with
  | ok status => exact beside
  | error failure => exact (ignores_write .complaint _ left right beside).2

/-- The induction is on the depth of nesting: a line boots an image whose lines nest less deep. -/
theorem ignores_runLineWithin (depth : Nat) {line : String}
    (avoids : Avoids bystander.image.name line) :
    Ignores id bystander (runLineWithin id depth line) := by
  induction depth generalizing line with
  | zero => exact fun _ _ beside => ⟨rfl, beside⟩
  | succ depth ih =>
      intro left right beside
      have attempts : Ignores id bystander (attemptLine (booterWithin id depth) id line) :=
        ignores_attemptLine
          (fun image differs first => ignores_dispatch (fun _ avoids => ih avoids) differs first)
          avoids
      rw [runLineWithin_succ]
      exact asLine_side_by_side
        (attempts _ _ ⟨beside.serves, beside.world_eq, beside.joins⟩)
        (fun answer _ _ beside => ignores_complain beside answer)
        (fun _ _ _ beside => ⟨beside.serves, beside.world_eq, beside.joins⟩)

/-- The bounds on nesting may differ.  One beyond both makes no difference to either. -/
theorem Accompanied.runLine {left right : Machine Shells}
    (beside : Accompanied id bystander left right) {line : String}
    (avoids : Avoids bystander.image.name line) :
    ∃ status after after', runLine id line left = (.ok status, after) ∧
      runLine id line right = (.ok status, after') ∧ Accompanied id bystander after after' := by
  let depth := max (nestingBound left.catalog) (nestingBound right.catalog)
  have enough : left.catalog.waiting.card < depth :=
    lt_of_lt_of_le left.catalog.card_waiting_lt (le_max_left _ _)
  have enough' : right.catalog.waiting.card < depth :=
    lt_of_lt_of_le right.catalog.card_waiting_lt (le_max_right _ _)
  obtain ⟨outcome, ends⟩ := ignores_runLineWithin depth avoids left right beside
  rw [(agreesAt_runLine line enough).1, (agreesAt_runLine line enough').1] at outcome ends
  obtain ⟨status, after, returned⟩ := runLine_returns id line left
  rw [returned] at outcome ends
  exact ⟨status, after, (Shell.runLine id line right).2, returned, Prod.ext outcome rfl, ends⟩

theorem Accompanied.afterLines {left right : Machine Shells}
    (beside : Accompanied id bystander left right) {lines : List String}
    (avoids : ∀ line ∈ lines, Avoids bystander.image.name line) :
    Accompanied id bystander (afterLines id lines left) (afterLines id lines right) := by
  induction lines generalizing left right with
  | nil => exact beside
  | cons line rest ih =>
      obtain ⟨here, others⟩ := List.forall_mem_cons.mp avoids
      obtain ⟨status, after, after', returned, returned', between⟩ := beside.runLine here
      have ended := ih between others
      simpa only [Shell.afterLines, List.foldl_cons, returned, returned'] using ended

/-- Wherever an image without a format is put on the list, lines that do not speak of it end with
the same statuses and write the same, and it stays as it is, somewhere on the list. -/
theorem afterLines_beside {machine : Machine Shells} {handle : Handle} {image : Image}
    {earlier later : List Handle} {lines : List String}
    (split : machine.catalog.listed (machine.world.get id).registry = earlier ++ later)
    (new : handle ∉ machine.catalog.listed (machine.world.get id).registry)
    (unclassified : image.format = none)
    (unspoken : ∀ each ∈ machine.catalog.listed (machine.world.get id).registry,
      (machine.catalog.image each).Avoids image.name)
    (avoids : ∀ line ∈ lines, Avoids image.name line) :
    let registry := (machine.world.get id).registry
    let joined : Machine Shells :=
      { machine with
        catalog := (machine.catalog.modifyImage handle fun _ => image).setListed registry
          (earlier ++ handle :: later) }
    let left := afterLines id lines machine
    let right := afterLines id lines joined
    right.world = left.world ∧
      (∃ earlier later, left.catalog.listed registry = earlier ++ later ∧
        right.catalog.listed registry = earlier ++ handle :: later) ∧
      right.catalog.image handle = image ∧
      right.catalog.references handle = joined.catalog.references handle ∧
      (∀ each, each ≠ handle → right.catalog.image each = left.catalog.image each) ∧
      (∀ other, other ≠ registry →
        right.catalog.registry other = left.catalog.registry other) ∧
      ∀ line, Avoids image.name line →
        ∃ status after after', runLine id line left = (.ok status, after) ∧
          runLine id line right = (.ok status, after') ∧ after'.world = after.world := by
  intro registry joined left right
  let bystander : Bystander :=
    { registry, start := machine.catalog, handle, image, unclassified, unspoken }
  have start : bystander.Joins machine.catalog joined.catalog := .of_listed new split
  have began : Accompanied id bystander machine joined := ⟨rfl, rfl, start⟩
  have beside : Accompanied id bystander left right := began.afterLines avoids
  have joins := beside.joins
  obtain ⟨before, after, -, right_eq, left_eq⟩ := List.exists_erase_eq joins.listed
  refine ⟨beside.world_eq, ⟨before, after, joins.without.symm.trans left_eq, right_eq⟩,
    joins.stands, start.references_eq joins, joins.image_eq, ?_, ?_⟩
  · intro other differs
    rw [(joins.others other differs).1, (joins.others other differs).2]
  · intro line speaksNot
    obtain ⟨status, after, after', returned, returned', ended⟩ := beside.runLine speaksNot
    exact ⟨status, after, after', returned, returned', ended.world_eq⟩

/-- The bystander gets from the middle of the list to its front, as the others are run and freed
around it. -/
theorem afterLines_beside_nested :
    let bootAgain : Buffer :=
      { contents := ⟨#[98, 111, 111, 116, 32, 98, 10, 102, 97, 108, 115, 101], by decide⟩ }
    let echo : Buffer := { contents := ⟨#[101, 99, 104, 111, 32, 121], by decide⟩ }
    let machine := ((Session.start [{}] [{}] {}).after
      [.create "a" bootAgain, .create "b" echo, .setFormat 0 Script.format,
        .setFormat 1 Script.format, .register 0 0, .register 0 1]).machine
    let image : Image := { name := "x", buffer := echo, registered := true }
    let joined : Machine Shells :=
      { machine with
        catalog := (machine.catalog.modifyImage 2 fun _ => image).setListed 0 [0, 2, 1] }
    let lines := ["boot a", "imgfree b"]
    (afterLines 0 lines joined).world = (afterLines 0 lines machine).world ∧
      (afterLines 0 lines machine).catalog.listed 0 = [0] ∧
      (afterLines 0 lines joined).catalog.listed 0 = [2, 0] ∧
      (afterLines 0 lines joined).catalog.image 2 = image ∧
      ∃ status after after', runLine 0 "boot" (afterLines 0 lines machine) = (.ok status, after) ∧
        runLine 0 "boot" (afterLines 0 lines joined) = (.ok status, after') ∧
        after'.world = after.world := by
  intro bootAgain echo machine image joined lines
  have serves : (machine.world.get 0).registry = 0 := by decide
  have split : machine.catalog.listed (machine.world.get 0).registry = [0] ++ [1] := by decide
  have new : 2 ∉ machine.catalog.listed (machine.world.get 0).registry := by decide
  have unclassified : image.format = none := rfl
  have unspoken : ∀ each ∈ machine.catalog.listed (machine.world.get 0).registry,
      (machine.catalog.image each).Avoids image.name := by decide +kernel
  have avoids : ∀ line ∈ lines, Avoids image.name line := by decide
  have avoids' : Avoids image.name "boot" := by decide
  have left : (afterLines 0 lines machine).catalog.listed 0 = [0] := by decide +kernel
  have right : (afterLines 0 lines joined).catalog.listed 0 = [2, 0] := by decide +kernel
  clear_value machine
  obtain ⟨world, -, stands, -, -, -, next⟩ :=
    afterLines_beside split new unclassified unspoken avoids
  rw [serves] at world stands next
  exact ⟨world, left, right, stands, next "boot" avoids'⟩

end Shell

end BootScript
