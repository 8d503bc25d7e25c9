import BootScript.Proofs.Complaints
import BootScript.Proofs.Permanence
import BootScript.Proofs.Rearrangement
import BootScript.Proofs.Recounting

/-!
# A shell over scripts alone

The registry of the host lists scripts and nothing else, and lets each of them go.  A shell
over it adds no image and gives none a format, and every image that it boots is listed, so
this stays so whatever it runs.  Then no image is found that cannot be executed, that runs
already or that is listed twice, and what the shell complains of it has found by itself.
-/

namespace BootScript

/-- A registry that lists scripts alone, and lets each of them go. -/
structure Catalog.Furnished (registry : RegistryId) (catalog : Catalog) : Prop where
  unpinned : (catalog.registry registry).pinned = false
  script : ∀ image ∈ catalog.listed registry, (catalog.image image).format = some Script.format

/-- What may happen over a registry of scripts.  Its catalogs are those that lines find and
that runs leave and restore.  A run takes its image off the list and puts it back, and no
image joins the list in another way. -/
def Event.Orderly (registry : RegistryId) : Event → Prop
  | lineBegan _ _ seen => seen.Furnished registry
  | runRefused _ => False
  | runBegan context _ hidden => context = registry ∧ hidden = true
  | runEnded context image hidden left restored =>
      context = registry ∧ hidden = true ∧ left.Furnished registry ∧
        (∃ listed, left.register registry image = .ok listed) ∧ restored.Furnished registry
  | registered _ _ | classified _ _ => False
  | _ => True

/-! ## Courses over scripts -/

/-- A catalog in which a registry lists scripts alone, each of them once and idle. -/
structure Catalog.Stocked (registry : RegistryId) (catalog : Catalog) : Prop
    extends catalog.Furnished registry where
  once : (catalog.listed registry).Nodup
  idle : ∀ image ∈ catalog.listed registry, (catalog.image image).executing = false

/-- Where a course stands that began over a registry of scripts. -/
structure Undisturbed (registry : RegistryId) (first : Catalog) (position : Position Shells) :
    Prop where
  rearranged : Rearranged registry (first.listed registry) position
  nested : Nested first position
  tagged : ∀ image, Tagged first image position.journal position.catalog

namespace Undisturbed

variable {id : ShellId} {registry : RegistryId} {first : Catalog}
  {position before after : Position Shells} {image : Handle}

theorem start {machine : Machine Shells} (stocked : machine.catalog.Stocked registry)
    (blank : machine.journal = []) (owned : Handle → Nat) :
    Undisturbed registry machine.catalog ⟨machine, [], owned⟩ where
  rearranged := .start machine blank owned stocked.unpinned
  nested := .start machine blank owned
  tagged image := by
    rw [Position.journal, blank]
    exact .kept _ rfl

section Listed

variable (undisturbed : Undisturbed registry first position) (stocked : first.Stocked registry)

include undisturbed

/-- What is listed was listed in the beginning. -/
theorem mem_first (listed : image ∈ position.catalog.listed registry) :
    image ∈ first.listed registry := by
  refine undisturbed.rearranged.whole.subset ?_
  simp [listed]

theorem orderly_enter (listed : image ∈ position.catalog.listed registry)
    (orderly : ∀ event ∈ position.journal, event.Orderly registry) :
    ∀ event ∈ (position.enter registry image).journal, event.Orderly registry := by
  have hidden : (Script.hide position.catalog registry image).1 = true :=
    (Script.hide_fst ..).mpr ⟨undisturbed.rearranged.unpinned, listed⟩
  rw [Position.journal_enter]
  exact List.forall_mem_cons.mpr ⟨⟨rfl, hidden⟩, orderly⟩

include stocked

theorem furnished : position.catalog.Furnished registry := by
  refine ⟨undisturbed.rearranged.unpinned, fun image listed => ?_⟩
  have tagged := undisturbed.tagged image
  rw [Tagged, stocked.script image (undisturbed.mem_first listed)] at tagged
  generalize (position.catalog.image image).format = format at tagged ⊢
  cases tagged with
  | kept => rfl

theorem notMem_images (listed : image ∈ position.catalog.listed registry) :
    image ∉ position.images := fun runs =>
  have distinct := (undisturbed.rearranged.distinct stocked.once).of_append_left
  List.disjoint_of_nodup_append distinct listed runs

theorem idle (listed : image ∈ position.catalog.listed registry) :
    (position.catalog.image image).executing = false := by
  have rests := stocked.idle image (undisturbed.mem_first listed)
  rw [← Bool.not_eq_true, undisturbed.nested.executing image]
  simp [rests, undisturbed.notMem_images stocked listed]

theorem enter (listed : image ∈ position.catalog.listed registry) :
    Undisturbed registry first (position.enter registry image) where
  rearranged := undisturbed.rearranged.enter stocked.once listed
  nested := undisturbed.nested.enter registry (undisturbed.idle stocked listed)
  tagged other := (undisturbed.tagged other).enter registry image

theorem leave : Undisturbed registry first position.leave where
  rearranged := undisturbed.rearranged.leave stocked.once
  nested := undisturbed.nested.leave
  tagged image := (undisturbed.tagged image).leave

theorem orderly_leave (orderly : ∀ event ∈ position.journal, event.Orderly registry) :
    ∀ event ∈ position.leave.journal, event.Orderly registry := by
  cases running : position.running with
  | nil => rwa [Position.leave_eq_self running]
  | cons frame rest =>
      have member : frame ∈ position.running := by rw [running]; exact List.mem_cons_self
      obtain ⟨here, hidden⟩ := undisturbed.rearranged.own frame member
      have unlisted : frame.image ∉ position.catalog.listed registry := fun listed =>
        undisturbed.notMem_images stocked listed (List.mem_map_of_mem member)
      have back : ∃ listed, position.catalog.register registry frame.image = .ok listed :=
        ⟨_, if_neg unlisted⟩
      rw [Position.journal_leave running]
      exact List.forall_mem_cons.mpr ⟨⟨here, hidden, undisturbed.furnished stocked, back,
        (undisturbed.leave stocked).furnished stocked⟩, orderly⟩

end Listed

theorem move (step : Move (Conduct.listedOnly id registry) before after)
    (stocked : first.Stocked registry) (undisturbed : Undisturbed registry first before) :
    Undisturbed registry first after where
  rearranged := undisturbed.rearranged.move step stocked.once
  nested := undisturbed.nested.move step
  tagged image := (undisturbed.tagged image).move step

theorem orderly_move (step : Move (Conduct.listedOnly id registry) before after)
    (stocked : first.Stocked registry) (undisturbed : Undisturbed registry first before)
    (orderly : ∀ event ∈ before.journal, event.Orderly registry) :
    ∀ event ∈ after.journal, event.Orderly registry := by
  cases step with
  | turn world => exact orderly
  | remark event truthful =>
      refine List.forall_mem_cons.mpr ⟨?_, orderly⟩
      cases event with
      | lineBegan shell line seen =>
          obtain rfl : seen = before.catalog := truthful
          exact undisturbed.furnished stocked
      | dispatched | commandBegan | lineEnded | wrote => trivial
      | _ => exact truthful.elim
  | act deed catalog permitted affordable performed =>
      obtain ⟨image, -, rfl⟩ := permitted
      exact List.forall_mem_cons.mpr ⟨trivial, orderly⟩
  | refuse context image permitted busy =>
      obtain ⟨rfl, listed⟩ := permitted
      rw [undisturbed.idle stocked listed] at busy
      exact absurd busy Bool.false_ne_true
  | enter context image permitted idle lines =>
      obtain ⟨rfl, listed⟩ := permitted
      exact undisturbed.orderly_enter listed orderly
  | leave => exact undisturbed.orderly_leave stocked orderly
  | pass context image permitted idle noLines =>
      obtain ⟨rfl, listed⟩ := permitted
      exact (undisturbed.enter stocked listed).orderly_leave stocked
        (undisturbed.orderly_enter listed orderly)

end Undisturbed

/-- A course that passes through catalogs of one kind alone. -/
abbrev CourseOver (conduct : Conduct Shells) (kind : Catalog → Prop) :
    Position Shells → Position Shells → Prop :=
  Relation.ReflTransGen fun before after => Move conduct before after ∧ kind after.catalog

theorem Undisturbed.course {id : ShellId} {registry : RegistryId} {first : Catalog}
    {before after : Position Shells} (stocked : first.Stocked registry)
    (course : Course (Conduct.listedOnly id registry) before after)
    (undisturbed : Undisturbed registry first before)
    (orderly : ∀ event ∈ before.journal, event.Orderly registry) :
    CourseOver (Conduct.listedOnly id registry) (Catalog.Furnished registry) before after ∧
      Undisturbed registry first after ∧ ∀ event ∈ after.journal, event.Orderly registry := by
  induction course with
  | refl => exact ⟨.refl, undisturbed, orderly⟩
  | tail _ step ih =>
      obtain ⟨course, undisturbed, orderly⟩ := ih
      have moved := undisturbed.move step stocked
      exact ⟨course.tail ⟨step, moved.furnished stocked⟩, moved,
        undisturbed.orderly_move step stocked orderly⟩

/-- Executing a script that is listed leaves scripts on the list, and nothing goes wrong on
the way. -/
theorem Shell.orderly_dispatch {id : ShellId} {registry : RegistryId} {machine : Machine Shells}
    {image : Handle} (serves : (machine.world.get id).registry = registry)
    (blank : machine.journal = []) (stocked : machine.catalog.Stocked registry)
    (listed : image ∈ machine.catalog.listed registry) (depth : Nat) :
    let conduct := Conduct.listedOnly id registry
    let after := (dispatch (interpretWithin id depth) registry image machine).2
    CourseOver conduct (Catalog.Furnished registry) (conduct.outset machine)
        (conduct.outset after) ∧
      after.catalog.Furnished registry ∧ ∀ event ∈ after.journal, event.Orderly registry := by
  intro conduct after
  have permitted : conduct.runs machine.catalog registry image := ⟨rfl, listed⟩
  obtain ⟨-, course⟩ := followsAt_dispatch permitted
    (follows_interpretWithin (Conduct.listedOnly_admitsShell id registry) depth) serves
  have begun : ∀ event ∈ (conduct.outset machine).journal, event.Orderly registry := by
    rw [Conduct.outset, Position.journal, blank]
    exact fun event member => absurd member List.not_mem_nil
  obtain ⟨through, undisturbed, orderly⟩ :=
    Undisturbed.course stocked course (.start stocked blank _) begun
  exact ⟨through, undisturbed.furnished stocked, orderly⟩

/-! ## Lines over scripts -/

/-- How a script is listed. -/
def Shell.scriptLine (image : Image) : String :=
  image.name ++ ": " ++ toString image.size.toNat ++ " bytes [script]\n"

theorem Shell.imageLine_of_script {image : Image} (script : image.format = some Script.format) :
    imageLine image = scriptLine image := by
  have named : image.formatName? = some "script" := by rw [Image.formatName?, script]; rfl
  have split : " bytes [script]\n" = " bytes [" ++ "script" ++ "]\n" := by decide +kernel
  rw [imageLine, scriptLine, named, split, ← String.append_assoc, ← String.append_assoc]
  rfl

/-- What a line does that found scripts alone.  If it fails, it is for a reason of its own, and
if it asks for the images, it lists all of them as scripts, after its trace if there is one. -/
structure Shell.FindsScripts (id : ShellId) (registry : RegistryId) (line : String)
    (seen : Catalog) (within : List Event) (answer : Except ShellError Status) : Prop where
  ordinary : ∀ failure, answer = .error failure → failure.Ordinary
  listing : Command.ofLine? line = some .listImages → answer = .ok Status.success ∧
    ∃ trace, within =
      ((seen.listed registry).map fun image =>
        .wrote id .result (scriptLine (seen.image image))).reverse ++ trace ∧
      ∀ event ∈ trace, event = .wrote id .trace ("$ " ++ line ++ "\n")

theorem Command.mem_words_of_unknown {line name : String}
    (asks : ofLine? line = some (.unknown name)) : name ∈ Text.words line := by
  unfold ofLine? at asks
  cases words : Text.words line with
  | nil => rw [words] at asks; exact absurd asks nofun
  | cons first arguments =>
      simp only [words, ofWords?] at asks
      split at asks
      · exact absurd asks nofun
      · have named : ofName first arguments = .unknown name := Option.some.inj asks
        unfold ofName at named
        split at named <;> cases named
        exact List.mem_cons_self

namespace Shell

variable {id : ShellId} {registry : RegistryId} {machine after : Machine Shells}

/-- A sink without a limit takes every text. -/
theorem Unbounded.writeAll (unbounded : Unbounded id registry machine) (texts : List String) :
    ∃ after, writeAll id texts machine = (.ok (.ok Status.success), after) ∧
      Recorded id machine after (texts.map (.wrote id .result)).reverse := by
  induction texts generalizing machine with
  | nil => exact ⟨machine, rfl, .refl unbounded.unlimited⟩
  | cons text rest ih =>
      obtain ⟨recorded, taken⟩ := Recorded.of_write unbounded.unlimited .result text
      have serves : ((write id .result text machine).2.world.get id).registry = registry := by
        simpa [write] using unbounded.serves
      obtain ⟨after, written, later⟩ := ih ⟨serves, recorded.unlimited⟩
      refine ⟨after, ?_, ?_⟩
      · rw [Shell.writeAll, Execution.bind_apply]
        rcases outcome : write id .result text machine with ⟨answer, between⟩
        rw [outcome] at taken written
        obtain rfl : answer = .ok (.ok ()) := taken
        exact written
      · rw [List.map_cons, List.reverse_cons]
        exact recorded.trans later

theorem Unbounded.perform_listImages {booter : Booter} (unbounded : Unbounded id registry machine)
    (furnished : machine.catalog.Furnished registry) :
    ∃ after, perform booter id .listImages machine = (.ok (.ok Status.success), after) ∧
      Recorded id machine after ((machine.catalog.listed registry).map fun image =>
        .wrote id .result (scriptLine (machine.catalog.image image))).reverse := by
  have scripts : (machine.catalog.listed registry).map (imageLine ∘ machine.catalog.image) =
      (machine.catalog.listed registry).map (scriptLine ∘ machine.catalog.image) :=
    List.map_congr_left fun image listed => imageLine_of_script (furnished.script image listed)
  obtain ⟨after, written, recorded⟩ := unbounded.writeAll
    ((machine.catalog.listed registry).map (scriptLine ∘ machine.catalog.image))
  refine ⟨after, ?_, ?_⟩
  · rw [← scripts] at written
    simp only [perform, current, Execution.bind_apply, Execution.catalog, unbounded.serves]
    exact written
  · rwa [List.map_map] at recorded

theorem bootTarget_ordinary {catalog : Catalog} {arguments : List String} {failure : ShellError}
    (refused : bootTarget catalog registry arguments = .error failure) : failure.Ordinary := by
  unfold bootTarget at refused
  split at refused
  · split at refused <;> cases refused
    exact .noExecutableImage
  · split at refused <;> cases refused
    exact .imageNotFound _
  · cases refused
    exact .invalidArgument _ (Text.isBlank_of_all (by decide +kernel))

theorem freeTarget_ordinary {catalog : Catalog} {arguments : List String} {failure : ShellError}
    (refused : freeTarget catalog registry arguments = .error failure) : failure.Ordinary := by
  unfold freeTarget at refused
  split at refused
  · split at refused <;> cases refused
    exact .imageNotFound _
  · cases refused
    exact .invalidArgument _ (Text.isBlank_of_all (by decide +kernel))

theorem exitStatus_ordinary {arguments : List String} {failure : ShellError}
    (refused : exitStatus arguments = .error failure) : failure.Ordinary := by
  unfold exitStatus at refused
  split at refused
  · cases refused
  · split at refused <;> cases refused
    exact .invalidArgument _ (Text.isBlank_of_all (by decide +kernel))
  · cases refused
    exact .invalidArgument _ (Text.isBlank_of_all (by decide +kernel))

section Furnished

variable (furnished : machine.catalog.Furnished registry) {arguments : List String}
  {failure : ShellError}

include furnished

theorem free_ordinary
    (returned : free registry arguments machine = (.ok (.error failure), after)) :
    failure.Ordinary := by
  simp only [free, Execution.bind_apply, Execution.catalog] at returned
  cases target : freeTarget machine.catalog registry arguments with
  | error refusal =>
      simp only [target, Execution.pure_apply] at returned
      cases returned
      exact freeTarget_ordinary target
  | ok image =>
      have listed := mem_listed_of_freeTarget target
      have freed : machine.catalog.unregister registry image = .ok _ :=
        Catalog.unregister_eq_ok_iff.mpr ⟨furnished.unpinned, listed, rfl⟩
      simp only [target, Execution.bind_apply, Execution.unregister_apply, freed,
        Execution.pure_apply] at returned
      cases returned

theorem boot_ordinary {depth : Nat}
    (returned : boot (booterWithin id depth) registry arguments machine =
      (.ok (.error failure), after)) : failure.Ordinary := by
  simp only [boot, Execution.bind_apply, Execution.catalog] at returned
  cases target : bootTarget machine.catalog registry arguments with
  | error refusal =>
      simp only [target, Execution.pure_apply] at returned
      cases returned
      exact bootTarget_ordinary target
  | ok image =>
      have tagged := furnished.script image (mem_listed_of_bootTarget target)
      simp only [target, Execution.bind_apply, booterWithin, dispatch_of_some tagged] at returned
      generalize Script.format.execute _ registry image _ = executed at returned
      obtain ⟨outcome, left⟩ := executed
      cases outcome <;> cases returned

end Furnished

theorem perform_ordinary {depth : Nat} {command : Command} {failure : ShellError}
    (unbounded : Unbounded id registry machine)
    (furnished : machine.catalog.Furnished registry)
    (word : ∀ name, command = .unknown name →
      ∀ character ∈ name.toList, Text.isBlank character = false)
    (returned : perform (booterWithin id depth) id command machine =
      (.ok (.error failure), after)) : failure.Ordinary := by
  have serves := unbounded.serves
  cases command with
  | echo arguments =>
      obtain ⟨left, written, -⟩ := unbounded.writeAll [" ".intercalate arguments ++ "\n"]
      rw [perform, written] at returned
      cases returned
  | succeed => cases returned
  | fail => cases returned
  | exit arguments =>
      have refused : exitStatus arguments = .error failure := by
        simpa [perform] using (Prod.mk.inj returned).1
      exact exitStatus_ordinary refused
  | listImages =>
      obtain ⟨left, performed, -⟩ := unbounded.perform_listImages furnished
      rw [performed] at returned
      cases returned
  | free arguments =>
      simp only [perform, current, Execution.bind_apply, serves] at returned
      exact free_ordinary furnished returned
  | boot arguments =>
      simp only [perform, current, Execution.bind_apply, serves] at returned
      exact boot_ordinary furnished returned
  | unknown name =>
      cases returned
      exact .unknownCommand (word name rfl)

theorem FindsScripts.of_attempt {depth : Nat} {line : String} {answer : Except ShellError Status}
    {within : List Event} (unbounded : Unbounded id registry machine)
    (furnished : machine.catalog.Furnished registry)
    (attempted : attemptLine (booterWithin id depth) id line (beginLine id line machine) =
      (.ok answer, after))
    (recorded : Recorded id (beginLine id line machine) after within) :
    FindsScripts id registry line machine.catalog within answer := by
  have begun : Unbounded id registry (beginLine id line machine) :=
    ⟨unbounded.serves, unbounded.unlimited⟩
  cases asks : Command.ofLine? line with
  | none =>
      rw [attemptLine, asks] at attempted
      cases attempted
      refine ⟨fun failure same => ?_, fun lists => ?_⟩
      · cases same
      · rw [asks] at lists
        cases lists
  | some command =>
      obtain ⟨serves, traced, -⟩ : Leaves id registry (fun _ _ _ _ => True) _ _ _ :=
        begun.leaves_traceLine line
      rw [attemptLine_of_command begun.unlimited asks] at attempted
      generalize tracing : traceLine id line (beginLine id line machine) = between
        at serves traced attempted
      have same : between.catalog = machine.catalog := by
        rw [← tracing, catalog_traceLine]
        rfl
      have unbounded : Unbounded id registry between := ⟨serves, traced.unlimited⟩
      refine ⟨?_, ?_⟩
      · rintro failure rfl
        refine perform_ordinary unbounded (same ▸ furnished) ?_ attempted
        rintro name rfl
        exact Text.isBlank_of_mem_words (Command.mem_words_of_unknown asks)
      · intro lists
        obtain rfl : command = .listImages := Option.some.inj (asks.symm.trans lists)
        obtain ⟨left, performed, wrote⟩ := unbounded.perform_listImages (same ▸ furnished)
        rw [performed] at attempted
        rw [same] at wrote
        cases attempted
        refine ⟨rfl, trace id line (beginLine id line machine), ?_, ?_⟩
        · exact recorded.unique (traced.trans wrote)
        · intro event member
          unfold trace at member
          split at member
          · exact List.mem_singleton.mp member
          · exact absurd member List.not_mem_nil

/-! ## Executing a script -/

/-- What executing a listed image leaves, if it began over a registry of scripts. -/
structure RanScripts (id : ShellId) (registry : RegistryId) (machine : Machine Shells)
    (image : Handle) (left : Machine Shells) : Prop where
  starts : machine.catalog.Furnished registry
  /-- At every step of the way the registry lists scripts alone. -/
  throughout : CourseOver (Conduct.listedOnly id registry) (Catalog.Furnished registry)
    ((Conduct.listedOnly id registry).outset machine)
    ((Conduct.listedOnly id registry).outset left)
  ends : left.catalog.Furnished registry
  orderly : ∀ event ∈ left.journal, event.Orderly registry
  booted : ∃ recent, left.journal = recent ++ [.dispatched image]
  recounts : Recounts id (FindsScripts id registry) left.journal
  /-- Nothing that the image layer could have said was complained of. -/
  complaints : ∀ shell text, .wrote shell .complaint text ∈ left.journal →
    ∀ cause : ImageError, text ≠ cause.message ++ "\n"

theorem recounts_of_dispatch {depth : Nat} {image : Handle} {status : Status}
    (unbounded : Unbounded id registry machine)
    (script : (machine.catalog.image image).format = some Script.format)
    (executed : dispatch (interpretWithin id depth) registry image machine =
      (.ok (.ok status), after)) :
    ∃ recent, Recorded id machine after (recent ++ [.dispatched image]) ∧
      Recounts id (fun line seen within answer => seen.Furnished registry →
        FindsScripts id registry line seen within answer) (recent ++ [.dispatched image]) := by
  let property : LineProperty := fun line seen within answer =>
    seen.Furnished registry → FindsScripts id registry line seen within answer
  have lines : LinesHave id registry property :=
    fun _ _ _ _ _ _ unbounded attempted recorded furnished =>
      .of_attempt unbounded furnished attempted recorded
  let handed : Machine Shells := { machine with journal := .dispatched image :: machine.journal }
  have first : Leaves id registry property machine handed [.dispatched image] :=
    .of_silent unbounded rfl rfl rfl trivial
  have recounting : (Way.recounting id registry property).Takes
      (Script.execute (interpretWithin id depth) registry image) :=
    (Practice.recounting id registry property).execute
      (fun command => recounting_runLineWithin lines depth (Text.lossy command)) rfl trivial
  obtain ⟨recent, later⟩ :=
    recounting handed status after first.unbounded (execute_of_dispatch script rfl executed)
  exact ⟨recent, (first.trans later).recorded, (first.trans later).recounts⟩

/-- Executing a script that is listed among others comes to a status, and nothing goes wrong
on the way that could only go wrong over images that are no scripts. -/
theorem ranScripts_of_dispatch {image : Handle} (unbounded : Unbounded id registry machine)
    (blank : machine.journal = []) (stocked : machine.catalog.Stocked registry)
    (listed : image ∈ machine.catalog.listed registry) :
    ∃ status left, dispatch (interpretWithin id (nestingBound machine.catalog)) registry image
        machine = (.ok (.ok status), left) ∧
      Recorded id machine left left.journal ∧
      RanScripts id registry machine image left := by
  have script := stocked.script image listed
  obtain ⟨status, left, executed⟩ := dispatch_returns id registry script
  obtain ⟨through, ends, orderly⟩ :=
    orderly_dispatch unbounded.serves blank stocked listed (nestingBound machine.catalog)
  obtain ⟨recent, recorded, recounts⟩ := recounts_of_dispatch unbounded script executed
  have journal : left.journal = recent ++ [.dispatched image] := by
    rw [recorded.added, blank, List.append_nil]
  rw [executed] at through ends orderly
  rw [← journal] at recorded recounts
  have furnished (shell : ShellId) (line : String) (seen : Catalog)
      (began : .lineBegan shell line seen ∈ left.journal) : seen.Furnished registry :=
    orderly (.lineBegan shell line seen) began
  have found : Recounts id (FindsScripts id registry) left.journal :=
    recounts.mono furnished fun _ _ _ _ furnished finds => finds furnished
  refine ⟨status, left, executed, recorded, stocked.toFurnished, through, ends,
    orderly, ⟨recent, journal⟩, found, ?_⟩
  intro shell text member cause same
  obtain ⟨line, seen, within, failure, finds, rfl⟩ := found.complaint_mem member
  have messages : failure.message = cause.message := by
    simpa [← String.toList_inj, String.toList_append] using same
  exact (finds.ordinary failure rfl).message_ne cause messages

end Shell

end BootScript
