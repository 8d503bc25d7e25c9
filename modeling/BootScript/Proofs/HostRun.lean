import BootScript.Proofs.Arguments
import BootScript.Proofs.Booting
import BootScript.Proofs.Selection
import BootScript.Proofs.Words

/-!
# What the host boots

The host passes over files that are no scripts and boots the first script, or the first of
the name that it was given.  What it writes is what a shell over all the scripts writes, and
its exit code is a success if and only if every line was one.
-/

namespace BootScript.Host

/-! ## Exit codes -/

theorem exitCode_eq_zero_iff (status : Status) : exitCode status = 0 ↔ status = Status.success := by
  have zero : status = Status.success ↔ status.toInt = 0 := by
    rw [← Int32.toInt_inj]
    rfl
  rw [zero, exitCode]
  split <;> omega

/-! ## The first script that is wanted -/

theorem exists_first_wanted {files : FileSystem} {boot : Option String} {paths : List String}
    (found : ∃ path ∈ paths, ∃ image, Loader.script? files path = some image ∧ Wanted boot image) :
    ∃ before path after image, paths = before ++ path :: after ∧
      Loader.script? files path = some image ∧ Wanted boot image ∧
      ∀ other ∈ before.filterMap (Loader.script? files), ¬Wanted boot other := by
  induction paths with
  | nil => exact absurd found (by simp)
  | cons path rest ih =>
      by_cases here : ∃ image, Loader.script? files path = some image ∧ Wanted boot image
      · obtain ⟨image, script, wanted⟩ := here
        exact ⟨[], path, rest, image, rfl, script, wanted, nofun⟩
      · obtain ⟨other, member, image, script, wanted⟩ := found
        rcases List.mem_cons.mp member with rfl | later
        · exact absurd ⟨image, script, wanted⟩ here
        · obtain ⟨before, first, after, image, split, script, wanted, skipped⟩ :=
            ih ⟨other, later, image, script, wanted⟩
          have longer : path :: rest = path :: before ++ first :: after :=
            congrArg (path :: ·) split
          refine ⟨path :: before, first, after, image, longer, script, wanted, ?_⟩
          intro other member
          obtain ⟨earlier, inside, script⟩ := List.mem_filterMap.mp member
          rcases List.mem_cons.mp inside with rfl | deeper
          · exact fun wanted => here ⟨other, script, wanted⟩
          · exact skipped other (List.mem_filterMap.mpr ⟨earlier, deeper, script⟩)

/-! ## The line that boots it -/

def bootLine : Option String → String
  | none => "boot"
  | some name => "boot" ++ " " ++ name

theorem ofLine?_bootLine {boot : Option String}
    (word : ∀ name, boot = some name →
      name ≠ "" ∧ ∀ character ∈ name.toList, Text.isBlank character = false) :
    Command.ofLine? (bootLine boot) = some (.boot boot.toList) := by
  cases boot with
  | none => decide
  | some name =>
      obtain ⟨some, whole⟩ := word name rfl
      have boots : Text.words "boot" = ["boot"] := by decide
      have words : Text.words (bootLine (.some name)) = ["boot", name] := by
        rw [bootLine, Text.words_append, boots, Text.words_of_word some whole]
        rfl
      rw [Command.ofLine?, words]
      rfl

/-! ## Booting -/

theorem overlay_default (given : Settings) : ({} : Settings).overlay given = given := by
  obtain ⟨images, boot, traces⟩ := given
  cases boot <;> simp [Settings.overlay]

/-- What the host makes of an image that it executes, with the shell over the machine. -/
structure Boots (boot : Option String) (machine : Machine Shells) (image : Handle)
    (outcome : Outcome) (status : Status) (left : Machine Shells) : Prop where
  executes : dispatch (Shell.interpretWithin 0 (Shell.nestingBound machine.catalog)) 0 image
    machine = (.ok (.ok status), left)
  output : outcome.output = (left.world.get 0).sink.written.toList
  report : outcome.report = []
  exitCode : outcome.exitCode =
    if 0 ≤ status.toInt ∧ status.toInt ≤ 255 then status.toInt.toNat else 1
  succeeds : outcome.exitCode = 0 ↔
    ∀ other ∈ lineStatuses left.journal, other = Status.success
  /-- Unless commands are traced, a shell that is asked to boot the image does the same. -/
  asLine : (machine.world.get 0).traceCommands = false →
    (∀ name, boot = some name → ∀ character ∈ name.toList, Text.isBlank character = false) →
    ∃ after, Shell.runLine 0 (bootLine boot) machine = (.ok status, after) ∧
      (after.world.get 0).sink.written.toList = outcome.output

theorem boots_of_prepare {files : FileSystem} {settings : Settings} {images : List Image}
    {place : Nat} {image : Image} (prepared : prepare files settings = .ok (shelf images, place))
    (stands : (shelf images).image place = image) (script : image.format = some Script.format)
    (idle : image.executing = false) (readable : image.buffer.readable = none)
    (selects : Shell.bootTarget (shelf images) 0 settings.boot.toList = .ok place)
    (named : ∀ name, settings.boot = some name → name ≠ "") :
    ∃ status left, Boots settings.boot (shelfMachine settings.traceCommands images) place
      (boot files settings) status left := by
  let machine := shelfMachine settings.traceCommands images
  have same : machine.catalog.image place = image := stands
  have tagged : (machine.catalog.image place).format = some Script.format := same ▸ script
  obtain ⟨status, left, executed⟩ := Shell.dispatch_returns 0 0 tagged
  have booted : boot files settings =
      { exitCode := exitCode status, output := (left.world.get 0).sink.written.toList } := by
    have whole : execute settings.traceCommands (shelf images) place = _ := executed
    simp only [boot, prepared, whole]
  refine ⟨status, left, executed, ?_, ?_, ?_, ?_, ?_⟩
  · rw [booted]
  · rw [booted]
  · rw [booted, exitCode]
  · rw [booted, exitCode_eq_zero_iff]
    exact Shell.dispatch_succeeds_iff rfl rfl tagged (same ▸ idle) (same ▸ readable) executed
  · intro untraced whole
    have command := ofLine?_bootLine fun name given => ⟨named name given, whole name given⟩
    obtain ⟨after, ran, world⟩ :=
      Shell.runLine_of_dispatch rfl untraced command selects executed
    refine ⟨after, ran, ?_⟩
    rw [booted, world]

section Booting

variable {files : FileSystem} {settings : Settings}
  (readable : ∀ path ∈ settings.images, ∃ contents, files.read path = .ok contents)

include readable

theorem boots_of_wanted {before after : List String} {path : String} {image : Image}
    (split : settings.images = before ++ path :: after) (whole : "" ∉ settings.images)
    (script : Loader.script? files path = some image) (wanted : Wanted settings.boot image)
    (skipped : ∀ other ∈ before.filterMap (Loader.script? files), ¬Wanted settings.boot other) :
    ∃ status left, Boots settings.boot
      (shelfMachine settings.traceCommands (settings.images.filterMap (Loader.script? files)))
      (before.filterMap (Loader.script? files)).length (boot files settings) status left := by
  have scripts : settings.images.filterMap (Loader.script? files) =
      before.filterMap (Loader.script? files) ++
        image :: after.filterMap (Loader.script? files) := by
    rw [split, List.filterMap_append, List.filterMap_cons_some script]
  have tagged : ∀ other ∈ before.filterMap (Loader.script? files) ++
      image :: after.filterMap (Loader.script? files), other.format.isSome := by
    intro other member
    rw [← scripts] at member
    obtain ⟨path, -, script⟩ := List.mem_filterMap.mp member
    rw [(Loader.format_of_script? script).1]
    rfl
  obtain ⟨selected, selects⟩ := selectImage_of_wanted tagged wanted skipped
  have prepared := prepare_of_readable readable (by rw [scripts]; simp)
  dsimp only at prepared
  rw [scripts, selected] at prepared
  have stands : (shelf (before.filterMap (Loader.script? files) ++
      image :: after.filterMap (Loader.script? files))).image
        (before.filterMap (Loader.script? files)).length = { image with registered := true } := by
    rw [image_shelf, List.getElem?_append_right (Nat.le_refl _), Nat.sub_self]
    rfl
  obtain ⟨isScript, idle, copied⟩ := Loader.format_of_script? script
  have given : path ≠ "" := by
    rintro rfl
    exact whole (by simp [split])
  rw [scripts]
  refine boots_of_prepare prepared stands isScript idle copied selects ?_
  rintro name same rfl
  exact Loader.name_of_script?_ne_empty given script (wanted _ same)

theorem boot_of_absent {name : String}
    (some : settings.images.filterMap (Loader.script? files) ≠ [])
    (asked : settings.boot = .some name)
    (absent : ∀ image ∈ settings.images.filterMap (Loader.script? files), image.name ≠ name) :
    boot files settings = failed ["No such image: " ++ name] := by
  have prepared := prepare_of_readable readable some
  dsimp only at prepared
  rw [asked, selectImage_of_absent absent] at prepared
  rw [boot, prepared]
  rfl

end Booting

/-- Given readable files of which one is a script at least, the host boots the first script
of the name that it was given, or the first of all, and reports a name that no script has. -/
theorem invoke_boots_first {files : FileSystem} {arguments paths : List String}
    {boot : Option String} {trace : Bool}
    (asks : Arguments.read arguments =
      .ok (.run { given := { images := paths, boot, traceCommands := trace } }))
    (readable : ∀ path ∈ paths, ∃ contents, files.read path = .ok contents)
    (some : ∃ path ∈ paths, ∃ image, Loader.script? files path = some image) :
    let scripts := paths.filterMap (Loader.script? files)
    let machine := shelfMachine trace scripts
    machine.catalog.listed 0 = List.range scripts.length ∧
      (∀ place image, scripts[place]? = .some image →
        machine.catalog.image place = { image with registered := true }) ∧
      ((∃ name, boot = .some name ∧ (∀ image ∈ scripts, image.name ≠ name) ∧
          invoke files arguments = failed ["No such image: " ++ name]) ∨
        ∃ before path after image, paths = before ++ path :: after ∧
          Loader.script? files path = .some image ∧ Wanted boot image ∧
          (∀ other ∈ before.filterMap (Loader.script? files), ¬Wanted boot other) ∧
          scripts[(before.filterMap (Loader.script? files)).length]? = .some image ∧
          ∃ status left, Boots boot machine (before.filterMap (Loader.script? files)).length
            (invoke files arguments) status left) := by
  intro scripts machine
  let settings : Settings := { images := paths, boot, traceCommands := trace }
  have run : invoke files arguments = Host.boot files settings := by
    simp only [invoke, asks, perform, Host.run, configured, overlay_default, settings]
  refine ⟨listed_shelf scripts, ?_, ?_⟩
  · intro place image found
    have stands := image_shelf scripts place
    rwa [found] at stands
  rw [run]
  have readable : ∀ path ∈ settings.images, ∃ contents, files.read path = .ok contents := readable
  by_cases found : ∃ path ∈ paths, ∃ image,
      Loader.script? files path = .some image ∧ Wanted boot image
  · obtain ⟨before, path, after, image, split, script, wanted, skipped⟩ :=
      exists_first_wanted found
    have place : scripts[(before.filterMap (Loader.script? files)).length]? = .some image := by
      simp only [scripts, split, List.filterMap_append, List.filterMap_cons_some script]
      rw [List.getElem?_append_right (Nat.le_refl _), Nat.sub_self, List.getElem?_cons_zero]
    exact .inr ⟨before, path, after, image, split, script, wanted, skipped, place,
      boots_of_wanted readable split (Arguments.empty_notMem_images asks) script wanted skipped⟩
  · obtain ⟨path, member, image, script⟩ := some
    have loaded : scripts ≠ [] :=
      List.ne_nil_of_mem (List.mem_filterMap.mpr ⟨path, member, script⟩)
    cases boot with
    | none => exact absurd ⟨path, member, image, script, nofun⟩ found
    | some name =>
        have absent : ∀ image ∈ scripts, image.name ≠ name := by
          intro image member same
          obtain ⟨path, inside, script⟩ := List.mem_filterMap.mp member
          exact found ⟨path, inside, image, script,
            fun _ asked => same.trans (Option.some.inj asked)⟩
        exact .inl ⟨name, rfl, absent, boot_of_absent readable loaded rfl absent⟩

/-- Of two scripts of one name the first is booted, and its status fits no exit code. -/
theorem invoke_boots_first_named :
    let exits : Contents := ⟨#[35, 33, 115, 99, 114, 105, 112, 116, 10,
      101, 120, 105, 116, 32, 50, 53, 54], by decide⟩
    let files : FileSystem :=
      { read := fun path => if path = "notes" then .ok default else .ok exits }
    let arguments := ["run", "notes", "here/a", "there/a", "--boot", "a"]
    let scripts := ["notes", "here/a", "there/a"].filterMap (Loader.script? files)
    (∃ place status left, Boots (some "a") (shelfMachine false scripts) place
      (invoke files arguments) status left) ∧ (invoke files arguments).exitCode = 1 := by
  intro exits files arguments scripts
  have asks : Arguments.read arguments = .ok (.run { given :=
      { images := ["notes", "here/a", "there/a"], boot := some "a" } }) := by
    decide +kernel
  have code : (invoke files arguments).exitCode = 1 := by decide +kernel
  have readable : ∀ path ∈ ["notes", "here/a", "there/a"],
      ∃ contents, files.read path = .ok contents := by
    intro path _
    by_cases notes : path = "notes" <;> simp [files, notes]
  have named : ((Loader.script? files "here/a").map Image.name) = some "a" := by decide +kernel
  cases script : Loader.script? files "here/a" with
  | none => simp [script] at named
  | some image =>
      have name : image.name = "a" := by simpa [script] using named
      obtain ⟨-, -, absent | boots⟩ := invoke_boots_first asks readable
        ⟨"here/a", by simp, image, script⟩
      · obtain ⟨other, asked, absent, -⟩ := absent
        obtain rfl := Option.some.inj asked
        have member : image ∈ scripts := List.mem_filterMap.mpr ⟨"here/a", by simp, script⟩
        exact absurd name (absent image member)
      · obtain ⟨before, path, after, image, -, -, -, -, -, status, left, boots⟩ := boots
        exact ⟨⟨_, status, left, boots⟩, code⟩

end BootScript.Host
