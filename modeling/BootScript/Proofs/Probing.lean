import BootScript.Proofs.HostRun

/-!
# Probing and running one file

A file can be probed, or it can be run with no other file beside it.  The two go different
ways, and yet they agree: a file is called a script if and only if it is booted when it is
run, and it is called unknown if and only if the run finds nothing that it recognises.  A file
that cannot be read is reported in the same words.
-/

namespace BootScript.Host

/-- The request to run one file and nothing else. -/
def runAlone (path : String) : Arguments.Request :=
  .run { given := { images := [path] } }

/-- The file is booted when it is run alone: an image of its name and contents is the only one
to be registered, and the outcome is that of executing it. -/
inductive BootsAlone (files : FileSystem) (path : String) (outcome : Outcome) : Prop
  | executed {image : Image} {status : Status} {left : Machine Shells}
      (fetches : Loader.fetch files path = .ok { image with format := none })
      (prepared : prepare files { images := [path] } = .ok (shelf [image], 0))
      (boots : Boots none (shelfMachine false [image]) 0 outcome status left) :
      BootsAlone files path outcome

theorem BootsAlone.report_eq {files : FileSystem} {path : String} {outcome : Outcome}
    (boots : BootsAlone files path outcome) : outcome.report = [] := by
  obtain ⟨-, -, boots⟩ := boots
  exact boots.report

theorem not_bootsAlone_failed {files : FileSystem} {path cause : String} {causes : Report} :
    ¬BootsAlone files path (failed (cause :: causes)) :=
  fun boots => List.cons_ne_nil cause causes boots.report_eq

/-- What probing a file and running it alone come to. -/
inductive Finding (files : FileSystem) (path : String) : Outcome → Outcome → Prop
  | script {contents : Contents} {ran : Outcome} (read : files.read path = .ok contents)
      (signed : Script.signature <+: contents.bytes.toList) (boots : BootsAlone files path ran) :
      Finding files path
        { exitCode := 0
          output := Text.encode ((Path.fileName? path).getD path ++ ": script\n") } ran
  | unknown {contents : Contents} (read : files.read path = .ok contents)
      (unsigned : ¬Script.signature <+: contents.bytes.toList) :
      Finding files path
        { exitCode := 1
          output := Text.encode ((Path.fileName? path).getD path ++ ": unknown\n") }
        (failed ["None of the given images is in a recognised format"])
  | unreadable {failure : ReadError} (read : files.read path = .error failure) :
      Finding files path (failed ["Failed to read image: " ++ path, failure.message])
        (failed ["Failed to read image: " ++ path, failure.message])

section OneFile

variable {files : FileSystem} {path : String}

/-! ## Probing -/

theorem probe_of_read {contents : Contents} (read : files.read path = .ok contents) :
    probe files path =
      let name := (Path.fileName? path).getD path
      if Script.signature <+: contents.bytes.toList then
        { exitCode := 0, output := Text.encode (name ++ ": script\n") }
      else { exitCode := 1, output := Text.encode (name ++ ": unknown\n") } := by
  have line (name : String) :
      name ++ ": " ++ Script.format.name ++ "\n" = name ++ ": script\n" := by
    rw [String.append_assoc, String.append_assoc]
    exact congrArg (name ++ ·) (by decide)
  rw [probe, Loader.fetch, read]
  dsimp only
  rw [Loader.classify_builtIn rfl]
  dsimp only
  by_cases signed : Script.signature <+: contents.bytes.toList
  · rw [if_pos (Loader.startsWith_signature_iff.mpr signed), if_pos signed]
    dsimp only
    rw [line]
  · rw [if_neg (mt Loader.startsWith_signature_iff.mp signed), if_neg signed]

/-! ## Running -/

theorem perform_runAlone (files : FileSystem) (path : String) :
    perform files (runAlone path) = boot files { images := [path] } := by
  simp only [perform, runAlone, run, configured, overlay_default]

theorem boot_of_script {contents : Contents} (read : files.read path = .ok contents)
    (signed : Script.signature <+: contents.bytes.toList) :
    BootsAlone files path (boot files { images := [path] }) := by
  let image : Image :=
    { name := (Path.fileName? path).getD path
      buffer := { contents }
      format := some Script.format }
  have script : Loader.script? files path = some image :=
    Loader.script?_eq_some_iff.mpr ⟨contents, read, signed, rfl⟩
  have only : [path].filterMap (Loader.script? files) = [image] := by
    rw [List.filterMap_cons_some script, List.filterMap_nil]
  have readable : ∀ other ∈ [path], ∃ contents, files.read other = .ok contents := by
    intro other member
    rw [List.mem_singleton.mp member]
    exact ⟨contents, read⟩
  have tagged : ∀ other ∈ [] ++ image :: [], other.format.isSome := by
    intro other member
    rw [List.mem_singleton.mp member]
    rfl
  obtain ⟨selected, selects⟩ := @selectImage_of_wanted none image [] [] tagged nofun nofun
  have prepared : prepare files { images := [path] } = .ok (shelf [image], 0) := by
    rw [prepare_of_readable readable (by rw [only]; exact List.cons_ne_nil _ _)]
    dsimp only
    rw [only]
    exact congrArg (Except.map _) selected
  have stands : (shelf [image]).image 0 = { image with registered := true } :=
    image_shelf_of_lt [image] Nat.zero_lt_one
  obtain ⟨status, left, boots⟩ := boots_of_prepare prepared stands rfl rfl rfl selects nofun
  refine .executed ?_ prepared boots
  rw [Loader.fetch, read]

theorem boot_of_unknown {contents : Contents} (read : files.read path = .ok contents)
    (unsigned : ¬Script.signature <+: contents.bytes.toList) :
    boot files { images := [path] } =
      failed ["None of the given images is in a recognised format"] := by
  have passed : Loader.script? files path = none := by
    rw [Loader.script?, read]
    exact if_neg unsigned
  have nothing : prepare files { images := [path] } =
      .error ["None of the given images is in a recognised format"] := by
    rw [prepare, if_neg (List.cons_ne_nil _ _), load_emptyCatalog, Loader.sift,
      Loader.fetchClassified_builtIn, read, passed]
    rfl
  rw [boot, nothing]

theorem boot_of_unreadable {failure : ReadError} (read : files.read path = .error failure) :
    boot files { images := [path] } =
      failed ["Failed to read image: " ++ path, failure.message] := by
  have stopped : prepare files { images := [path] } =
      .error ["Failed to read image: " ++ path, failure.message] := by
    rw [prepare, if_neg (List.cons_ne_nil _ _), load_emptyCatalog, Loader.sift,
      Loader.fetchClassified_builtIn, read]
    rfl
  rw [boot, stopped]

/-! ## Both -/

theorem finding (files : FileSystem) (path : String) :
    Finding files path (perform files (.probe path)) (perform files (runAlone path)) := by
  have probed : perform files (.probe path) = probe files path := rfl
  rw [probed, perform_runAlone]
  cases read : files.read path with
  | error failure =>
      rw [boot_of_unreadable read, probe, Loader.fetch, read]
      exact .unreadable read
  | ok contents =>
      rw [probe_of_read read]
      dsimp only
      by_cases signed : Script.signature <+: contents.bytes.toList
      · rw [if_pos signed]
        exact .script read signed (boot_of_script read signed)
      · rw [if_neg signed, boot_of_unknown read signed]
        exact .unknown read signed

namespace Finding

variable {probed ran : Outcome}

theorem script_iff (finding : Finding files path probed ran) :
    probed =
        { exitCode := 0
          output := Text.encode ((Path.fileName? path).getD path ++ ": script\n") } ↔
      BootsAlone files path ran := by
  cases finding with
  | script _ _ boots => exact iff_of_true rfl boots
  | unknown _ _ => exact iff_of_false (by simp) not_bootsAlone_failed
  | unreadable _ => exact iff_of_false (by simp [failed]) not_bootsAlone_failed

theorem boots_iff (finding : Finding files path probed ran) :
    BootsAlone files path ran ↔
      ∃ contents, files.read path = .ok contents ∧
        Script.signature <+: contents.bytes.toList := by
  cases finding with
  | script read signed boots => exact iff_of_true boots ⟨_, read, signed⟩
  | unknown read unsigned =>
      refine iff_of_false not_bootsAlone_failed ?_
      rintro ⟨contents, again, signed⟩
      obtain rfl := Except.ok.inj (read.symm.trans again)
      exact unsigned signed
  | unreadable read =>
      refine iff_of_false not_bootsAlone_failed ?_
      rintro ⟨contents, again, -⟩
      exact absurd (read.symm.trans again) nofun

theorem unknown_iff (finding : Finding files path probed ran) :
    probed =
        { exitCode := 1
          output := Text.encode ((Path.fileName? path).getD path ++ ": unknown\n") } ↔
      ran.report = ["None of the given images is in a recognised format"] := by
  cases finding with
  | script _ _ boots =>
      refine iff_of_false (by simp) fun reports => ?_
      rw [boots.report_eq] at reports
      exact absurd reports (List.cons_ne_nil _ _).symm
  | unknown _ _ => exact iff_of_true rfl rfl
  | unreadable _ => exact iff_of_false (by simp [failed]) (by simp [failed])

theorem of_unreadable {failure : ReadError} (finding : Finding files path probed ran)
    (unreadable : files.read path = .error failure) :
    let report := ["Failed to read image: " ++ path, failure.message]
    probed = failed report ∧ ran = failed report := by
  cases finding with
  | script read _ _ => exact absurd (read.symm.trans unreadable) nofun
  | unknown read _ => exact absurd (read.symm.trans unreadable) nofun
  | unreadable read =>
      obtain rfl := Except.error.inj (read.symm.trans unreadable)
      exact ⟨rfl, rfl⟩

end Finding

end OneFile

/-! ## On a command line -/

theorem asks_of_ne_empty {path : String} (some : path ≠ "") :
    Arguments.read ["probe", "--", path] = .ok (.probe path) ∧
      Arguments.read ["run", "--", path] = .ok (runAlone path) := by
  have probe : Arguments.Token.ofArgument "probe" = .word "probe" := by decide
  have run : Arguments.Token.ofArgument "run" = .word "run" := by decide
  have dashes : Arguments.Token.ofArgument "--" = .terminator := by decide
  have taken (limit : Option Nat) (room : limit ≠ Option.some 0) :
      Arguments.Reading.addWord limit {} path = .ok { words := [path] } := by
    rw [Arguments.Reading.addWord]
    exact if_neg (not_or.mpr ⟨some, room⟩)
  constructor
  · simp only [Arguments.read, Arguments.readTop, probe, Arguments.readProbe,
      Arguments.Reading.readAll, dashes, List.foldlM_cons, List.foldlM_nil,
      taken (.some 1) (by decide)]
    rfl
  · simp only [Arguments.read, Arguments.readTop, run, Arguments.readRun,
      Arguments.Reading.readAll, dashes, List.foldlM_cons, List.foldlM_nil, taken none (by decide)]
    rfl

/-- A file is called a script by the probe if and only if it is booted when it is run alone,
and that is so if and only if it can be read and starts with the signature.  It is called
unknown if and only if the run finds nothing in a recognised format.  If it cannot be read,
both report the same and write nothing. -/
theorem perform_probe_agrees (files : FileSystem) (path : String) :
    let name := (Path.fileName? path).getD path
    let probed := perform files (.probe path)
    let ran := perform files (runAlone path)
    (probed = { exitCode := 0, output := Text.encode (name ++ ": script\n") } ↔
        BootsAlone files path ran) ∧
      (BootsAlone files path ran ↔
        ∃ contents, files.read path = .ok contents ∧
          Script.signature <+: contents.bytes.toList) ∧
      (probed = { exitCode := 1, output := Text.encode (name ++ ": unknown\n") } ↔
        ran.report = ["None of the given images is in a recognised format"]) ∧
      (∀ failure, files.read path = .error failure →
        let report := ["Failed to read image: " ++ path, failure.message]
        probed = { exitCode := 1, output := [], report } ∧
          ran = { exitCode := 1, output := [], report }) ∧
      -- Any path but the empty one can be given on a command line.
      (path ≠ "" → ∃ probing running, Arguments.read probing = .ok (.probe path) ∧
        Arguments.read running = .ok (runAlone path)) ∧
      ∀ arguments,
        (Arguments.read arguments = .ok (.probe path) → invoke files arguments = probed) ∧
          (Arguments.read arguments = .ok (runAlone path) → invoke files arguments = ran) := by
  intro name probed ran
  have agree : Finding files path probed ran := finding files path
  refine ⟨agree.script_iff, agree.boots_iff, agree.unknown_iff,
    fun failure unreadable => agree.of_unreadable unreadable,
    fun some => ⟨_, _, asks_of_ne_empty some⟩, fun arguments => ⟨fun asks => ?_, fun asks => ?_⟩⟩
  · rw [invoke, asks]
  · rw [invoke, asks]

/-- The signature alone makes a script that is booted.  Without its last byte it is called
unknown, and the run finds nothing that it recognises. -/
theorem perform_probe_agrees_short :
    let signature : Contents := ⟨Script.signature.toArray, by decide⟩
    let short : Contents := ⟨Script.signature.dropLast.toArray, by decide⟩
    let files : FileSystem :=
      { read := fun path =>
          if path = "boot/menu" then .ok signature
          else if path = "boot/short" then .ok short
          else .error .notFound }
    BootsAlone files "boot/menu" (invoke files ["run", "boot/menu"]) ∧
      invoke files ["probe", "boot/short"] =
        { exitCode := 1, output := Text.encode "short: unknown\n" } ∧
      (invoke files ["run", "boot/short"]).report =
        ["None of the given images is in a recognised format"] ∧
      invoke files ["run", "gone"] = invoke files ["probe", "gone"] := by
  intro signature short files
  obtain ⟨-, boots, -, -, -, menu⟩ := perform_probe_agrees files "boot/menu"
  obtain ⟨-, -, unknown, -, -, shorter⟩ := perform_probe_agrees files "boot/short"
  obtain ⟨-, -, -, unreadable, -, gone⟩ := perform_probe_agrees files "gone"
  have probed : perform files (.probe "boot/short") =
      { exitCode := 1, output := Text.encode "short: unknown\n" } := by
    decide +kernel
  obtain ⟨one, other⟩ := unreadable .notFound rfl
  refine ⟨?_, ?_, ?_, ?_⟩
  · rw [(menu ["run", "boot/menu"]).2 (by decide +kernel)]
    exact boots.mpr ⟨signature, rfl, List.prefix_refl _⟩
  · rw [(shorter ["probe", "boot/short"]).1 (by decide +kernel), probed]
  · rw [(shorter ["run", "boot/short"]).2 (by decide +kernel)]
    exact unknown.mp probed
  · rw [(gone ["run", "gone"]).2 (by decide +kernel),
      (gone ["probe", "gone"]).1 (by decide +kernel)]
    exact other.trans one.symm

end BootScript.Host
