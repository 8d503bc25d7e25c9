import BootScript.Proofs.ScriptsOnly
import BootScript.Proofs.Selection

/-!
# What the host reports

All that the host reports it finds out before it boots an image: its settings are no good, a
file cannot be read, or none of the scripts is the one to boot.  From then on its registry
lists scripts alone, and whatever the shell fails at ends up in the exit code.
-/

namespace BootScript.Host

/-! ## Before an image is booted -/

/-- What keeps the host from booting an image, and what it reports. -/
inductive Setback (files : FileSystem) (request : Arguments.RunRequest) : Report → Prop
  | config {path : String} {report : Report} (given : request.config = some path)
      (fails : Settings.load files path = .error report) : Setback files request report
  | noImages {settings : Settings} (based : configured files request.config = .ok settings)
      (none : (settings.overlay request.given).images = []) :
      Setback files request ["No images given: pass image files or a config file listing them"]
  | unreadable {settings : Settings} {path : String} {failure : ReadError}
      (based : configured files request.config = .ok settings)
      (listed : path ∈ (settings.overlay request.given).images)
      (fails : files.read path = .error failure) :
      Setback files request ["Failed to read image: " ++ path, failure.message]
  | noScripts {settings : Settings} (based : configured files request.config = .ok settings)
      (none : ∀ path ∈ (settings.overlay request.given).images, Loader.script? files path = none) :
      Setback files request ["None of the given images is in a recognised format"]
  | noSuchImage {settings : Settings} {name : String}
      (based : configured files request.config = .ok settings)
      (asked : (settings.overlay request.given).boot = some name)
      (absent : ∀ path ∈ (settings.overlay request.given).images, ∀ image,
        Loader.script? files path = some image → image.name ≠ name) :
      Setback files request ["No such image: " ++ name]

theorem append_ne_of_not_prefix {start text : String} (apart : ¬start.toList <+: text.toList)
    (rest : String) : start ++ rest ≠ text := by
  rintro rfl
  exact apart ⟨rest.toList, String.toList_append.symm⟩

/-- There is always something to report, and it is never that no image could be booted. -/
theorem Setback.report_ne {files : FileSystem} {request : Arguments.RunRequest} {report : Report}
    (setback : Setback files request report) :
    report ≠ [] ∧ report ≠ ["No executable image loaded"] := by
  cases setback with
  | @config path report given fails =>
      have invalid : "Invalid config file: " ++ path ≠ "No executable image loaded" :=
        append_ne_of_not_prefix (by decide +kernel) path
      unfold Settings.load Settings.loadBy at fails
      dsimp only at fails
      split at fails
      · cases fails; simp
      · split at fails
        · cases fails; simp
        · split at fails
          · cases fails
            simp [invalid]
          · cases fails
  | noImages => decide +kernel
  | unreadable => simp
  | noScripts => decide +kernel
  | @noSuchImage settings name =>
      have missing : "No such image: " ++ name ≠ "No executable image loaded" :=
        append_ne_of_not_prefix (by decide +kernel) name
      simpa using missing

/-! ## What is booted -/

theorem stocked_shelf {images : List Image}
    (scripts : ∀ image ∈ images, image.format = some Script.format ∧ image.executing = false) :
    (shelf images).Stocked 0 := by
  have each (place : Handle) (listed : place ∈ (shelf images).listed 0) :
      ((shelf images).image place).format = some Script.format ∧
        ((shelf images).image place).executing = false := by
    rw [listed_shelf, List.mem_range] at listed
    rw [image_shelf_of_lt images listed]
    exact scripts images[place] (List.getElem_mem listed)
  refine ⟨⟨unpinned_shelf images, fun place listed => (each place listed).1⟩, ?_,
    fun place listed => (each place listed).2⟩
  rw [listed_shelf]
  exact List.nodup_range

/-- Of scripts one is selected, unless none of them has the name that is asked for. -/
theorem selectImage_shelf {images : List Image} (some : images ≠ [])
    (tagged : ∀ image ∈ images, image.format.isSome) (boot : Option String) :
    (∃ place ∈ (shelf images).listed 0, selectImage (shelf images) boot = .ok place) ∨
      ∃ name, boot = .some name ∧ (∀ image ∈ images, image.name ≠ name) ∧
        selectImage (shelf images) boot = .error ["No such image: " ++ name] := by
  classical
  cases found : images.find? fun image => decide (Wanted boot image) with
  | some image =>
      obtain ⟨wanted, before, after, rfl, skipped⟩ := List.find?_eq_some_iff_append.mp found
      obtain ⟨selected, -⟩ := selectImage_of_wanted tagged (of_decide_eq_true wanted)
        fun other member => by simpa using skipped other member
      refine .inl ⟨before.length, ?_, selected⟩
      rw [listed_shelf, List.mem_range, List.length_append, List.length_cons]
      omega
  | none =>
      have unwanted (image : Image) (member : image ∈ images) : ¬Wanted boot image := by
        simpa using List.find?_eq_none.mp found image member
      cases boot with
      | none =>
          obtain ⟨image, member⟩ := List.exists_mem_of_ne_nil images some
          exact absurd nofun (unwanted image member)
      | some name =>
          have absent (image : Image) (member : image ∈ images) : image.name ≠ name := fun same =>
            unwanted image member fun _ asked => same.trans (Option.some.inj asked)
          exact .inr ⟨name, rfl, absent, selectImage_of_absent absent⟩

/-- Loading ends in a catalog of scripts and a place in it, or in a setback. -/
theorem prepare_outcome {files : FileSystem} {request : Arguments.RunRequest} {settings : Settings}
    (based : configured files request.config = .ok settings) :
    (∃ report, Setback files request report ∧
        prepare files (settings.overlay request.given) = .error report) ∨
      ∃ images place, (shelf images).Stocked 0 ∧ place ∈ (shelf images).listed 0 ∧
        prepare files (settings.overlay request.given) = .ok (shelf images, place) := by
  by_cases none : (settings.overlay request.given).images = []
  · exact .inl ⟨_, .noImages based none, if_pos none⟩
  rw [prepare, if_neg none, load_emptyCatalog]
  rcases Loader.sift_builtIn files (settings.overlay request.given).images with
    ⟨-, all⟩ | ⟨before, path, failure, inside, fails, stopped⟩
  · rw [all]
    dsimp only [Option.elim_none]
    generalize scripts : (settings.overlay request.given).images.filterMap (Loader.script? files) =
      images
    have isScript (image : Image) (member : image ∈ images) :
        image.format = some Script.format ∧ image.executing = false := by
      rw [← scripts] at member
      obtain ⟨path, -, script⟩ := List.mem_filterMap.mp member
      obtain ⟨format, idle, -⟩ := Loader.format_of_script? script
      exact ⟨format, idle⟩
    cases images with
    | nil => exact .inl ⟨_, .noScripts based (List.filterMap_eq_nil_iff.mp scripts), rfl⟩
    | cons first rest =>
        have tagged (image : Image) (member : image ∈ first :: rest) : image.format.isSome := by
          rw [(isScript image member).1]
          rfl
        rcases selectImage_shelf (List.cons_ne_nil first rest) tagged
            (settings.overlay request.given).boot with
          ⟨place, listed, selected⟩ | ⟨name, asked, absent, refused⟩
        · refine .inr ⟨_, place, stocked_shelf isScript, listed, ?_⟩
          simp only [List.length_cons, selected]
          rfl
        · refine .inl ⟨_, .noSuchImage based asked ?_, ?_⟩
          · intro path member image script
            refine absent image ?_
            rw [← scripts]
            exact List.mem_filterMap.mpr ⟨path, member, script⟩
          · simp only [List.length_cons, refused]
            rfl
  · have listed : path ∈ (settings.overlay request.given).images :=
      inside.subset (List.mem_append_right _ (List.mem_singleton_self path))
    rw [stopped]
    exact .inl ⟨_, .unreadable based listed fails, rfl⟩

/-- Whatever the files and the settings, the host reports a setback and executes nothing, or
it executes one image and reports nothing.  Then its registry lists scripts alone all along,
no run is refused, no image is put back in vain, and nothing that the shell complains of
comes from the image layer. -/
theorem invoke_reports_setbacks {files : FileSystem} {arguments : List String}
    {request : Arguments.RunRequest} (asks : Arguments.read arguments = .ok (.run request)) :
    (∃ report, Setback files request report ∧ report ≠ [] ∧
        report ≠ ["No executable image loaded"] ∧
        invoke files arguments = { exitCode := 1, output := [], report } ∧
        ∀ settings, configured files request.config = .ok settings →
          prepare files (settings.overlay request.given) = .error report) ∨
      ∃ settings images image status left,
        configured files request.config = .ok settings ∧
        prepare files (settings.overlay request.given) = .ok (shelf images, image) ∧
        execute (settings.overlay request.given).traceCommands (shelf images) image =
          (.ok (.ok status), left) ∧
        invoke files arguments =
          { exitCode := exitCode status, output := transcript 0 left.journal, report := [] } ∧
        Shell.RanScripts 0 0
          (shelfMachine (settings.overlay request.given).traceCommands images) image left := by
  have run : invoke files arguments = Host.run files request := by
    simp only [invoke, asks, perform]
  rw [run, Host.run]
  cases based : configured files request.config with
  | error report =>
      have setback : Setback files request report := by
        unfold configured at based
        cases given : request.config with
        | none => simp [given] at based
        | some path =>
            rw [given] at based
            exact .config given based
      exact .inl ⟨report, setback, setback.report_ne.1, setback.report_ne.2, rfl, nofun⟩
  | ok settings =>
      rcases prepare_outcome based with
        ⟨report, setback, refused⟩ | ⟨images, image, stocked, listed, prepared⟩
      · refine .inl ⟨report, setback, setback.report_ne.1, setback.report_ne.2, ?_, ?_⟩
        · simp only [boot, refused]
          rfl
        · rintro _ ⟨⟩
          exact refused
      · have unbounded : Shell.Unbounded 0 0
            (shelfMachine (settings.overlay request.given).traceCommands images) := ⟨rfl, rfl⟩
        obtain ⟨status, left, executed, recorded, ran⟩ :=
          Shell.ranScripts_of_dispatch unbounded rfl stocked listed
        have whole : execute (settings.overlay request.given).traceCommands (shelf images) image =
            (.ok (.ok status), left) := executed
        refine .inr ⟨settings, images, image, status, left, rfl, prepared, whole, ?_, ran⟩
        have written : (left.world.get 0).sink.written.toList = transcript 0 left.journal :=
          recorded.written.trans (List.nil_append _)
        simp only [boot, prepared, whole, written]

/-- A script that lists the images does not find itself. -/
theorem invoke_reports_setbacks_listing :
    let lists : Contents := ⟨#[35, 33, 115, 99, 114, 105, 112, 116, 10,
      105, 109, 103, 115, 116, 97, 116], by decide⟩
    let files : FileSystem := { read := fun _ => .ok lists }
    let arguments := ["run", "menu", "tool"]
    (∃ images image status left, execute false (shelf images) image = (.ok (.ok status), left) ∧
      Shell.RanScripts 0 0 (shelfMachine false images) image left) ∧
    (invoke files arguments).output = Text.encode "tool: 16 bytes [script]\n" := by
  intro lists files arguments
  have asks : Arguments.read arguments =
      .ok (.run { given := { images := ["menu", "tool"] } }) := by
    decide +kernel
  have output : (invoke files arguments).output = Text.encode "tool: 16 bytes [script]\n" := by
    decide +kernel
  have reported : (invoke files arguments).report = [] := by decide +kernel
  refine ⟨?_, output⟩
  rcases invoke_reports_setbacks asks with
    ⟨report, -, some, -, failed, -⟩ |
      ⟨settings, images, image, status, left, based, -, ran, -, scripts⟩
  · rw [failed] at reported
    exact absurd reported some
  · obtain rfl : {} = settings := Except.ok.inj based
    exact ⟨images, image, status, left, ran, scripts⟩

end BootScript.Host
