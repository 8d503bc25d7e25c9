import BootScript.Proofs.HostRun
import BootScript.Proofs.Paths

/-!
# Settings from a file

Settings that are read from a file count as much as given ones.  A request that names a
settings file comes to the same as the request that has its settings put before the given
ones, with the images that lie beside the file looked for there.  If there are no settings
to be had from the file, the request comes to the reason, whatever the other files hold.

How a text is read is left open: any reader of settings will do, and if it refuses a text its
reasons are reported.
-/

namespace BootScript

/-! ## Any reader of settings -/

namespace Settings

variable (reader : String → Except Report Settings) (files : FileSystem) (path : String)

/-- What a file has to offer: the settings as they are written in its text, or the report of
why there are none. -/
inductive Offers : Except Report Settings → Prop
  | settings {contents : Contents} {text : String} {settings : Settings}
      (read : files.read path = .ok contents)
      (decodes : Text.decode? contents.bytes.toList = some text)
      (reads : reader text = .ok settings) : Offers (.ok settings)
  | unreadable {failure : ReadError} (read : files.read path = .error failure) :
      Offers (.error ["Failed to read config file: " ++ path, failure.message])
  | undecodable {contents : Contents} (read : files.read path = .ok contents)
      (fails : Text.decode? contents.bytes.toList = none) :
      Offers (.error ["Failed to read config file: " ++ path,
        "stream did not contain valid UTF-8"])
  | invalid {contents : Contents} {text : String} {reasons : Report}
      (read : files.read path = .ok contents)
      (decodes : Text.decode? contents.bytes.toList = some text)
      (fails : reader text = .error reasons) :
      Offers (.error (("Invalid config file: " ++ path) :: reasons))

theorem exists_offers : ∃ offered, Offers reader files path offered := by
  cases read : files.read path with
  | error failure => exact ⟨_, .unreadable read⟩
  | ok contents =>
      cases decodes : Text.decode? contents.bytes.toList with
      | none => exact ⟨_, .undecodable read decodes⟩
      | some text =>
          cases reads : reader text with
          | error reasons => exact ⟨_, .invalid read decodes reads⟩
          | ok settings => exact ⟨_, .settings read decodes reads⟩

variable {reader files path}

theorem Offers.loadBy {offered : Except Report Settings} (offers : Offers reader files path offered) :
    loadBy reader files path = offered.map fun settings =>
      { settings with images := settings.images.map (Path.besideFile path) } := by
  cases offers with
  | settings read decodes reads => simp only [Settings.loadBy, read, decodes, reads]; rfl
  | unreadable read => simp only [Settings.loadBy, read]; rfl
  | undecodable read fails => simp only [Settings.loadBy, read, fails]; rfl
  | invalid read decodes fails => simp only [Settings.loadBy, read, decodes, fails]; rfl

theorem Offers.unique {first second : Except Report Settings}
    (one : Offers reader files path first) (other : Offers reader files path second) :
    first = second := by
  cases one <;> cases other <;> simp_all

/-- What a file has to offer depends on no other file. -/
theorem Offers.congr {offered : Except Report Settings} (offers : Offers reader files path offered)
    {others : FileSystem} (same : others.read path = files.read path) :
    Offers reader others path offered := by
  cases offers with
  | settings read decodes reads => exact .settings (same.trans read) decodes reads
  | unreadable read => exact .unreadable (same.trans read)
  | undecodable read fails => exact .undecodable (same.trans read) fails
  | invalid read decodes fails => exact .invalid (same.trans read) decodes fails

end Settings

namespace Host

/-! ## What a request comes to -/

/-- The status or the report that something ends with, unless it is cut short, and the bytes
that are written on the way. -/
abbrev Answer := Except Abort (Except Report Status) × Bytes

/-- What the host leaves behind of an answer. -/
def tell : Answer → Outcome
  | (.ok (.ok status), output) => { exitCode := exitCode status, output }
  | (.ok (.error report), output) => { exitCode := 1, output, report }
  | (.error _, output) => { exitCode := 1, output }

/-- What booting with settings comes to. -/
def bootAnswer (files : FileSystem) (settings : Settings) : Answer :=
  match prepare files settings with
  | .error report => (.ok (.error report), [])
  | .ok (catalog, image) =>
      let (outcome, machine) := execute settings.traceCommands catalog image
      (outcome.map (Except.mapError fun failure => [failure.message]),
        (machine.world.get 0).sink.written.toList)

theorem boot_eq_tell (files : FileSystem) (settings : Settings) :
    boot files settings = tell (bootAnswer files settings) := by
  rw [boot, bootAnswer]
  cases prepare files settings with
  | error report => rfl
  | ok prepared =>
      obtain ⟨catalog, image⟩ := prepared
      dsimp only
      obtain ⟨outcome, machine⟩ := execute settings.traceCommands catalog image
      rcases outcome with abort | failure | status <;> rfl

/-- What a request comes to if this reader reads the text of a settings file. -/
def answer (reader : String → Except Report Settings) (files : FileSystem)
    (request : Arguments.RunRequest) : Answer :=
  match request.config with
  | none => bootAnswer files (({} : Settings).overlay request.given)
  | some path =>
      match Settings.loadBy reader files path with
      | .error report => (.ok (.error report), [])
      | .ok settings => bootAnswer files (settings.overlay request.given)

theorem run_eq_tell (files : FileSystem) (request : Arguments.RunRequest) :
    run files request = tell (answer Settings.read files request) := by
  obtain ⟨config, given⟩ := request
  cases config with
  | none => exact boot_eq_tell files (({} : Settings).overlay given)
  | some path =>
      simp only [run, configured, answer, Settings.load]
      cases Settings.loadBy Settings.read files path with
      | error report => rfl
      | ok settings => exact boot_eq_tell files (settings.overlay given)

/-- A request with a settings file comes to the same as one without it that is given what the
file offers, or ends with the report of why it offers nothing.  The relative images of a file in
a directory lie in this directory, and those of a file without one stay as they are written. -/
theorem run_with_settings_file (reader : String → Except Report Settings) (files : FileSystem)
    (path : String) (given : Settings) :
    let request : Arguments.RunRequest := { config := some path, given }
    let beside (image : String) : String :=
      if Path.isRelative image then (Path.parent? path).elim image (Path.join · image) else image
    (∀ asked, run files asked = tell (answer Settings.read files asked)) ∧
      (∃ offered, Settings.Offers reader files path offered ∧
        match offered with
        | .ok settings =>
            answer reader files request = answer reader files
              { given :=
                { images := settings.images.map beside ++ given.images
                  boot := given.boot <|> settings.boot
                  traceCommands := given.traceCommands || settings.traceCommands } }
        | .error report =>
            -- No other file is read, as none of them makes a difference.
            ∀ others : FileSystem, others.read path = files.read path →
              answer reader others request = (.ok (.error report), [])) ∧
      (∀ directory name image, path = directory ++ "/" ++ name → Path.Solid directory.toList →
        Path.IsName name.toList → Path.isRelative image = true →
          beside image = directory ++ "/" ++ image) ∧
      (Path.IsName path.toList → ∀ image, beside image = image) := by
  intro request beside
  have follows (image : String) : Path.besideFile path image = beside image :=
    Path.besideFile_eq path image
  refine ⟨run_eq_tell files, ?_, ?_, ?_⟩
  · obtain ⟨offered, offers⟩ := Settings.exists_offers reader files path
    refine ⟨offered, offers, ?_⟩
    cases offered with
    | error report =>
        intro others same
        simp only [answer, request, (offers.congr same).loadBy, Except.map]
    | ok settings =>
        simp only [answer, request, offers.loadBy, Except.map, overlay_default]
        rw [Settings.overlay, Bool.or_comm, funext follows]
  · rintro directory name image rfl solid named relative
    exact (follows image).symm.trans (Path.besideFile_of_child solid named relative)
  · intro named image
    exact (follows image).symm.trans (Path.besideFile_of_isName named image)

/-- The settings of a file in a directory name an image in this directory, another one by an
absolute path, and the image to boot.  Where there is no file nothing is booted. -/
theorem run_with_settings_file_in_directory :
    let text := "images = [\"menu\", \"/srv/menu\"]\nboot = \"menu\""
    let files : FileSystem :=
      { read := fun path =>
          if path = "conf/boot.toml" then .ok ⟨(Text.encode text).toArray, by decide +kernel⟩
          else .error .notFound }
    let given : Settings := { images := ["more"], traceCommands := true }
    answer Settings.read files { config := some "conf/boot.toml", given } =
        answer Settings.read files
          { given := { given with
              images := ["conf/menu", "/srv/menu", "more"], boot := some "menu" } } ∧
      answer Settings.read files { config := some "boot.toml", given } =
        (.ok (.error ["Failed to read config file: boot.toml",
          "No such file or directory (os error 2)"]), []) := by
  intro text files given
  constructor
  · obtain ⟨-, ⟨offered, offers, comes⟩, inside, -⟩ :=
      run_with_settings_file Settings.read files "conf/boot.toml" given
    have decodes : Text.decode? (Text.encode text).toArray.toList = some text := by
      decide +kernel
    have reads : Settings.read text =
        .ok { images := ["menu", "/srv/menu"], boot := some "menu" } := by
      have parsed : Settings.parse? text =
          some { images := ["menu", "/srv/menu"], boot := some "menu" } := by
        decide +kernel
      rw [Settings.read, parsed]
    obtain rfl := offers.unique (.settings rfl decodes reads)
    have solid : Path.Solid "conf".toList := ⟨[], "conf".toList, by decide +kernel, by decide⟩
    have named : Path.IsName "boot.toml".toList := ⟨by decide +kernel, by decide +kernel⟩
    have menu := inside "conf" "boot.toml" "menu" rfl solid named (by decide)
    refine comes.trans (congrArg (fun given => answer Settings.read files { given }) ?_)
    dsimp only at menu
    rw [List.map_cons, menu]
    decide +kernel
  · obtain ⟨-, ⟨offered, offers, comes⟩, -⟩ :=
      run_with_settings_file Settings.read files "boot.toml" given
    obtain rfl := offers.unique (.unreadable rfl)
    exact comes files rfl

end Host

end BootScript
