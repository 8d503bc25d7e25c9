import BootScript.Host.Arguments
import BootScript.Host.Loader
import BootScript.Host.Settings.File
import BootScript.Script.Signature
import BootScript.Shell

/-!
# The host program

The host carries out one request: it loads images and boots one of them with a shell
as their interpreter, or it names the format of a file.  What it leaves behind is an
exit code, the bytes it wrote and, if it failed, a report.
-/

namespace BootScript

structure Outcome where
  exitCode : Nat
  output : Bytes := []
  report : Report := []
  deriving DecidableEq, Repr

namespace Host

/-- Statuses that no exit code can show become 1. -/
def exitCode (status : Status) : Nat :=
  if 0 ≤ status.toInt ∧ status.toInt ≤ 255 then status.toInt.toNat else 1

def failed (report : Report) : Outcome where
  exitCode := 1
  report := report

def usageError : Outcome where
  exitCode := 2

def versionText : String := "netboot 0.1.0\n"

/-! ## Booting -/

/-- A catalog with one registry and no images. -/
def emptyCatalog : Catalog where
  registries := .ofList [{}]

/-- The image to boot: the first of the given name, or the first executable one. -/
def selectImage (catalog : Catalog) : Option String → Except Report Handle
  | some name =>
      match catalog.find? 0 name with
      | some image => .ok image
      | none => .error ["No such image: " ++ name]
  | none =>
      match catalog.firstClassified? 0 with
      | some image => .ok image
      | none => .error ["No executable image loaded"]

/-- Load the images of the settings and select the one to boot. -/
def prepare (files : FileSystem) (settings : Settings) : Except Report (Catalog × Handle) :=
  if settings.images = [] then
    .error ["No images given: pass image files or a config file listing them"]
  else
    match Loader.load files .builtIn 0 emptyCatalog settings.images with
    | (.error report, _) => .error report
    | (.ok 0, _) => .error ["None of the given images is in a recognised format"]
    | (.ok _, catalog) => (selectImage catalog settings.boot).map fun image => (catalog, image)

/-- Execute an image with a shell over its registry. -/
def execute (trace : Bool) (catalog : Catalog) (image : Handle) :
    Except Abort (Except ImageError Status) × Machine Shells :=
  dispatch (Shell.interpretWithin 0 (Shell.nestingBound catalog)) 0 image
    { catalog, world := .ofList [{ traceCommands := trace }] }

def boot (files : FileSystem) (settings : Settings) : Outcome :=
  match prepare files settings with
  | .error report => failed report
  | .ok (catalog, image) =>
      let (outcome, machine) := execute settings.traceCommands catalog image
      let output := (machine.world.get 0).sink.written.toList
      match outcome with
      | .ok (.ok status) => { exitCode := exitCode status, output }
      | .ok (.error failure) => { exitCode := 1, output, report := [failure.message] }
      | .error _ => { exitCode := 1, output }

/-- The settings that a request is based on. -/
def configured (files : FileSystem) : Option String → Except Report Settings
  | some path => Settings.load files path
  | none => .ok {}

def run (files : FileSystem) (request : Arguments.RunRequest) : Outcome :=
  match configured files request.config with
  | .error report => failed report
  | .ok settings => boot files (settings.overlay request.given)

/-! ## Probing -/

def probe (files : FileSystem) (path : String) : Outcome :=
  match Loader.fetch files path with
  | .error report => failed report
  | .ok image =>
      match Formats.builtIn.classify image with
      | .ok (format, _) =>
          { exitCode := 0, output := Text.encode (image.name ++ ": " ++ format.name ++ "\n") }
      | .error (.unknownFormat _) =>
          { exitCode := 1, output := Text.encode (image.name ++ ": unknown\n") }
      | .error failure => failed [failure.message]

/-! ## Requests -/

def perform (files : FileSystem) : Arguments.Request → Outcome
  | .run request => run files request
  | .probe path => probe files path

def invoke (files : FileSystem) (arguments : List String) : Outcome :=
  match Arguments.read arguments with
  | .ok request => perform files request
  | .error .usage => usageError
  | .error .version => { exitCode := 0, output := Text.encode versionText }
  | .error .help => { exitCode := 0 }

end Host

end BootScript
