import BootScript.Dispatch
import BootScript.Shell.Command
import BootScript.Shell.Error
import BootScript.Shell.Sink
import BootScript.Text.Numeral

/-!
# The shell

A shell interprets command lines over a registry and writes to a sink.  A command
that boots an image makes the same shell the interpreter of that image's lines, so
lines nest.  A command that fails says why in one line and ends with the status of
that failure.
-/

namespace BootScript

abbrev ShellId := Nat

structure Shell where
  registry : RegistryId := 0
  /-- Write each command before running it. -/
  traceCommands : Bool := false
  sink : Sink := {}
  deriving DecidableEq, Repr

instance : Inhabited Shell := ⟨{}⟩

abbrev Shells := Store Shell

namespace Shell

/-- What most commands end with. -/
abbrev Attempt := Execution Shells (Except ShellError Status)

def current (id : ShellId) : Execution Shells Shell := fun machine =>
  (.ok (machine.world.get id), machine)

/-- Write a text, as far as the sink takes it. -/
def write (id : ShellId) (purpose : Purpose) (text : String) :
    Execution Shells (Except ShellError Unit) := fun machine =>
  let (complete, sink) := (machine.world.get id).sink.write (Text.encode text)
  let answer := if complete then .ok () else .error (.inputOutput "sink full")
  (.ok answer,
    { machine with
      world := machine.world.modify id fun shell => { shell with sink }
      journal := .wrote id purpose text :: machine.journal })

/-- Write texts in order, up to the first that the sink does not take. -/
def writeAll (id : ShellId) : List String → Attempt
  | [] => pure (.ok Status.success)
  | text :: rest => do
      match ← write id .result text with
      | .ok () => writeAll id rest
      | .error failure => pure (.error failure)

def imageLine (image : Image) : String :=
  image.name ++ ": " ++ toString image.size.toNat ++ " bytes [" ++
    image.formatName?.getD "unknown" ++ "]\n"

/-- The status that the arguments of `exit` ask for. -/
def exitStatus : List String → Except ShellError Status
  | [] => .ok Status.success
  | [word] =>
      match Text.int32? word.toList with
      | some status => .ok status
      | none => .error (.invalidArgument "exit" ("invalid status '" ++ word ++ "'"))
  | _ => .error (.invalidArgument "exit" "expected at most one status")

/-- The image that the arguments of `boot` select from a registry. -/
def bootTarget (catalog : Catalog) (registry : RegistryId) :
    List String → Except ShellError Handle
  | [] =>
      match catalog.firstClassified? registry with
      | some image => .ok image
      | none => .error .noExecutableImage
  | [name] =>
      match catalog.find? registry name with
      | some image => .ok image
      | none => .error (.imageNotFound name)
  | _ => .error (.invalidArgument "boot" "expected at most one image name")

/-- The image that the arguments of `imgfree` name. -/
def freeTarget (catalog : Catalog) (registry : RegistryId) :
    List String → Except ShellError Handle
  | [name] =>
      match catalog.find? registry name with
      | some image => .ok image
      | none => .error (.imageNotFound name)
  | _ => .error (.invalidArgument "imgfree" "expected exactly one argument")

def free (registry : RegistryId) (arguments : List String) : Attempt := do
  match freeTarget (← Execution.catalog) registry arguments with
  | .error failure => pure (.error failure)
  | .ok image =>
      match ← Execution.unregister registry image with
      | .error cause => pure (.error (.image cause))
      | .ok () => pure (.ok Status.success)

/-- How a shell executes an image, given its registry. -/
abbrev Booter := RegistryId → Handle → Execution Shells (Except ImageError Status)

def boot (booter : Booter) (registry : RegistryId) (arguments : List String) : Attempt := do
  match bootTarget (← Execution.catalog) registry arguments with
  | .error failure => pure (.error failure)
  | .ok image =>
      match ← booter registry image with
      | .error cause => pure (.error (.image cause))
      | .ok status => pure (.ok status)

def perform (booter : Booter) (id : ShellId) : Command → Attempt
  | .echo arguments => writeAll id [" ".intercalate arguments ++ "\n"]
  | .succeed => pure (.ok Status.success)
  | .fail => pure (.ok Status.failure)
  | .exit arguments => pure (exitStatus arguments)
  | .listImages => do
      let registry := (← current id).registry
      let catalog ← Execution.catalog
      writeAll id ((catalog.listed registry).map fun image => imageLine (catalog.image image))
  | .free arguments => do free (← current id).registry arguments
  | .boot arguments => do boot booter (← current id).registry arguments
  | .unknown name => pure (.error (.unknownCommand name))

/-- Trace a command, if the shell does, and perform it if the trace was written. -/
def traceAndPerform (booter : Booter) (id : ShellId) (line : String) (command : Command) :
    Attempt := do
  if (← current id).traceCommands then
    match ← write id .trace ("$ " ++ line ++ "\n") with
    | .error failure => pure (.error failure)
    | .ok () => perform booter id command
  else
    perform booter id command

/-- What a line asks for.  A line that is no command succeeds. -/
def attemptLine (booter : Booter) (id : ShellId) (line : String) : Attempt :=
  match Command.ofLine? line with
  | none => pure (.ok Status.success)
  | some command => traceAndPerform booter id line command

/-- The status of what was attempted, with its failure reported.  A complaint that
cannot be written is lost. -/
def conclude (id : ShellId) : Except ShellError Status → Execution Shells Status
  | .ok status => pure status
  | .error failure => do
      let _ ← write id .complaint (failure.message ++ "\n")
      pure failure.status

/-- Run a line and report its failure. -/
def runLineWith (booter : Booter) (id : ShellId) (line : String) :
    Execution Shells Status := do
  Execution.note (.lineBegan id line (← Execution.catalog))
  let status ← conclude id (← attemptLine booter id line)
  Execution.note (.lineEnded id status)
  pure status

/-- Run a line whose nest of lines is at most `depth` deep. -/
def runLineWithin (id : ShellId) : Nat → String → Execution Shells Status
  | 0, _ => Execution.abandon .tooDeep
  | depth + 1, line =>
      runLineWith
        (fun registry image =>
          dispatch (fun command => runLineWithin id depth (Text.lossy command)) registry image)
        id line

/-- Interpret a command of a script. -/
def interpretWithin (id : ShellId) (depth : Nat) : Interpreter Shells :=
  fun command => runLineWithin id depth (Text.lossy command)

/-- Lines nest only through images that are not running yet, so there are fewer
lines in a nest than images and one. -/
def nestingBound (catalog : Catalog) : Nat :=
  catalog.images.size + 1

def runLine (id : ShellId) (line : String) : Execution Shells Status := fun machine =>
  runLineWithin id (nestingBound machine.catalog) line machine

end Shell

end BootScript
