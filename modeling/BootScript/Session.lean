import BootScript.Playbook
import BootScript.Script.Signature

/-!
# Sessions

A session works on a machine step by step, as the host program of an image layer
would: it makes images, classifies and registers them, takes references, runs
lines and executes images.  Each step gives an answer and the next session.
-/

namespace BootScript

/-- Whom an execution hands its commands to. -/
inductive InterpreterChoice
  | shell (id : ShellId)
  | playbook
  deriving DecidableEq, Repr

/-- Through which door an execution enters. -/
inductive Entry
  | dispatch
  | run
  | format (format : Format)

inductive Step
  | create (name : String) (buffer : Buffer)
  | setFormats (formats : Formats)
  /-- Add formats to the known ones. -/
  | addFormats (formats : List Format)
  | setFormat (image : Handle) (format : Format)
  | probe (image : Handle) (format : Format)
  | classify (image : Handle)
  | register (registry : RegistryId) (image : Handle)
  | unregister (registry : RegistryId) (image : Handle)
  /-- Overwrite the registered flag alone. -/
  | setRegistered (image : Handle) (value : Bool)
  | find (registry : RegistryId) (name : String)
  | firstClassified (registry : RegistryId)
  | count (registry : RegistryId)
  | acquire (image : Handle)
  | release (reference : Nat)
  | describe (image : Handle)
  | describeFormat (image : Handle)
  | line (shell : ShellId) (line : Bytes)
  | execute (choice : InterpreterChoice) (registry : RegistryId) (entry : Entry) (image : Handle)

inductive Answer
  | done
  | handle (handle : Handle)
  | maybeHandle (handle : Option Handle)
  | names (names : List String)
  | name (name : String)
  | text (text : Option String)
  | count (count : Nat)
  | reference (number : Nat) (name : String)
  | status (status : Status)
  | refused (failure : ImageError)
  | scriptFailed (failure : ScriptError)
  | abandoned (abort : Abort)

structure Session where
  machine : Machine Shells
  formats : Formats := .builtIn
  playbook : Playbook := {}
  /-- The references taken so far; one that was given back is gone. -/
  acquired : Store (Option Handle) := .empty

namespace Session

/-- A session without images. -/
def start (registries : List Registry) (shells : List Shell) (playbook : Playbook) : Session where
  machine :=
    { catalog := { registries := .ofList registries }
      world := .ofList shells }
  playbook := playbook

def catalog (session : Session) : Catalog :=
  session.machine.catalog

def withCatalog (session : Session) (catalog : Catalog) : Session :=
  { session with machine := { session.machine with catalog } }

def note (session : Session) (event : Event) : Session :=
  { session with
    machine := { session.machine with journal := event :: session.machine.journal } }

/-- Take over the catalog of an operation that gave an image its format. -/
def keepFormat (session : Session) (image : Handle) (format : Format) :
    Except ImageError Catalog → Answer × Session
  | .ok catalog => (.done, (session.withCatalog catalog).note (.classified image format))
  | .error failure => (.refused failure, session)

/-- Carry an execution out and say what came of it. -/
def carryOut {Value : Type} (session : Session) (execution : Execution Shells Value)
    (answer : Value → Answer) : Answer × Session :=
  let (outcome, machine) := execution session.machine
  let session := { session with machine }
  match outcome with
  | .ok value => (answer value, session)
  | .error abort => (.abandoned abort, session)

def interpreter (session : Session) (registry : RegistryId) :
    InterpreterChoice → Interpreter Shells
  | .shell id => Shell.interpretWithin id (Shell.nestingBound session.catalog)
  | .playbook =>
      session.playbook.interpretWithin session.formats registry
        (Shell.nestingBound session.catalog)

def ofAttempt : Except ImageError Unit → Answer
  | .ok () => .done
  | .error failure => .refused failure

def ofClassification : Except ImageError Format → Answer
  | .ok format => .name format.name
  | .error failure => .refused failure

def ofDispatch : Except ImageError Status → Answer
  | .ok status => .status status
  | .error failure => .refused failure

def ofRun : Except ScriptError Unit → Answer
  | .ok () => .done
  | .error failure => .scriptFailed failure

def execute (session : Session) (interpret : Interpreter Shells) (registry : RegistryId)
    (image : Handle) : Entry → Answer × Session
  | .dispatch => session.carryOut (BootScript.dispatch interpret registry image) ofDispatch
  | .run => session.carryOut (Script.run interpret registry image) ofRun
  | .format format => session.carryOut (format.execute interpret registry image) Answer.status

def step (session : Session) : Step → Answer × Session
  | .create name buffer =>
      let (handle, catalog) := session.catalog.addImage { name, buffer }
      (.handle handle, session.withCatalog catalog)
  | .setFormats formats => (.names formats.names, { session with formats })
  | .addFormats added =>
      let formats := added.foldl Formats.add session.formats
      (.names formats.names, { session with formats })
  | .setFormat image format =>
      session.keepFormat image format (session.catalog.setFormat image format)
  | .probe image format =>
      session.keepFormat image format (session.catalog.probe image format)
  | .classify image =>
      session.carryOut (Execution.classify session.formats image) ofClassification
  | .register registry image =>
      session.carryOut (Execution.register registry image) ofAttempt
  | .unregister registry image =>
      session.carryOut (Execution.unregister registry image) ofAttempt
  | .setRegistered image value =>
      (.done, session.withCatalog (session.catalog.setRegistered image value))
  | .find registry name => (.maybeHandle (session.catalog.find? registry name), session)
  | .firstClassified registry =>
      (.maybeHandle (session.catalog.firstClassified? registry), session)
  | .count registry => (.count (session.catalog.listed registry).length, session)
  | .acquire image =>
      (.reference session.acquired.size (session.catalog.image image).name,
        { session.withCatalog (session.catalog.hold image) with
          acquired := session.acquired.push (some image) })
  | .release reference =>
      match session.acquired.get reference with
      | none => (.maybeHandle none, session)
      | some image =>
          (.maybeHandle (some image),
            { session.withCatalog (session.catalog.release image) with
              acquired := session.acquired.modify reference fun _ => none })
  | .describe image => (.text (some (session.catalog.image image).describe), session)
  | .describeFormat image =>
      (.text ((session.catalog.image image).format.map Format.describe), session)
  | .line shell line =>
      session.carryOut (Shell.runLine shell (Text.lossy line)) Answer.status
  | .execute choice registry entry image =>
      session.execute (session.interpreter registry choice) registry image entry

end Session

end BootScript
