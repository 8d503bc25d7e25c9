import BootScript.Buffer.Line
import BootScript.Machine
import BootScript.Script.Error

/-!
# Running scripts

A script hands its lines to an interpreter, one at a time, until a command fails.
While it runs, its image is marked as executing and hidden from the registry, so a
command of the script does not find the script itself.  However the run ends, the
image is put back, its mark is cleared and its reference is given back.
-/

namespace BootScript.Script

variable {World : Type}

/-- Mark an image as executing, take a reference on it, and hide it.  The answer
tells whether the registry let it go. -/
def hide (catalog : Catalog) (registry : RegistryId) (image : Handle) : Bool × Catalog :=
  let marked := (catalog.setExecuting image true).hold image
  match marked.unregister registry image with
  | .ok hidden => (true, hidden)
  | .error _ => (false, marked)

/-- Undo `hide`.  An image that was not taken off the list is not put on it, and one
that has come back by itself stays where it is. -/
def unhide (catalog : Catalog) (registry : RegistryId) (image : Handle) (hidden : Bool) :
    Catalog :=
  let listed :=
    if hidden then
      match catalog.register registry image with
      | .ok listed => listed
      | .error _ => catalog
    else catalog
  (listed.setExecuting image false).release image

/-- Run a body while an image is hidden.  A body that is abandoned is cleaned up
after like any other. -/
def whileHidden {Value : Type} (registry : RegistryId) (image : Handle)
    (body : Execution World Value) : Execution World Value := fun machine =>
  let (hidden, catalog) := hide machine.catalog registry image
  let (outcome, left) := body
    { machine with catalog, journal := .runBegan registry image hidden :: machine.journal }
  let restored := unhide left.catalog registry image hidden
  (outcome,
    { left with
      catalog := restored
      journal := .runEnded registry image hidden left.catalog restored :: left.journal })

/-- Hand lines to an interpreter, up to the first that fails or cannot be read. -/
def runLines (interpret : Interpreter World) :
    List (Except ImageError Bytes) → Execution World (Except ScriptError Unit)
  | [] => pure (.ok ())
  | .error cause :: _ => pure (.error (.unreadable cause))
  | .ok command :: rest => do
      let status ← interpret command
      if status = Status.success then runLines interpret rest
      else pure (.error (.commandFailed command status))

/-- Run the script of an image that is not running. -/
def run (interpret : Interpreter World) (registry : RegistryId) (image : Handle) :
    Execution World (Except ScriptError Unit) := do
  let target := (← Execution.catalog).image image
  if target.executing then
    Execution.note (.runRefused image)
    pure (.error (.alreadyRunning target.name))
  else
    whileHidden registry image (runLines interpret target.buffer.lines)

def execute (interpret : Interpreter World) (registry : RegistryId) (image : Handle) :
    Execution World Status := do
  match ← run interpret registry image with
  | .ok () => pure Status.success
  | .error failure => pure failure.status

end BootScript.Script
