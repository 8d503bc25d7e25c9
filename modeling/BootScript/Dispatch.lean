import BootScript.Script

/-!
# Executing images

An image is executed by its format.  An image without one cannot be executed.
-/

namespace BootScript

variable {World : Type}

def Format.execute (format : Format) (interpret : Interpreter World) (registry : RegistryId)
    (image : Handle) : Execution World Status :=
  match format.loader with
  | .script => Script.execute interpret registry image
  | .program status => pure status

/-- Execute an image in the context of a registry and an interpreter. -/
def dispatch (interpret : Interpreter World) (registry : RegistryId) (image : Handle) :
    Execution World (Except ImageError Status) := do
  let target := (← Execution.catalog).image image
  match target.format with
  | none => pure (.error (.notExecutable target.name))
  | some format =>
      Execution.note (.dispatched image)
      let status ← format.execute interpret registry image
      pure (.ok status)

end BootScript
