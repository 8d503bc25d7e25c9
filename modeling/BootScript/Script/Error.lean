import BootScript.Image.Error
import BootScript.Status
import BootScript.Text.Quoted

/-!
# Why a script stopped before its last line
-/

namespace BootScript

inductive ScriptError
  | commandFailed (command : Bytes) (status : Status)
  /-- The script is running further up the chain of callers. -/
  | alreadyRunning (image : String)
  | unreadable (cause : ImageError)
  deriving DecidableEq, Repr

namespace ScriptError

def message : ScriptError → String
  | commandFailed command status =>
      "command " ++ Text.quoteCommand command ++ " failed with status " ++ toString status.toInt
  | alreadyRunning image => "script '" ++ image ++ "' is already running"
  | unreadable cause => "failed to read script: " ++ cause.message

/-- The status reported to whoever executed the script. -/
def status : ScriptError → Status
  | commandFailed _ status => status
  | alreadyRunning _ => Status.busy
  | unreadable _ => Status.inputOutput

end ScriptError

end BootScript
