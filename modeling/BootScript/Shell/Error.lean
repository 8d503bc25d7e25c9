import BootScript.Image.Error
import BootScript.Status

/-!
# Why a shell command failed
-/

namespace BootScript

inductive ShellError
  | unknownCommand (name : String)
  | invalidArgument (command reason : String)
  | imageNotFound (name : String)
  | noExecutableImage
  | image (cause : ImageError)
  /-- Output could not be written. -/
  | inputOutput (reason : String)
  deriving DecidableEq, Repr

namespace ShellError

def message : ShellError → String
  | unknownCommand name => name ++ ": command not found"
  | invalidArgument command reason => command ++ ": " ++ reason
  | imageNotFound name => "no such image: " ++ name
  | noExecutableImage => "no executable image"
  | image cause => cause.message
  | inputOutput reason => "I/O error: " ++ reason

def status : ShellError → Status
  | unknownCommand _ => Status.unknownCommand
  | invalidArgument _ _ => Status.failure
  | imageNotFound _ => Status.notFound
  | noExecutableImage => Status.notFound
  | image (.notExecutable _) => Status.notExecutable
  | image (.notRegistered _) => Status.notFound
  | image _ => Status.failure
  | inputOutput _ => Status.inputOutput

end ShellError

end BootScript
