import BootScript.Text.Blank

/-!
# Command lines

The first word of a line names its command and the other words are the arguments.
A line without words, or whose first word starts with a number sign, is no command.
-/

namespace BootScript

inductive Command
  | echo (arguments : List String)
  | succeed
  | fail
  | exit (arguments : List String)
  | listImages
  | free (arguments : List String)
  | boot (arguments : List String)
  | unknown (name : String)
  deriving DecidableEq, Repr

namespace Command

def ofName (name : String) (arguments : List String) : Command :=
  match name with
  | "echo" => echo arguments
  | "true" => succeed
  | "false" => fail
  | "exit" => exit arguments
  | "imgstat" => listImages
  | "imgfree" => free arguments
  | "boot" => boot arguments
  | "imgexec" => boot arguments
  | _ => unknown name

def isComment (word : String) : Bool :=
  word.toList.head? = some '#'

def ofWords? : List String → Option Command
  | [] => none
  | name :: arguments => if isComment name then none else some (ofName name arguments)

def ofLine? (line : String) : Option Command :=
  ofWords? (Text.words line)

end Command

end BootScript
