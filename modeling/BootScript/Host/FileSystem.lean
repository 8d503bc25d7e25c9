import BootScript.Buffer

/-!
# File systems

A file system answers each path with the contents of a file or with the reason why
there are none.
-/

namespace BootScript

inductive ReadError
  | notFound
  | isDirectory
  /-- The path continues after the name of a file. -/
  | notDirectory
  | nameTooLong
  /-- The path holds a zero character. -/
  | zeroInPath
  | other (reason : String)
  deriving DecidableEq, Repr

namespace ReadError

def message : ReadError → String
  | notFound => "No such file or directory (os error 2)"
  | notDirectory => "Not a directory (os error 20)"
  | isDirectory => "Is a directory (os error 21)"
  | nameTooLong => "File name too long (os error 36)"
  | zeroInPath => "file name contained an unexpected NUL byte"
  | other reason => reason

end ReadError

structure FileSystem where
  read : String → Except ReadError Contents

end BootScript
