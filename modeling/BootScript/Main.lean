import BootScript.Host.Run

/-!
# The command line program

The files that a request needs are read first: its settings file, and then the images
that the settings list.  The rest is decided without looking at the disk again.
-/

namespace BootScript.CommandLine

/-- The number of a system error, which some calls report negated. -/
def errorNumber (code : UInt32) : UInt32 :=
  if code < 0x80000000 then code else 0 - code

def readError (failure : IO.Error) : ReadError :=
  let numbered (code : UInt32) : ReadError :=
    match errorNumber code with
    | 2 => .notFound
    | 20 => .notDirectory
    | 21 => .isDirectory
    | 36 => .nameTooLong
    | _ => .other (toString failure)
  match failure with
  | .noFileOrDirectory _ code _ => numbered code
  | .inappropriateType _ code _ => numbered code
  | .invalidArgument _ code _ => numbered code
  | _ => .other (toString failure)

def readFile (path : String) : IO (Except ReadError Contents) := do
  if Char.ofNat 0 ∈ path.toList then return .error .zeroInPath
  try
    match Contents.ofArray? (← IO.FS.readBinFile path).data with
    | some contents => return .ok contents
    | none => return .error (.other "the file is too large")
  catch failure => return .error (readError failure)

/-- A file system of the files under some paths, as they are now. -/
def snapshot (paths : List String) : IO FileSystem := do
  let found ← paths.mapM fun path => do return (path, ← readFile path)
  return { read := fun path => (found.lookup path).getD (.error .notFound) }

def filesFor : Arguments.Request → IO FileSystem
  | .probe path => snapshot [path]
  | .run request => do
      let config := request.config.toList
      let files ← snapshot config
      match Host.configured files request.config with
      | .error _ => return files
      | .ok settings => snapshot (config ++ (settings.overlay request.given).images)

end BootScript.CommandLine

open BootScript in
def main (arguments : List String) : IO UInt32 := do
  let files ←
    match Arguments.read arguments with
    | .ok request => CommandLine.filesFor request
    | .error _ => CommandLine.snapshot []
  let outcome := Host.invoke files arguments
  let output ← IO.getStdout
  output.write ⟨outcome.output.toArray⟩
  output.flush
  for text in outcome.report do
    IO.eprintln text
  return UInt32.ofNat outcome.exitCode
