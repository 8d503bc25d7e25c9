import BootScript.Host.Settings

/-!
# Command line arguments

A command line names what to do, with options before and after that word.  Short
options can share a dash, a value can be attached to its option or follow it, and two
dashes end the options.  No option may be repeated on its side of the word.
-/

namespace BootScript.Arguments

/-- Load images and boot one of them. -/
structure RunRequest where
  /-- A file of settings for the given ones to be laid over. -/
  config : Option String := none
  given : Settings := {}
  deriving DecidableEq, Repr

inductive Request
  | run (request : RunRequest)
  | probe (image : String)
  deriving DecidableEq, Repr

/-- What ends the reading before there is a request. -/
inductive Ending
  | usage
  | version
  | help
  deriving DecidableEq, Repr

/-! ## Options -/

inductive OptionName
  | boot
  | config
  | trace
  | verbose
  | version
  | help
  deriving DecidableEq, Repr

namespace OptionName

def long : OptionName → String
  | boot => "boot"
  | config => "config"
  | trace => "trace"
  | verbose => "verbose"
  | version => "version"
  | help => "help"

def short : OptionName → Char
  | boot => 'b'
  | config => 'c'
  | trace => 't'
  | verbose => 'v'
  | version => 'V'
  | help => 'h'

def takesValue : OptionName → Bool
  | boot | config => true
  | _ => false

end OptionName

def topOptions : List OptionName := [.verbose, .version, .help]

def runOptions : List OptionName := [.boot, .config, .trace, .verbose, .help]

def probeOptions : List OptionName := [.verbose, .help]

/-! ## Tokens -/

inductive Token
  | word (text : String)
  /-- Two dashes alone. -/
  | terminator
  | long (name : String) (value : Option String)
  | cluster (letters : List Char)
  deriving DecidableEq, Repr

def Token.ofArgument (argument : String) : Token :=
  match argument.toList with
  | ['-', '-'] => .terminator
  | '-' :: '-' :: text =>
      match text.span (· ≠ '=') with
      | (name, _ :: value) => .long (String.ofList name) (some (String.ofList value))
      | (name, []) => .long (String.ofList name) none
  | '-' :: letter :: letters => .cluster (letter :: letters)
  | _ => .word argument

/-! ## Reading -/

/-- The options and words read so far, the latest first. -/
structure Reading where
  options : List (OptionName × String) := []
  words : List String := []

namespace Reading

def value? (reading : Reading) (name : OptionName) : Option String :=
  reading.options.lookup name

/-- Take an option in.  A path is never empty. -/
def give (reading : Reading) (name : OptionName) (value : String) : Except Ending Reading :=
  if name = .version then .error .version
  else if name = .help then .error .help
  else if (reading.value? name).isSome then .error .usage
  else if name = .config ∧ value = "" then .error .usage
  else .ok { reading with options := (name, value) :: reading.options }

/-- Take a path in, if there is room for it. -/
def addWord (limit : Option Nat) (reading : Reading) (word : String) : Except Ending Reading :=
  if word = "" ∨ limit = some reading.words.length then .error .usage
  else .ok { reading with words := word :: reading.words }

/-- Read short options that share a dash.  The answer names the option that still
awaits its value, if there is one. -/
def readCluster (known : List OptionName) (reading : Reading) :
    List Char → Except Ending (Reading × Option OptionName)
  | [] => .ok (reading, none)
  | letter :: rest =>
      match known.find? fun name => name.short = letter with
      | none => .error .usage
      | some name =>
          if name.takesValue then
            match rest with
            | [] => .ok (reading, some name)
            | '=' :: value => do return (← reading.give name (String.ofList value), none)
            | value => do return (← reading.give name (String.ofList value), none)
          else do readCluster known (← reading.give name "") rest

def readLong (known : List OptionName) (reading : Reading) (name : String)
    (value : Option String) : Except Ending (Reading × Option OptionName) :=
  match known.find? fun candidate => candidate.long = name with
  | none => .error .usage
  | some name =>
      match name.takesValue, value with
      | true, some value => do return (← reading.give name value, none)
      | true, none => .ok (reading, some name)
      | false, some _ => .error .usage
      | false, none => do return (← reading.give name "", none)

/-- Read the arguments after the word that says what to do. -/
def readAll (known : List OptionName) (limit : Option Nat) :
    Reading → Option OptionName → List String → Except Ending Reading
  | reading, none, [] => .ok reading
  | _, some _, [] => .error .usage
  | reading, some name, argument :: rest =>
      match Token.ofArgument argument with
      | .word value => do readAll known limit (← reading.give name value) none rest
      | _ => .error .usage
  | reading, none, argument :: rest =>
      match Token.ofArgument argument with
      | .word word => do readAll known limit (← reading.addWord limit word) none rest
      | .terminator => rest.foldlM (addWord limit) reading
      | .long name value => do
          let (reading, awaiting) ← reading.readLong known name value
          readAll known limit reading awaiting rest
      | .cluster letters => do
          let (reading, awaiting) ← reading.readCluster known letters
          readAll known limit reading awaiting rest

end Reading

def readRun (arguments : List String) : Except Ending Request := do
  let reading ← Reading.readAll runOptions none {} none arguments
  return .run
    { config := reading.value? .config
      given :=
        { images := reading.words.reverse
          boot := reading.value? .boot
          traceCommands := (reading.value? .trace).isSome } }

def readProbe (arguments : List String) : Except Ending Request := do
  let reading ← Reading.readAll probeOptions (some 1) {} none arguments
  match reading.words with
  | [image] => return .probe image
  | _ => .error .usage

def readHelp : List String → Except Ending Request
  | [] => .error .help
  | [topic] => if topic ∈ ["run", "probe", "help"] then .error .help else .error .usage
  | _ => .error .usage

def readTop (reading : Reading) : List String → Except Ending Request
  | [] => .error .usage
  | argument :: rest =>
      match Token.ofArgument argument with
      | .word "run" => readRun rest
      | .word "probe" => readProbe rest
      | .word "help" => readHelp rest
      | .word _ => .error .usage
      | .terminator => .error .usage
      | .long name value => do
          let (reading, _) ← reading.readLong topOptions name value
          readTop reading rest
      | .cluster letters => do
          let (reading, _) ← reading.readCluster topOptions letters
          readTop reading rest

def read (arguments : List String) : Except Ending Request :=
  readTop {} arguments

end BootScript.Arguments
