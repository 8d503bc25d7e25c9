/-!
# Statuses

Every command, script and image ends with a 32-bit status.  Zero means success
and stops nothing; any other value ends the script that the command stands in.
-/

namespace BootScript

abbrev Status := Int32

namespace Status

def success : Status := 0

def failure : Status := 1

/-- The target of the command does not exist. -/
def notFound : Status := 2

/-- A script could not be read, or a command's output could not be written. -/
def inputOutput : Status := 5

def notExecutable : Status := 8

/-- The image is already running further up the chain of callers. -/
def busy : Status := 16

def unknownCommand : Status := 127

end Status

end BootScript
