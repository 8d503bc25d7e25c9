import BootScript.Formats

/-!
# The script format

A script is an image whose buffer starts with the signature line.
-/

namespace BootScript.Script

def signature : Bytes :=
  Text.encode "#!script\n"

def recognise (buffer : Buffer) : Except ImageError Unit :=
  if buffer.startsWith signature then .ok () else .error (.formatMismatch "script")

def format : Format where
  name := "script"
  recognise := recognise
  loader := .script

end BootScript.Script

namespace BootScript.Formats

/-- The formats known from the start. -/
def builtIn : Formats :=
  empty.add Script.format

end BootScript.Formats
