import BootScript.Image

/-!
# Program formats

A program format looks for magic bytes at the start of the buffer, if it has any,
and then gives a fixed verdict.  Its images are programs that end with a fixed
status.
-/

namespace BootScript

inductive Verdict
  | accept
  | mismatch
  /-- Fail for a reason other than a mismatch. -/
  | fail
  deriving DecidableEq, Repr

namespace Verdict

def toResult (verdict : Verdict) (format : String) (buffer : Buffer) : Except ImageError Unit :=
  match verdict with
  | accept => .ok ()
  | mismatch => .error (.formatMismatch format)
  | fail => .error (.outOfBounds 0 1 buffer.size)

end Verdict

def Format.program (name : String) (priority : Priority) (magic : Option Bytes)
    (verdict : Verdict) (status : Status) : Format where
  name := name
  priority := priority
  recognise := fun buffer =>
    if magic.all buffer.startsWith then verdict.toResult name buffer
    else .error (.formatMismatch name)
  loader := .program status

end BootScript
