import BootScript.Buffer

/-!
# Lines of a buffer

Lines end at newlines, and the last one may lack its newline.  They are copied out
one at a time, by offset, and each is cut at its first zero byte.  The first line
that cannot be copied is reported as such and is the last.
-/

namespace BootScript.Buffer

def newline : UInt8 := 0x0a

/-- Where the line at an offset ends: at its newline or with the buffer. -/
def lineEnd (buffer : Buffer) (offset : UInt64) : UInt64 :=
  (buffer.indexOf? newline offset buffer.size).getD buffer.size

def cutAtZero (line : Bytes) : Bytes :=
  line.takeWhile (· ≠ 0)

/-- The line at an offset, and the offset after it. -/
def nextLine? (buffer : Buffer) (offset : UInt64) :
    Option (Except ImageError Bytes × UInt64) :=
  if buffer.size ≤ offset then none
  else
    let length := buffer.lineEnd offset - offset
    match buffer.read offset length with
    | .ok line => some (.ok (cutAtZero line), offset + length + 1)
    | .error failure => some (.error failure, buffer.size)

/-- The lines from an offset on, after those already `done` (latest first). -/
def linesFrom (buffer : Buffer) (offset : UInt64) (done : List (Except ImageError Bytes)) :
    Nat → List (Except ImageError Bytes)
  | 0 => done.reverse
  | bound + 1 =>
      match buffer.nextLine? offset with
      | none => done.reverse
      | some (line, next) => buffer.linesFrom next (line :: done) bound

/-- All lines.  There are no more of them than bytes. -/
def lines (buffer : Buffer) : List (Except ImageError Bytes) :=
  buffer.linesFrom 0 [] buffer.size.toNat

end BootScript.Buffer
