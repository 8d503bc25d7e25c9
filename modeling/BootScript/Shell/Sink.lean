import BootScript.Text.Utf8

/-!
# Sinks

A sink collects the bytes written to it.  One with limited room takes what fits
and then fails; one that recovers fails once and has no limit afterwards.
-/

namespace BootScript

structure Sink where
  written : Array UInt8 := #[]
  /-- How many more bytes fit, if there is a limit. -/
  room : Option Nat := none
  recovers : Bool := false
  deriving DecidableEq, Repr

namespace Sink

instance : Inhabited Sink := ⟨{}⟩

/-- Write bytes and tell whether all of them were taken. -/
def write (sink : Sink) (bytes : Bytes) : Bool × Sink :=
  match sink.room with
  | none => (true, { sink with written := sink.written ++ bytes })
  | some room =>
      if bytes.length ≤ room then
        (true,
          { sink with written := sink.written ++ bytes, room := some (room - bytes.length) })
      else
        (false,
          { sink with
            written := sink.written ++ bytes.take room
            room := if sink.recovers then none else some 0 })

end Sink

end BootScript
