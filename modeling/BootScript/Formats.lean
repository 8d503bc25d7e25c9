import BootScript.Image

/-!
# Sets of formats

A set keeps its formats in the order in which they are asked: by priority, and
within a priority as they were added.  Classification goes to the first format
that does not answer with a mismatch.
-/

namespace BootScript

namespace Priority

def rank : Priority → Nat
  | normal => 0
  | late => 1

end Priority

structure Formats where
  inOrder : List Format

namespace Formats

def empty : Formats := ⟨[]⟩

instance : Inhabited Formats := ⟨empty⟩

/-- Add a format after those of its own and of earlier priority. -/
def add (formats : Formats) (format : Format) : Formats :=
  let precedes (known : Format) : Bool := known.priority.rank ≤ format.priority.rank
  ⟨formats.inOrder.takeWhile precedes ++ format :: formats.inOrder.dropWhile precedes⟩

def names (formats : Formats) : List String :=
  formats.inOrder.map Format.name

/-- Probe in order.  A mismatch passes the image on, any other failure ends the search. -/
def probeInOrder (image : Image) : List Format → Except ImageError (Format × Image)
  | [] => .error (.unknownFormat image.name)
  | format :: rest =>
      match format.probe image with
      | .ok classified => .ok (format, classified)
      | .error (.formatMismatch _) => probeInOrder image rest
      | .error failure => .error failure

def classify (formats : Formats) (image : Image) : Except ImageError (Format × Image) :=
  match image.format with
  | some known => .error (image.alreadyClassified known)
  | none => probeInOrder image formats.inOrder

end Formats

end BootScript
