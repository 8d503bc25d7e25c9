import BootScript.Buffer
import BootScript.Status
import BootScript.Text.Quoted

/-!
# Images and formats

An image is a named buffer with what the image layer knows about it.  A format
recognises images by their buffers and knows how to execute them.  An image takes
a format once and keeps it.
-/

namespace BootScript

/-- Formats without a reliable signature come late. -/
inductive Priority
  | normal
  | late
  deriving DecidableEq, Repr

/-- What executing an image of a format does. -/
inductive Loader
  /-- Hand the lines of the image to the interpreter. -/
  | script
  /-- Hand control to a program that ends with the status. -/
  | program (status : Status)
  deriving DecidableEq, Repr

structure Format where
  name : String
  priority : Priority := .normal
  recognise : Buffer → Except ImageError Unit
  loader : Loader

structure Image where
  name : String
  buffer : Buffer
  format : Option Format := none
  /-- Whether a registry lists the image, as far as the image has been told. -/
  registered : Bool := false
  executing : Bool := false
  /-- References taken and not yet released. -/
  held : Nat := 0

namespace Image

instance : Inhabited Image := ⟨{ name := "", buffer := default }⟩

def size (image : Image) : UInt64 :=
  image.buffer.size

def alreadyClassified (image : Image) (format : Format) : ImageError :=
  .alreadyClassified image.name format.name

/-- Give the image its format, unless it has one. -/
def setFormat (image : Image) (format : Format) : Except ImageError Image :=
  match image.format with
  | some known => .error (image.alreadyClassified known)
  | none => .ok { image with format := some format }

def formatName? (image : Image) : Option String :=
  image.format.map Format.name

def describe (image : Image) : String :=
  let format :=
    match image.formatName? with
    | some name => "Some(" ++ Text.quoteName name ++ ")"
    | none => "None"
  "Image \x7b name: " ++ Text.quoteName image.name ++
    ", len: " ++ toString image.size.toNat ++
    ", type: " ++ format ++
    ", registered: " ++ toString image.registered ++
    ", executing: " ++ toString image.executing ++ " \x7d"

end Image

namespace Format

/-- Ask a format about an image and, if it recognises the image, make it its format. -/
def probe (format : Format) (image : Image) : Except ImageError Image :=
  match format.recognise image.buffer with
  | .ok () => image.setFormat format
  | .error failure => .error failure

def describe (format : Format) : String :=
  "ImageType(" ++ Text.quoteName format.name ++ ")"

end Format

end BootScript
