import BootScript.Image.Error
import BootScript.Text.Utf8

/-!
# Buffers

The bytes of an image are reached through two bounded operations: copying a range
out and finding a byte.  Offsets and lengths are 64-bit words.  A range outside
the buffer is refused, also when its end would wrap around, and a search range is
cut short at the end of the buffer.
-/

namespace BootScript

/-- Fewer bytes than the 63rd power of two, so that an offset past the end of any
line still fits a word. -/
structure Contents where
  bytes : Array UInt8
  size_lt : bytes.size < 0x8000000000000000
  deriving DecidableEq

namespace Contents

instance : Inhabited Contents := ⟨⟨#[], by decide⟩⟩

def ofArray? (bytes : Array UInt8) : Option Contents :=
  if bound : bytes.size < 0x8000000000000000 then some ⟨bytes, bound⟩ else none

def size (contents : Contents) : UInt64 :=
  UInt64.ofNat contents.bytes.size

@[simp] theorem toNat_size (contents : Contents) :
    contents.size.toNat = contents.bytes.size := by
  have bound := contents.size_lt
  simp only [size, UInt64.toNat_ofNat']
  omega

def read (contents : Contents) (offset length : UInt64) : Except ImageError Bytes :=
  let stop := offset + length
  if stop < offset ∨ contents.size < stop then
    .error (.outOfBounds offset length contents.size)
  else
    .ok (contents.bytes.extract offset.toNat stop.toNat).toList

/-- The first place of a byte among `count` places from `position` on. -/
def firstFrom (bytes : Array UInt8) (value : UInt8) (position : Nat) : Nat → Option Nat
  | 0 => none
  | count + 1 =>
      if bytes[position]? = some value then some position
      else firstFrom bytes value (position + 1) count

def indexOf? (contents : Contents) (value : UInt8) (offset stop : UInt64) : Option UInt64 :=
  let stop := if stop ≤ contents.size then stop else contents.size
  (firstFrom contents.bytes value offset.toNat (stop.toNat - offset.toNat)).map UInt64.ofNat

end Contents

/-- Contents of which, where a bound is given, only a first part can be copied. -/
structure Buffer where
  contents : Contents
  readable : Option UInt64 := none
  deriving DecidableEq

namespace Buffer

instance : Inhabited Buffer := ⟨{ contents := default }⟩

def size (buffer : Buffer) : UInt64 :=
  buffer.contents.size

def isEmpty (buffer : Buffer) : Bool :=
  buffer.size = 0

/-- Copy a range out.  The readable bound counts before the size does. -/
def read (buffer : Buffer) (offset length : UInt64) : Except ImageError Bytes :=
  match buffer.readable with
  | none => buffer.contents.read offset length
  | some bound =>
      if bound.toNat < offset.toNat + length.toNat then
        .error (.outOfBounds offset length bound)
      else
        buffer.contents.read offset length

/-- Search the range for a byte.  A search also sees bytes that cannot be copied. -/
def indexOf? (buffer : Buffer) (value : UInt8) (offset stop : UInt64) : Option UInt64 :=
  buffer.contents.indexOf? value offset stop

/-- Whether the bytes can be copied from the start of the buffer. -/
def startsWith (buffer : Buffer) (bytes : Bytes) : Bool :=
  match buffer.read 0 (UInt64.ofNat bytes.length) with
  | .ok start => start = bytes
  | .error _ => false

def describe (buffer : Buffer) : String :=
  let inner := "MemoryBuffer \x7b len: " ++ toString buffer.size.toNat ++ ", .. \x7d"
  match buffer.readable with
  | none => inner
  | some bound =>
      "FaultyBuffer \x7b inner: " ++ inner ++ ", readable: " ++ toString bound.toNat ++ " \x7d"

end Buffer

end BootScript
