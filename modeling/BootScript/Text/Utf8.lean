/-!
# Byte strings as UTF-8

A byte string is cut into pieces: the characters that are well formed, and the
strays between them.  A stray is a maximal part of the input that begins a
character and does not complete it, or one byte that begins none.  The lossy
reading shows each stray as one replacement character.
-/

namespace BootScript

abbrev Bytes := List UInt8

namespace Text

inductive Piece
  | character (value : Char)
  | stray (bytes : Bytes)
  deriving DecidableEq, Repr

/-- A character of several bytes that is not complete yet. -/
structure Pending where
  /-- The bytes read so far, the latest first. -/
  seen : Bytes
  /-- The bits collected so far. -/
  value : Nat
  /-- How many bytes are missing after the next one. -/
  later : Nat
  /-- The next byte lies between these two. -/
  least : UInt8
  greatest : UInt8

namespace Pending

def accepts (pending : Pending) (byte : UInt8) : Bool :=
  pending.least ≤ byte && byte ≤ pending.greatest

def stray (pending : Pending) : Piece :=
  .stray pending.seen.reverse

end Pending

/-- Read a byte at which a character begins.  The bounds on the second byte
exclude overlong forms, surrogates and code points beyond the last one. -/
def beginCharacter (byte : UInt8) : List Piece × Option Pending :=
  let opening (mask : UInt8) (later : Nat) (least greatest : UInt8) :=
    ([], some { seen := [byte], value := (byte &&& mask).toNat, later, least, greatest })
  if byte < 0x80 then ([.character (Char.ofNat byte.toNat)], none)
  else if byte < 0xc2 then ([.stray [byte]], none)
  else if byte < 0xe0 then opening 0x1f 0 0x80 0xbf
  else if byte = 0xe0 then opening 0x0f 1 0xa0 0xbf
  else if byte = 0xed then opening 0x0f 1 0x80 0x9f
  else if byte < 0xf0 then opening 0x0f 1 0x80 0xbf
  else if byte = 0xf0 then opening 0x07 2 0x90 0xbf
  else if byte < 0xf4 then opening 0x07 2 0x80 0xbf
  else if byte = 0xf4 then opening 0x07 2 0x80 0x8f
  else ([.stray [byte]], none)

/-- Read one byte.  A byte that cannot continue the pending character leaves it
as a stray and is read again as a beginning. -/
def readByte : Option Pending → UInt8 → List Piece × Option Pending
  | none, byte => beginCharacter byte
  | some pending, byte =>
      if pending.accepts byte then
        let value := pending.value * 64 + (byte &&& 0x3f).toNat
        match pending.later with
        | 0 => ([.character (Char.ofNat value)], none)
        | later + 1 =>
            let seen := byte :: pending.seen
            ([], some { seen, value, later, least := 0x80, greatest := 0xbf })
      else
        let (pieces, next) := beginCharacter byte
        (pending.stray :: pieces, next)

/-- The pieces of the bytes to come, after those already `done` (latest first). -/
def piecesFrom (pending : Option Pending) (done : List Piece) : Bytes → List Piece
  | [] => (pending.toList.map Pending.stray ++ done).reverse
  | byte :: rest =>
      let (pieces, next) := readByte pending byte
      piecesFrom next (pieces.reverse ++ done) rest

def pieces (bytes : Bytes) : List Piece :=
  piecesFrom none [] bytes

def Piece.lossy : Piece → Char
  | .character value => value
  | .stray _ => '\ufffd'

/-- The text of a byte string, with one replacement character for each stray. -/
def lossy (bytes : Bytes) : String :=
  String.ofList ((pieces bytes).map Piece.lossy)

/-- The text of a byte string without strays. -/
def decode? (bytes : Bytes) : Option String :=
  let step : Piece → Option Char
    | .character value => some value
    | .stray _ => none
  ((pieces bytes).mapM step).map String.ofList

def encode (text : String) : Bytes :=
  text.toUTF8.data.toList

end Text

end BootScript
