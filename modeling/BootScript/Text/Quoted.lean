import BootScript.Text.Printable
import BootScript.Text.Utf8

/-!
# Quoted names and commands

Both are written between double quotes.  A character beyond ASCII stands for itself
if it is printable and is escaped by its code point if it is not.  A command is
bytes: control bytes and strays are written byte by byte, and both quotes escaped.
-/

namespace BootScript.Text

/-- The lower-case hexadecimal digits of a number, without leading zeros. -/
def hexadecimal (number : Nat) : List Char :=
  Nat.toDigits 16 number

def hexadecimalByte (byte : Nat) : List Char :=
  ['\\', 'x'] ++ (if byte < 16 then ['0'] else []) ++ hexadecimal byte

/-- A character by itself, or by its code point if it is not printable. -/
def showCharacter (character : Char) : List Char :=
  if isPrintable character then [character]
  else ['\\', 'u', '\x7b'] ++ hexadecimal character.toNat ++ ['\x7d']

def enclose (inside : List Char) : String :=
  String.ofList ('"' :: inside ++ ['"'])

def quoteNameCharacter (character : Char) : List Char :=
  match character.toNat with
  | 0x00 => ['\\', '0']
  | 0x09 => ['\\', 't']
  | 0x0a => ['\\', 'n']
  | 0x0d => ['\\', 'r']
  | 0x22 => ['\\', '"']
  | 0x5c => ['\\', '\\']
  | _ => showCharacter character

def quoteName (name : String) : String :=
  enclose (name.toList.flatMap quoteNameCharacter)

def quoteCommandPiece : Piece → List Char
  | .stray bytes => bytes.flatMap fun byte => hexadecimalByte byte.toNat
  | .character character =>
      match character.toNat with
      | 0x09 => ['\\', 't']
      | 0x0a => ['\\', 'n']
      | 0x0d => ['\\', 'r']
      | 0x22 => ['\\', '"']
      | 0x27 => ['\\', Char.ofNat 0x27]
      | 0x5c => ['\\', '\\']
      | point =>
          if point < 0x20 ∨ point = 0x7f then hexadecimalByte point
          else showCharacter character

def quoteCommand (command : Bytes) : String :=
  enclose ((pieces command).flatMap quoteCommandPiece)

end BootScript.Text
