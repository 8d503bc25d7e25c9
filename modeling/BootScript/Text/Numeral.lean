/-!
# Signed decimal numerals

An optional single sign, then one or more ASCII digits, of a value that fits
32 bits.  Leading zeros are allowed.
-/

namespace BootScript.Text

def digitValue? (character : Char) : Option Nat :=
  if '0' ≤ character ∧ character ≤ '9' then some (character.toNat - '0'.toNat) else none

/-- The value of a non-empty list of digits. -/
def magnitude? (digits : List Char) : Option Nat :=
  if digits.isEmpty then none
  else
    (digits.mapM digitValue?).map fun values =>
      values.foldl (fun total value => total * 10 + value) 0

def integer? : List Char → Option Int
  | '+' :: digits => (magnitude? digits).map Int.ofNat
  | '-' :: digits => (magnitude? digits).map fun value => -Int.ofNat value
  | digits => (magnitude? digits).map Int.ofNat

def int32? (characters : List Char) : Option Int32 :=
  match integer? characters with
  | some value =>
      if -2147483648 ≤ value ∧ value ≤ 2147483647 then some (Int32.ofInt value) else none
  | none => none

end BootScript.Text
