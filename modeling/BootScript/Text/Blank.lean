/-!
# Blanks and words

Words are the longest runs of characters that are not blank.  Blank is the
Unicode property White_Space, which has twenty-five members.
-/

namespace BootScript.Text

def isBlank (character : Char) : Bool :=
  let point := character.toNat
  (0x09 ≤ point && point ≤ 0x0d) || point = 0x20 || point = 0x85 || point = 0xa0 ||
    point = 0x1680 || (0x2000 ≤ point && point ≤ 0x200a) || point = 0x2028 ||
    point = 0x2029 || point = 0x202f || point = 0x205f || point = 0x3000

def wordsOf (characters : List Char) : List (List Char) :=
  (characters.splitOnP isBlank).filter fun word => !word.isEmpty

def words (text : String) : List String :=
  (wordsOf text.toList).map String.ofList

end BootScript.Text
