import BootScript.Host.Settings

/-!
# Reading settings

Settings are written as lines `key = value` in TOML.  The keys are `images`, an array
of strings, `boot`, a string, and `trace_commands`, a truth value; each may stand
once.  Only these can be accepted, so the reader knows just the part of TOML that
they need: comments, bare and quoted keys, the four kinds of string, arrays
and truth values.  Whatever else a text holds makes it unreadable.  Every loop is
bounded by the length of the whole text, since each round reads a character.
-/

namespace BootScript.Settings

namespace Reader

/-! ## Characters -/

def lineFeed : Char := Char.ofNat 0x0a

def carriageReturn : Char := Char.ofNat 0x0d

def quote : Char := Char.ofNat 0x22

def apostrophe : Char := Char.ofNat 0x27

def isSpace (character : Char) : Bool :=
  character.toNat = 0x20 || character.toNat = 0x09

/-- Characters that may stand in comments, and in strings where nothing else is meant. -/
def isPlain (character : Char) : Bool :=
  character.toNat = 0x09 || (0x20 ≤ character.toNat && character.toNat ≠ 0x7f)

def isBare (character : Char) : Bool :=
  character.isAlphanum || character = '_' || character = '-'

def skipSpaces (text : List Char) : List Char :=
  text.dropWhile isSpace

/-- What follows a line break, if the text starts with one. -/
def afterBreak? : List Char → Option (List Char)
  | [] => none
  | first :: rest =>
      if first = lineFeed then some rest
      else
        match rest with
        | second :: rest =>
            if first = carriageReturn ∧ second = lineFeed then some rest else none
        | [] => none

/-- What follows an optional comment. -/
def skipComment : List Char → List Char
  | '#' :: rest => rest.dropWhile isPlain
  | text => text

/-! ## Strings -/

def digitValue? (character : Char) : Option Nat :=
  let point := character.toNat
  if 0x30 ≤ point ∧ point ≤ 0x39 then some (point - 0x30)
  else if 0x41 ≤ point ∧ point ≤ 0x46 then some (point - 0x37)
  else if 0x61 ≤ point ∧ point ≤ 0x66 then some (point - 0x57)
  else none

/-- The character of a code point in exactly `count` hexadecimal digits, and the rest. -/
def codePoint? (count : Nat) (text : List Char) : Option (Char × List Char) := do
  let digits := text.take count
  if digits.length < count then none
  else
    let values ← digits.mapM digitValue?
    let point := values.foldl (fun total value => total * 16 + value) 0
    if point.isValidChar then some (Char.ofNat point, text.drop count) else none

/-- The character that an escape stands for, and the rest after the escape. -/
def escape? : List Char → Option (Char × List Char)
  | 'b' :: rest => some (Char.ofNat 0x08, rest)
  | 't' :: rest => some (Char.ofNat 0x09, rest)
  | 'n' :: rest => some (Char.ofNat 0x0a, rest)
  | 'f' :: rest => some (Char.ofNat 0x0c, rest)
  | 'r' :: rest => some (Char.ofNat 0x0d, rest)
  | 'u' :: rest => codePoint? 4 rest
  | 'U' :: rest => codePoint? 8 rest
  | character :: rest =>
      if character = quote ∨ character = '\\' then some (character, rest) else none
  | [] => none

/-- Skip spaces and line breaks. -/
def skipBlank : Nat → List Char → List Char
  | 0, text => text
  | bound + 1, text =>
      match text with
      | first :: rest =>
          if isSpace first then skipBlank bound rest
          else
            match afterBreak? text with
            | some rest => skipBlank bound rest
            | none => text
      | [] => []

/-- Characters up to the delimiter, with escapes where `escapes` says so. -/
def lineString (delimiter : Char) (escapes : Bool) (done : List Char) :
    Nat → List Char → Option (List Char × List Char)
  | 0, _ => none
  | _, [] => none
  | bound + 1, character :: rest =>
      if character = delimiter then some (done.reverse, rest)
      else if escapes ∧ character = '\\' then
        match escape? rest with
        | some (escaped, rest) => lineString delimiter escapes (escaped :: done) bound rest
        | none => none
      else if isPlain character then
        lineString delimiter escapes (character :: done) bound rest
      else none

/-- Like `lineString` over several lines, up to three delimiters.  Up to two delimiters
more stand for themselves, and a backslash before a line break skips all blanks. -/
def blockString (delimiter : Char) (escapes : Bool) (done : List Char) :
    Nat → List Char → Option (List Char × List Char)
  | 0, _ => none
  | _, [] => none
  | bound + 1, character :: rest =>
      if character = delimiter then
        let count := ((character :: rest).takeWhile (· = delimiter)).length
        if count < 3 then blockString delimiter escapes (delimiter :: done) bound rest
        else
          let extra := min (count - 3) 2
          some ((List.replicate extra delimiter ++ done).reverse, rest.drop (extra + 2))
      else if escapes ∧ character = '\\' then
        match afterBreak? (skipSpaces rest) with
        | some after =>
            blockString delimiter escapes done bound (skipBlank bound after)
        | none =>
            match escape? rest with
            | some (escaped, rest) => blockString delimiter escapes (escaped :: done) bound rest
            | none => none
      else
        match afterBreak? (character :: rest) with
        | some rest => blockString delimiter escapes (lineFeed :: done) bound rest
        | none =>
            if isPlain character then
              blockString delimiter escapes (character :: done) bound rest
            else none

/-- A string on one line. -/
def quoted? (bound : Nat) : List Char → Option (List Char × List Char)
  | first :: rest =>
      if first = quote then lineString quote true [] bound rest
      else if first = apostrophe then lineString apostrophe false [] bound rest
      else none
  | [] => none

/-- A string of any kind.  A line break right after three delimiters does not count. -/
def string? (bound : Nat) : List Char → Option (List Char × List Char)
  | first :: second :: third :: rest =>
      if (first = quote ∨ first = apostrophe) ∧ second = first ∧ third = first then
        blockString first (first = quote) [] bound ((afterBreak? rest).getD rest)
      else quoted? bound (first :: second :: third :: rest)
  | text => quoted? bound text

/-! ## Values -/

inductive Value
  | string (text : List Char)
  | truth (value : Bool)
  | strings (texts : List (List Char))

/-- Skip spaces, line breaks and comments inside an array. -/
def skipBetween : Nat → List Char → List Char
  | 0, text => text
  | bound + 1, text =>
      match text with
      | [] => []
      | first :: rest =>
          if isSpace first then skipBetween bound rest
          else
            match afterBreak? (skipComment text) with
            | some rest => skipBetween bound rest
            | none => text

/-- The elements of an array up to its closing bracket. -/
def elements (done : List (List Char)) : Nat → List Char → Option (List (List Char) × List Char)
  | 0, _ => none
  | bound + 1, text =>
      match skipBetween bound text with
      | ']' :: rest => some (done.reverse, rest)
      | text =>
          match string? bound text with
          | none => none
          | some (element, rest) =>
              match skipBetween bound rest with
              | ',' :: rest => elements (element :: done) bound rest
              | ']' :: rest => some ((element :: done).reverse, rest)
              | _ => none

def value? (bound : Nat) : List Char → Option (Value × List Char)
  | '[' :: rest => (elements [] bound rest).map fun (texts, rest) => (.strings texts, rest)
  | 't' :: 'r' :: 'u' :: 'e' :: rest => some (.truth true, rest)
  | 'f' :: 'a' :: 'l' :: 's' :: 'e' :: rest => some (.truth false, rest)
  | text => (string? bound text).map fun (text, rest) => (.string text, rest)

def key? (bound : Nat) (text : List Char) : Option (List Char × List Char) :=
  match quoted? bound text with
  | some found => some found
  | none =>
      match text.span isBare with
      | ([], _) => none
      | found => some found

/-! ## Documents -/

/-- The entries read so far. -/
structure Draft where
  images : Option (List String) := none
  boot : Option String := none
  traceCommands : Option Bool := none

namespace Draft

/-- Take an entry in, if its key is known and new and its value is of the right kind. -/
def enter? (draft : Draft) (key : String) (value : Value) : Option Draft :=
  match key, value with
  | "images", .strings texts =>
      if draft.images.isNone then some { draft with images := some (texts.map String.ofList) }
      else none
  | "boot", .string text =>
      if draft.boot.isNone then some { draft with boot := some (String.ofList text) }
      else none
  | "trace_commands", .truth value =>
      if draft.traceCommands.isNone then some { draft with traceCommands := some value }
      else none
  | _, _ => none

def settings (draft : Draft) : Settings where
  images := draft.images.getD []
  boot := draft.boot
  traceCommands := draft.traceCommands.getD false

end Draft

/-- An entry `key = value`, and what follows it on its line. -/
def entry? (bound : Nat) (draft : Draft) (text : List Char) : Option (Draft × List Char) := do
  let (key, rest) ← key? bound text
  match skipSpaces rest with
  | '=' :: rest =>
      let (value, rest) ← value? bound (skipSpaces rest)
      let draft ← draft.enter? (String.ofList key) value
      return (draft, rest)
  | _ => none

/-- Read line by line.  A line holds at most one entry and a comment. -/
def lines (draft : Draft) : Nat → List Char → Option Draft
  | 0, _ => none
  | bound + 1, text =>
      let ending (draft : Draft) (text : List Char) : Option Draft :=
        match skipComment (skipSpaces text) with
        | [] => some draft
        | text =>
            match afterBreak? text with
            | some rest => lines draft bound rest
            | none => none
      match skipSpaces text with
      | [] => some draft
      | first :: rest =>
          if first = '#' ∨ first = lineFeed ∨ first = carriageReturn then
            ending draft (first :: rest)
          else
            match entry? bound draft (first :: rest) with
            | some (draft, rest) => ending draft rest
            | none => none

def byteOrderMark : Char := Char.ofNat 0xfeff

def withoutMark : List Char → List Char
  | first :: rest => if first = byteOrderMark then rest else first :: rest
  | [] => []

end Reader

def parse? (text : String) : Option Settings :=
  let characters := Reader.withoutMark text.toList
  (Reader.lines {} (characters.length + 2) characters).map Reader.Draft.settings

end BootScript.Settings
