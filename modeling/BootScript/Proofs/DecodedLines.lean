import BootScript.Proofs.BoundedLines
import BootScript.Proofs.Decoding
import BootScript.Proofs.Handing

/-!
# Lines of the text that bytes are read as

Newlines and zero bytes are ASCII, so bytes may be split at newlines, and their lines cut at
zero bytes, before or after they are read as characters.  What a shell is given of a script
are the lines of the text of its bytes.
-/

namespace BootScript

namespace Text

open Buffer (splitOn_of_not_mem splitOn_append takeWhile_of_not_mem takeWhile_append)

/-! ## Characters of bytes -/

/-- The characters of bytes, with a replacement character for each stray. -/
def characters (bytes : Bytes) : List Char :=
  (pieces bytes).map Piece.lossy

theorem toList_lossy (bytes : Bytes) : (lossy bytes).toList = characters bytes :=
  String.toList_ofList

section Parting

variable {byte : UInt8} {bytes : Bytes}

theorem characters_append_ascii (ascii : byte.toNat < 0x80) (bytes rest : Bytes) :
    characters (bytes ++ byte :: rest) =
      characters bytes ++ Char.ofNat byte.toNat :: characters rest := by
  rw [characters, pieces_append_ascii ascii, List.map_append, List.map_cons]
  rfl

theorem toNat_ofNat_of_ascii (ascii : byte.toNat < 0x80) :
    (Char.ofNat byte.toNat).toNat = byte.toNat := by
  have valid : byte.toNat.isValidChar := .inl (by omega)
  rw [Char.ofNat, dif_pos valid]
  rfl

theorem mem_characters_iff (ascii : byte.toNat < 0x80) :
    Char.ofNat byte.toNat ∈ characters bytes ↔ byte ∈ bytes := by
  have code := toNat_ofNat_of_ascii ascii
  constructor
  · intro member
    obtain ⟨piece, read, shown⟩ := List.mem_map.mp member
    cases piece with
    | stray =>
        have replaced : '\ufffd'.toNat = 0xfffd := rfl
        have same : '\ufffd'.toNat = byte.toNat := (congrArg Char.toNat shown).trans code
        omega
    | character value =>
        obtain rfl : value = Char.ofNat byte.toNat := shown
        rcases mem_piecesFrom sound_none read with ⟨each, member, small, same⟩ | beyond
        · have equal : byte.toNat = each.toNat := by
            rw [← code, same, toNat_ofNat_of_ascii small]
          rwa [UInt8.toNat_inj.mp equal]
        · omega
  · intro member
    obtain ⟨before, after, rfl⟩ := List.append_of_mem member
    rw [characters_append_ascii ascii]
    exact List.mem_append_right _ List.mem_cons_self

/-- Bytes before a pending character is complete do not vanish. -/
theorem piecesFrom_pending_ne_nil (pending : Pending) (bytes : Bytes) :
    piecesFrom (some pending) [] bytes ≠ [] := by
  induction bytes generalizing pending with
  | nil => exact List.cons_ne_nil _ _
  | cons byte rest ih =>
      rw [piecesFrom_cons, readByte]
      split
      · dsimp only
        split
        · exact List.cons_ne_nil _ _
        · exact ih _
      · exact List.cons_ne_nil _ _

theorem characters_eq_nil_iff : characters bytes = [] ↔ bytes = [] := by
  rw [characters, List.map_eq_nil_iff]
  constructor
  · intro none
    cases bytes with
    | nil => rfl
    | cons byte rest =>
        rw [pieces, piecesFrom_cons, List.append_eq_nil_iff] at none
        have begun := begins byte
        change (beginCharacter byte).1 = [] ∧ piecesFrom (beginCharacter byte).2 [] rest = []
          at none
        generalize beginCharacter byte = outcome at begun none
        cases begun with
        | ascii | stray => exact absurd none.1 (List.cons_ne_nil _ _)
        | _ => exact absurd none.2 (piecesFrom_pending_ne_nil _ _)
  · rintro rfl
    rfl

end Parting

/-! ## Splitting and cutting -/

section Stops

variable {Symbol : Type} [DecidableEq Symbol] {stop : Symbol}

theorem infix_of_mem_splitOn {piece symbols : List Symbol} (member : piece ∈ symbols.splitOn stop) :
    piece <:+: symbols := by
  by_cases parts : stop ∈ symbols
  · obtain ⟨line, rest, parted, whole⟩ := List.eq_append_cons_of_mem parts
    have shorter : rest.length < symbols.length := by
      rw [parted, List.length_append, List.length_cons]
      omega
    rw [parted, splitOn_append whole] at member
    rw [parted]
    rcases List.mem_cons.mp member with rfl | later
    · exact List.infix_append [] piece (stop :: rest)
    · have suffix : rest <:+ line ++ stop :: rest := ⟨line ++ [stop], by simp⟩
      exact (infix_of_mem_splitOn later).trans suffix.isInfix
  · rw [splitOn_of_not_mem parts, List.mem_singleton] at member
    exact member ▸ List.infix_rfl
termination_by symbols.length

end Stops

section Parting

variable {byte : UInt8}

/-- Reading commutes with splitting at an ASCII character. -/
theorem splitOn_characters (ascii : byte.toNat < 0x80) (bytes : Bytes) :
    (characters bytes).splitOn (Char.ofNat byte.toNat) =
      (bytes.splitOn byte).map characters := by
  by_cases member : byte ∈ bytes
  · obtain ⟨line, rest, parted, whole⟩ := List.eq_append_cons_of_mem member
    have shorter : rest.length < bytes.length := by
      rw [parted, List.length_append, List.length_cons]
      omega
    rw [parted, characters_append_ascii ascii, splitOn_append whole,
      splitOn_append (mt (mem_characters_iff ascii).mp whole), splitOn_characters ascii rest,
      List.map_cons]
  · rw [splitOn_of_not_mem member, splitOn_of_not_mem (mt (mem_characters_iff ascii).mp member)]
    rfl
termination_by bytes.length

/-- Reading commutes with cutting before an ASCII character. -/
theorem takeWhile_characters (ascii : byte.toNat < 0x80) (bytes : Bytes) :
    (characters bytes).takeWhile (· ≠ Char.ofNat byte.toNat) =
      characters (bytes.takeWhile (· ≠ byte)) := by
  by_cases member : byte ∈ bytes
  · obtain ⟨line, rest, rfl, whole⟩ := List.eq_append_cons_of_mem member
    rw [characters_append_ascii ascii, takeWhile_append whole,
      takeWhile_append (mt (mem_characters_iff ascii).mp whole)]
  · rw [takeWhile_of_not_mem member,
      takeWhile_of_not_mem (mt (mem_characters_iff ascii).mp member)]

end Parting

/-! ## Lines of a text -/

/-- The pieces of characters between newlines, without an empty piece after the last newline. -/
def splitLines (characters : List Char) : List (List Char) :=
  let pieces := characters.splitOn '\n'
  if pieces.getLast? = some [] then pieces.dropLast else pieces

/-- The lines of a text, each up to its first zero character. -/
def scriptLines (text : String) : List String :=
  (splitLines text.toList).map fun line => String.ofList (line.takeWhile (· ≠ '\x00'))

theorem splitLines_characters (bytes : Bytes) :
    splitLines (characters bytes) = (Buffer.splitLines bytes).map characters := by
  have split : (characters bytes).splitOn '\n' = (bytes.splitOn Buffer.newline).map characters :=
    @splitOn_characters Buffer.newline (by decide) bytes
  have ended : ((bytes.splitOn Buffer.newline).map characters).getLast? = some [] ↔
      (bytes.splitOn Buffer.newline).getLast? = some [] := by
    rw [List.getLast?_map, Option.map_eq_some_iff]
    exact ⟨fun ⟨_, there, empty⟩ => characters_eq_nil_iff.mp empty ▸ there,
      fun there => ⟨[], there, rfl⟩⟩
  simp only [splitLines, Buffer.splitLines, split, ended]
  split
  · exact List.map_dropLast.symm
  · rfl

theorem lossy_cutAtZero (line : Bytes) :
    lossy (Buffer.cutAtZero line) =
      String.ofList ((characters line).takeWhile (· ≠ '\x00')) := by
  have cut := @takeWhile_characters 0 (by decide) line
  exact congrArg String.ofList cut.symm

/-- The lines may be taken before or after the bytes are read. -/
theorem scriptLines_lossy (bytes : Bytes) :
    scriptLines (lossy bytes) =
      (Buffer.splitLines bytes).map fun line => lossy (Buffer.cutAtZero line) := by
  rw [scriptLines, toList_lossy, splitLines_characters, List.map_map]
  exact List.map_congr_left fun line _ => (lossy_cutAtZero line).symm

/-- A line of a text stands in the text as it is. -/
theorem infix_of_mem_scriptLines {text line : String} (member : line ∈ scriptLines text) :
    line.toList <:+: text.toList := by
  obtain ⟨piece, there, rfl⟩ := List.mem_map.mp member
  have split : piece ∈ text.toList.splitOn '\n' := by
    unfold splitLines at there
    dsimp only at there
    split at there
    · exact List.dropLast_subset _ there
    · exact there
  rw [String.toList_ofList]
  exact (List.takeWhile_prefix _).isInfix.trans (infix_of_mem_splitOn split)

end Text

namespace Script

variable {World : Type} {interpret : Interpreter World} {registry : RegistryId} {image : Handle}
  {machine : Machine World}

theorem idle_of_run (ended : (run interpret registry image machine).1 = .ok (.ok ())) :
    (machine.catalog.image image).executing = false := by
  rw [Bool.eq_false_iff]
  intro running
  rw [run_apply, running, if_pos rfl] at ended
  cases ended

/-- A run that comes to its end has handed over all the lines. -/
theorem hands_of_run {commands : List Bytes}
    (lines : (machine.catalog.image image).buffer.lines = commands.map .ok)
    (ended : (run interpret registry image machine).1 = .ok (.ok ())) :
    ∃ left, Hands interpret (begin registry image machine) commands left := by
  obtain ⟨handed, later, left, outcome, after, split, hands, stops, whole⟩ :=
    run_stops interpret registry (idle_of_run ended)
  obtain rfl : outcome = .ok (.ok ()) := by rw [whole] at ended; exact ended
  cases stops with
  | complete =>
      rw [lines, List.append_nil] at split
      obtain rfl := List.map_injective_iff.mpr (fun _ _ => Except.ok.inj) split
      exact ⟨left, hands⟩

end Script

namespace Shell

/-! ## Texts of a script -/

/-- A script that runs to its end has given the shell the lines of the text of its bytes.  An
encoded text is executed as the line that it is. -/
theorem texts_of_script (id : ShellId) (depth : Nat) (registry : RegistryId) {image : Handle}
    {machine : Machine Shells} (readable : (machine.catalog.image image).buffer.readable = none) :
    let bytes := (machine.catalog.image image).buffer.contents.bytes.toList
    let ran := Script.run (interpretWithin id depth) registry image machine
    ((Buffer.splitLines bytes).map fun line => Text.lossy (Buffer.cutAtZero line)) =
        Text.scriptLines (Text.lossy bytes) ∧
      (ran.1 = .ok (.ok ()) → ∃ commands left,
        Script.Hands (interpretWithin id depth) (Script.begin registry image machine)
          commands left ∧
        commands.map Text.lossy = Text.scriptLines (Text.lossy bytes)) ∧
      (∀ text, bytes = Text.encode text →
        Text.lossy bytes = text ∧
          ∀ line ∈ Text.scriptLines text, line.toList <:+: text.toList) ∧
      ∀ text, interpretWithin id (nestingBound machine.catalog) (Text.encode text) machine =
        runLine id text machine := by
  intro bytes ran
  have read := Text.scriptLines_lossy bytes
  refine ⟨read.symm, ?_, ?_, ?_⟩
  · intro ended
    have lines : (machine.catalog.image image).buffer.lines =
        ((Buffer.splitLines bytes).map Buffer.cutAtZero).map .ok := by
      rw [Buffer.lines_eq readable, List.map_map]
      rfl
    obtain ⟨left, hands⟩ := Script.hands_of_run lines ended
    exact ⟨_, left, hands, by rw [read, List.map_map]; rfl⟩
  · rintro text valid
    rw [valid, Text.lossy_encode]
    exact ⟨rfl, fun line member => Text.infix_of_mem_scriptLines member⟩
  · intro text
    rw [interpretWithin, Text.lossy_encode]
    rfl

/-- A newline and a zero byte end characters that are not complete. -/
theorem texts_of_script_broken_off :
    let brokenOff : Buffer :=
      { contents := ⟨#[101, 99, 104, 111, 32, 226, 130, 10, 101, 99, 104, 111, 32, 195, 169, 240,
          159, 152, 0, 120, 10], by decide⟩ }
    let machine := ((Session.start [{}] [{}] {}).after
      [.create "a" brokenOff, .setFormat 0 Script.format, .register 0 0]).machine
    (machine.catalog.image 0).buffer.readable = none ∧
      ∃ commands left, Script.Hands (interpretWithin 0 2) (Script.begin 0 0 machine) commands left ∧
        commands.map Text.lossy = ["echo \ufffd", "echo é\ufffd"] := by
  intro brokenOff machine
  have readable : (machine.catalog.image 0).buffer.readable = none := by decide
  have ended : (Script.run (interpretWithin 0 2) 0 0 machine).1 = .ok (.ok ()) := by
    decide +kernel
  have lines :
      Text.scriptLines (Text.lossy (machine.catalog.image 0).buffer.contents.bytes.toList) =
        ["echo \ufffd", "echo é\ufffd"] := by decide +kernel
  clear_value machine
  obtain ⟨-, texts, -⟩ := texts_of_script 0 2 0 readable
  obtain ⟨commands, left, hands, given⟩ := texts ended
  exact ⟨readable, commands, left, hands, given.trans lines⟩

end Shell

end BootScript
