import BootScript.Text.Utf8
import Mathlib.Data.Nat.Bitwise

/-!
# Decoding byte by byte

A byte below 0x80 is a character wherever it stands, even where a longer character is broken
off, and no longer character has so small a code.  So the reading of bytes falls apart at such
a byte into the readings before and after it.  The encoding of a text is read back as the
text.
-/

namespace BootScript.Text

/-! ## The first byte of a character -/

theorem toNat_and_of_mask {mask : UInt8} {width : Nat} (low : mask.toNat = 2 ^ width - 1)
    (byte : UInt8) : (byte &&& mask).toNat = byte.toNat % 2 ^ width := by
  rw [UInt8.toNat_and, low, Nat.and_two_pow_sub_one_eq_mod]

/-- What a byte begins: a character of one to four bytes, or none.  The second byte is bounded
more tightly where the first leaves room for overlong forms, surrogates or codes that are too
large. -/
inductive Begins (byte : UInt8) : List Piece × Option Pending → Prop
  | ascii (small : byte.toNat < 0x80) :
      Begins byte ([.character (Char.ofNat byte.toNat)], none)
  | two {value : Nat} {least greatest : UInt8} (leads : value + 0xc0 = byte.toNat)
      (codes : 2 ≤ value ∧ value < 0x20) (low : least.toNat = 0x80)
      (high : greatest.toNat = 0xbf) :
      Begins byte ([], some ⟨[byte], value, 0, least, greatest⟩)
  | three {value : Nat} {least greatest : UInt8} (leads : value + 0xe0 = byte.toNat)
      (codes : value < 0x10)
      (low : least.toNat = 0xa0 ∧ value = 0 ∨ least.toNat = 0x80 ∧ value ≠ 0)
      (high : greatest.toNat = 0x9f ∧ value = 0xd ∨ greatest.toNat = 0xbf ∧ value ≠ 0xd) :
      Begins byte ([], some ⟨[byte], value, 1, least, greatest⟩)
  | four {value : Nat} {least greatest : UInt8} (leads : value + 0xf0 = byte.toNat)
      (codes : value < 5)
      (low : least.toNat = 0x90 ∧ value = 0 ∨ least.toNat = 0x80 ∧ value ≠ 0)
      (high : greatest.toNat = 0x8f ∧ value = 4 ∨ greatest.toNat = 0xbf ∧ value ≠ 4) :
      Begins byte ([], some ⟨[byte], value, 2, least, greatest⟩)
  | stray (odd : 0x80 ≤ byte.toNat ∧ byte.toNat < 0xc2 ∨ 0xf5 ≤ byte.toNat) :
      Begins byte ([.stray [byte]], none)

theorem begins (byte : UInt8) : Begins byte (beginCharacter byte) := by
  have five : (byte &&& 0x1f).toNat = byte.toNat % 32 := @toNat_and_of_mask 0x1f 5 rfl byte
  have four : (byte &&& 0x0f).toNat = byte.toNat % 16 := @toNat_and_of_mask 0x0f 4 rfl byte
  have three : (byte &&& 0x07).toNat = byte.toNat % 8 := @toNat_and_of_mask 0x07 3 rfl byte
  have below := byte.toNat_lt
  unfold beginCharacter
  simp only [UInt8.lt_iff_toNat_lt, ← UInt8.toNat_inj, five, four, three, UInt8.toNat_ofNat]
  split
  · exact .ascii (by omega)
  split
  · exact .stray (by omega)
  split
  · exact .two (by omega) (by omega) rfl rfl
  split
  · exact .three (by omega) (by omega) (.inl ⟨rfl, by omega⟩) (.inr ⟨rfl, by omega⟩)
  split
  · exact .three (by omega) (by omega) (.inr ⟨rfl, by omega⟩) (.inl ⟨rfl, by omega⟩)
  split
  · exact .three (by omega) (by omega) (.inr ⟨rfl, by omega⟩) (.inr ⟨rfl, by omega⟩)
  split
  · exact .four (by omega) (by omega) (.inl ⟨rfl, by omega⟩) (.inr ⟨rfl, by omega⟩)
  split
  · exact .four (by omega) (by omega) (.inr ⟨rfl, by omega⟩) (.inr ⟨rfl, by omega⟩)
  split
  · exact .four (by omega) (by omega) (.inr ⟨rfl, by omega⟩) (.inl ⟨rfl, by omega⟩)
  · exact .stray (by omega)

/-! ## Characters that are not complete -/

namespace Pending

/-- The least code of a character that a pending one can become. -/
def floor (pending : Pending) : Nat :=
  (pending.value * 64 + (pending.least.toNat - 0x80)) * 64 ^ pending.later

/-- What is greater than the code of every character that a pending one can become. -/
def ceiling (pending : Pending) : Nat :=
  (pending.value * 64 + (pending.greatest.toNat - 0x80) + 1) * 64 ^ pending.later

/-- Whatever completes the pending character gives a code that is valid and not ASCII, and no
ASCII byte continues it. -/
structure Sound (pending : Pending) : Prop where
  least_le : 0x80 ≤ pending.least.toNat
  ordered : pending.least.toNat ≤ pending.greatest.toNat
  greatest_le : pending.greatest.toNat ≤ 0xbf
  beyond : 0x80 ≤ pending.floor
  valid : pending.ceiling ≤ 0xd800 ∨ 0xe000 ≤ pending.floor ∧ pending.ceiling ≤ 0x110000

variable {pending : Pending} {byte : UInt8}

theorem accepts_iff :
    pending.accepts byte = true ↔
      pending.least.toNat ≤ byte.toNat ∧ byte.toNat ≤ pending.greatest.toNat := by
  simp [accepts, UInt8.le_iff_toNat_le]

theorem Sound.not_accepts (sound : pending.Sound) (ascii : byte.toNat < 0x80) :
    pending.accepts byte = false := by
  rw [Bool.eq_false_iff, ne_eq, accepts_iff]
  have least := sound.least_le
  omega

/-- The code after one more byte. -/
def code (pending : Pending) (byte : UInt8) : Nat :=
  pending.value * 64 + (byte.toNat - 0x80)

theorem Sound.code_eq (sound : pending.Sound) (accepts : pending.accepts byte = true) :
    pending.value * 64 + (byte &&& 0x3f).toNat = pending.code byte := by
  obtain ⟨low, high⟩ := accepts_iff.mp accepts
  have least := sound.least_le
  have greatest := sound.greatest_le
  have six : (byte &&& 0x3f).toNat = byte.toNat % 64 := @toNat_and_of_mask 0x3f 6 rfl byte
  unfold code
  omega

theorem floor_le_code (accepts : pending.accepts byte = true) :
    pending.floor ≤ pending.code byte * 64 ^ pending.later := by
  obtain ⟨low, -⟩ := accepts_iff.mp accepts
  unfold floor code
  exact Nat.mul_le_mul_right _ (by omega)

theorem code_lt_ceiling (accepts : pending.accepts byte = true) :
    (pending.code byte + 1) * 64 ^ pending.later ≤ pending.ceiling := by
  obtain ⟨-, high⟩ := accepts_iff.mp accepts
  unfold ceiling code
  exact Nat.mul_le_mul_right _ (by omega)

end Pending

/-- What is pending, if anything is. -/
def Sound (pending : Option Pending) : Prop :=
  ∀ unfinished ∈ pending, unfinished.Sound

theorem sound_none : Sound none :=
  nofun

theorem Begins.sound {byte : UInt8} {read : List Piece × Option Pending}
    (begins : Begins byte read) : Sound read.2 := by
  cases begins with
  | ascii | stray => exact sound_none
  | two leads codes low high =>
      rintro _ ⟨⟩
      constructor <;> simp only [Pending.floor, Pending.ceiling] <;> omega
  | three leads codes low high =>
      rintro _ ⟨⟩
      constructor <;> simp only [Pending.floor, Pending.ceiling] <;> omega
  | four leads codes low high =>
      rintro _ ⟨⟩
      constructor <;> simp only [Pending.floor, Pending.ceiling] <;> omega

/-! ## The next byte -/

section Reading

variable {pending : Pending} {waiting : Option Pending} {byte : UInt8}

/-- The pending character after one more byte that continues it. -/
def Pending.extend (pending : Pending) (byte : UInt8) (later : Nat) : Pending where
  seen := byte :: pending.seen
  value := pending.code byte
  later := later
  least := 0x80
  greatest := 0xbf

theorem readByte_of_last (sound : pending.Sound) (accepts : pending.accepts byte = true)
    (last : pending.later = 0) :
    readByte (some pending) byte = ([.character (Char.ofNat (pending.code byte))], none) := by
  simp only [readByte, accepts, if_true, sound.code_eq accepts, last]

theorem readByte_of_more (sound : pending.Sound) (accepts : pending.accepts byte = true)
    {later : Nat} (more : pending.later = later + 1) :
    readByte (some pending) byte = ([], some (pending.extend byte later)) := by
  simp only [readByte, accepts, if_true, sound.code_eq accepts, more, Pending.extend]

theorem readByte_of_not_accepts (accepts : pending.accepts byte = false) :
    readByte (some pending) byte =
      (pending.stray :: (beginCharacter byte).1, (beginCharacter byte).2) := by
  simp only [readByte, accepts, Bool.false_eq_true, if_false]

theorem Pending.floor_extend (later : Nat) :
    (pending.extend byte later).floor = pending.code byte * 64 ^ (later + 1) := by
  have least : (0x80 : UInt8).toNat = 0x80 := rfl
  simp only [floor, Pending.extend, least, Nat.sub_self, Nat.add_zero, Nat.mul_assoc,
    Nat.pow_succ']

theorem Pending.ceiling_extend (later : Nat) :
    (pending.extend byte later).ceiling = (pending.code byte + 1) * 64 ^ (later + 1) := by
  have greatest : (0xbf : UInt8).toNat - 0x80 + 1 = 64 := rfl
  calc (pending.extend byte later).ceiling
      = (pending.code byte * 64 + 64) * 64 ^ later := by
        simp only [ceiling, Pending.extend, Nat.add_assoc, greatest]
    _ = (pending.code byte + 1) * 64 ^ (later + 1) := by
        rw [← Nat.succ_mul, Nat.mul_assoc, Nat.pow_succ']

theorem Pending.Sound.extend (sound : pending.Sound) (accepts : pending.accepts byte = true)
    {later : Nat} (more : pending.later = later + 1) : (pending.extend byte later).Sound := by
  have low := Pending.floor_le_code accepts
  have high := Pending.code_lt_ceiling accepts
  rw [more, ← floor_extend] at low
  rw [more, ← ceiling_extend] at high
  have beyond := sound.beyond
  have valid := sound.valid
  exact ⟨Nat.le_refl _, show 0x80 ≤ 0xbf by decide, Nat.le_refl _, by omega, by omega⟩

theorem sound_readByte (sound : Sound waiting) (byte : UInt8) :
    Sound (readByte waiting byte).2 := by
  cases waiting with
  | none => exact (begins byte).sound
  | some pending =>
      have unfinished : pending.Sound := sound pending rfl
      by_cases accepts : pending.accepts byte = true
      · cases more : pending.later with
        | zero =>
            rw [readByte_of_last unfinished accepts more]
            exact sound_none
        | succ later =>
            rw [readByte_of_more unfinished accepts more]
            rintro _ ⟨⟩
            exact unfinished.extend accepts more
      · rw [readByte_of_not_accepts (Bool.eq_false_iff.mpr accepts)]
        exact (begins byte).sound

theorem beginCharacter_of_ascii (ascii : byte.toNat < 0x80) :
    beginCharacter byte = ([.character (Char.ofNat byte.toNat)], none) := by
  have read := begins byte
  generalize beginCharacter byte = outcome at read
  cases read with
  | ascii => rfl
  | _ => omega

/-- An ASCII byte breaks a pending character off and is read as itself. -/
theorem readByte_of_ascii (sound : Sound waiting) (ascii : byte.toNat < 0x80) :
    readByte waiting byte =
      (waiting.toList.map Pending.stray ++ [.character (Char.ofNat byte.toNat)], none) := by
  cases waiting with
  | none => exact beginCharacter_of_ascii ascii
  | some pending =>
      rw [readByte_of_not_accepts ((sound pending rfl).not_accepts ascii),
        beginCharacter_of_ascii ascii]
      rfl

theorem Pending.Sound.beyond_code (sound : pending.Sound)
    (accepts : pending.accepts byte = true) (last : pending.later = 0) :
    0x80 ≤ pending.code byte := by
  have low := Pending.floor_le_code accepts
  simp only [last, Nat.pow_zero, Nat.mul_one] at low
  exact sound.beyond.trans low

/-- The code of a completed character is its own. -/
theorem Pending.Sound.toNat_code (sound : pending.Sound) (accepts : pending.accepts byte = true)
    (last : pending.later = 0) : (Char.ofNat (pending.code byte)).toNat = pending.code byte := by
  have low := Pending.floor_le_code accepts
  have high := Pending.code_lt_ceiling accepts
  rw [last, Nat.pow_zero, Nat.mul_one] at low high
  have valid : (pending.code byte).isValidChar := by
    have range := sound.valid
    unfold Nat.isValidChar
    omega
  rw [Char.ofNat, dif_pos valid]
  rfl

/-- A character that is read at a byte is the byte itself or lies beyond ASCII. -/
theorem character_readByte (sound : Sound waiting) {character : Char}
    (read : .character character ∈ (readByte waiting byte).1) :
    byte.toNat < 0x80 ∧ character = Char.ofNat byte.toNat ∨ 0x80 ≤ character.toNat := by
  have begun (read : .character character ∈ (beginCharacter byte).1) :
      byte.toNat < 0x80 ∧ character = Char.ofNat byte.toNat := by
    have started := begins byte
    generalize beginCharacter byte = outcome at started read
    cases started with
    | ascii small => exact ⟨small, by simpa using read⟩
    | _ => simp at read
  cases waiting with
  | none => exact .inl (begun read)
  | some pending =>
      have unfinished : pending.Sound := sound pending rfl
      by_cases accepts : pending.accepts byte = true
      · cases more : pending.later with
        | zero =>
            rw [readByte_of_last unfinished accepts more] at read
            rw [Piece.character.inj (List.mem_singleton.mp read),
              unfinished.toNat_code accepts more]
            exact .inr (unfinished.beyond_code accepts more)
        | succ later =>
            rw [readByte_of_more unfinished accepts more] at read
            exact absurd read List.not_mem_nil
      · rw [readByte_of_not_accepts (Bool.eq_false_iff.mpr accepts)] at read
        rcases List.mem_cons.mp read with stray | later
        · cases stray
        · exact .inl (begun later)

end Reading

/-! ## Bytes one after another -/

section Pieces

variable {waiting : Option Pending} {byte : UInt8}

theorem piecesFrom_eq (waiting : Option Pending) (done : List Piece) (bytes : Bytes) :
    piecesFrom waiting done bytes = done.reverse ++ piecesFrom waiting [] bytes := by
  induction bytes generalizing waiting done with
  | nil => simp [piecesFrom]
  | cons byte rest ih =>
      rw [piecesFrom, piecesFrom]
      dsimp only
      rw [ih _ (_ ++ done), ih _ (_ ++ [])]
      simp

theorem piecesFrom_cons (waiting : Option Pending) (byte : UInt8) (rest : Bytes) :
    piecesFrom waiting [] (byte :: rest) =
      (readByte waiting byte).1 ++ piecesFrom (readByte waiting byte).2 [] rest := by
  rw [piecesFrom]
  dsimp only
  rw [piecesFrom_eq]
  simp

theorem piecesFrom_append_ascii (sound : Sound waiting) (ascii : byte.toNat < 0x80)
    (bytes rest : Bytes) :
    piecesFrom waiting [] (bytes ++ byte :: rest) =
      piecesFrom waiting [] bytes ++ .character (Char.ofNat byte.toNat) :: pieces rest := by
  induction bytes generalizing waiting with
  | nil =>
      rw [List.nil_append, piecesFrom_cons, readByte_of_ascii sound ascii]
      cases waiting <;> simp [piecesFrom, pieces]
  | cons first bytes ih =>
      rw [List.cons_append, piecesFrom_cons, piecesFrom_cons, ih (sound_readByte sound first),
        List.append_assoc]

/-- An ASCII byte parts the bytes before it from the bytes after it. -/
theorem pieces_append_ascii (ascii : byte.toNat < 0x80) (bytes rest : Bytes) :
    pieces (bytes ++ byte :: rest) =
      pieces bytes ++ .character (Char.ofNat byte.toNat) :: pieces rest :=
  piecesFrom_append_ascii sound_none ascii bytes rest

theorem mem_piecesFrom (sound : Sound waiting) {bytes : Bytes} {character : Char}
    (read : .character character ∈ piecesFrom waiting [] bytes) :
    (∃ byte ∈ bytes, byte.toNat < 0x80 ∧ character = Char.ofNat byte.toNat) ∨
      0x80 ≤ character.toNat := by
  induction bytes generalizing waiting with
  | nil => cases waiting <;> simp [piecesFrom, Pending.stray] at read
  | cons first bytes ih =>
      rw [piecesFrom_cons] at read
      rcases List.mem_append.mp read with here | later
      · rcases character_readByte sound here with itself | beyond
        · exact .inl ⟨first, List.mem_cons_self, itself⟩
        · exact .inr beyond
      · rcases ih (sound_readByte sound first) later with ⟨byte, member, itself⟩ | beyond
        · exact .inl ⟨byte, List.mem_cons_of_mem _ member, itself⟩
        · exact .inr beyond

end Pieces

/-! ## The bytes of a text -/

section Encoding

variable {pending : Pending}

/-- The last bytes of a longer character, six bits of its code in each. -/
def continuation (code : Nat) : Nat → Bytes
  | 0 => [UInt8.ofNat (code % 64 + 0x80)]
  | later + 1 => UInt8.ofNat (code / 64 ^ (later + 1) % 64 + 0x80) :: continuation code later

/-- The pending character can still become the one with this code. -/
structure Pending.Awaits (pending : Pending) (code : Nat) : Prop where
  value : pending.value = code / 64 ^ (pending.later + 1)
  low : pending.floor ≤ code
  high : code < pending.ceiling

theorem Pending.Awaits.next {code : Nat} (sound : pending.Sound) (awaits : pending.Awaits code) :
    pending.accepts (UInt8.ofNat (code / 64 ^ pending.later % 64 + 0x80)) = true ∧
      pending.code (UInt8.ofNat (code / 64 ^ pending.later % 64 + 0x80)) =
        code / 64 ^ pending.later := by
  have positive : 0 < 64 ^ pending.later := Nat.pow_pos (by decide)
  have value : pending.value = code / 64 ^ pending.later / 64 := by
    rw [awaits.value, Nat.pow_succ, Nat.div_div_eq_div_mul]
  have low := awaits.low
  rw [floor, ← Nat.le_div_iff_mul_le positive] at low
  have high := awaits.high
  rw [ceiling, ← Nat.div_lt_iff_lt_mul positive] at high
  have least := sound.least_le
  have ordered := sound.ordered
  generalize code / 64 ^ pending.later = quotient at value low high ⊢
  have byte : (UInt8.ofNat (quotient % 64 + 0x80)).toNat = quotient % 64 + 0x80 :=
    UInt8.toNat_ofNat_of_lt' (by unfold UInt8.size; omega)
  unfold Pending.code
  rw [accepts_iff, byte]
  omega

theorem Pending.Awaits.extend {code later : Nat} {byte : UInt8}
    (more : pending.code byte = code / 64 ^ (later + 1)) :
    (pending.extend byte later).Awaits code where
  value := more
  low := by
    rw [floor_extend, more]
    exact Nat.div_mul_le_self _ _
  high := by
    rw [ceiling_extend, more]
    rw [Nat.mul_comm]
    exact Nat.lt_mul_div_succ _ (Nat.pow_pos (by decide))

/-- The bytes that are missing complete the character. -/
theorem piecesFrom_continuation {code later : Nat} (sound : pending.Sound)
    (awaits : pending.Awaits code) (missing : pending.later = later) (rest : Bytes) :
    piecesFrom (some pending) [] (continuation code later ++ rest) =
      .character (Char.ofNat code) :: pieces rest := by
  induction later generalizing pending with
  | zero =>
      obtain ⟨accepts, last⟩ := awaits.next sound
      rw [missing, Nat.pow_zero, Nat.div_one] at accepts last
      rw [continuation, List.singleton_append, piecesFrom_cons,
        readByte_of_last sound accepts missing, last]
      rfl
  | succ later ih =>
      obtain ⟨accepts, more⟩ := awaits.next sound
      rw [missing] at accepts more
      rw [continuation, List.cons_append, piecesFrom_cons,
        readByte_of_more sound accepts missing, List.nil_append]
      exact ih (sound.extend accepts missing) (.extend more) rfl

/-- The first byte of a code and the number of bytes after the next one. -/
def LedBy (code lead later : Nat) : Prop :=
  lead = code / 64 + 0xc0 ∧ later = 0 ∧ code < 0x800 ∨
    lead = code / 4096 + 0xe0 ∧ later = 1 ∧ 0x800 ≤ code ∧ code < 0x10000 ∨
    lead = code / 262144 + 0xf0 ∧ later = 2 ∧ 0x10000 ≤ code

theorem LedBy.exists_pending {code later : Nat} {lead : UInt8}
    (led : LedBy code lead.toNat later) (beyond : 0x80 ≤ code) (valid : code.isValidChar) :
    ∃ pending, pending.later = later ∧ beginCharacter lead = ([], some pending) ∧
      pending.Awaits code := by
  unfold LedBy at led
  unfold Nat.isValidChar at valid
  have begun := begins lead
  generalize read : beginCharacter lead = outcome at begun
  cases begun with
  | ascii | stray => omega
  | @two value _ _ leads codes low high =>
      obtain ⟨rfl, rfl, -⟩ : later = 0 ∧ value = code / 64 ∧ code < 0x800 := by omega
      refine ⟨_, rfl, rfl, ?_, ?_, ?_⟩ <;>
        simp only [Pending.floor, Pending.ceiling, low, high] <;> omega
  | @three value _ _ leads codes low high =>
      clear beyond
      obtain ⟨rfl, rfl, long, short⟩ :
        later = 1 ∧ value = code / 4096 ∧ 0x800 ≤ code ∧ code < 0x10000 := by omega
      clear led
      refine ⟨_, rfl, rfl, ?_, ?_, ?_⟩ <;>
        simp only [Pending.floor, Pending.ceiling] <;> omega
  | @four value _ _ leads codes low high =>
      clear beyond
      obtain ⟨rfl, rfl, long⟩ : later = 2 ∧ value = code / 262144 ∧ 0x10000 ≤ code := by omega
      clear led
      refine ⟨_, rfl, rfl, ?_, ?_, ?_⟩ <;>
        simp only [Pending.floor, Pending.ceiling] <;> omega

/-- A character beyond ASCII is spelt with a first byte that is waiting for the other ones. -/
theorem exists_lead {character : Char} (beyond : 0x80 ≤ character.toNat) :
    ∃ lead later, String.utf8EncodeChar character =
        lead :: continuation character.toNat later ∧
      LedBy character.toNat lead.toNat later := by
  have valid : character.toNat.isValidChar := character.valid
  unfold Nat.isValidChar at valid
  unfold String.utf8EncodeChar LedBy
  rw [Char.toNat_val]
  generalize character.toNat = code at beyond valid ⊢
  have byte {value : Nat} (small : value < 256) : (UInt8.ofNat value).toNat = value :=
    UInt8.toNat_ofNat_of_lt' small
  dsimp only
  rw [if_neg (by omega)]
  split
  · exact ⟨_, 0, rfl, .inl (by rw [byte] <;> omega)⟩
  split
  · exact ⟨_, 1, rfl, .inr (.inl (by rw [byte] <;> omega))⟩
  · exact ⟨_, 2, rfl, .inr (.inr (by rw [byte] <;> omega))⟩

theorem pieces_encodeChar (character : Char) (rest : Bytes) :
    pieces (String.utf8EncodeChar character ++ rest) = .character character :: pieces rest := by
  by_cases ascii : character.toNat < 0x80
  · have byte : (UInt8.ofNat character.toNat).toNat = character.toNat :=
      UInt8.toNat_ofNat_of_lt' (by unfold UInt8.size; omega)
    have spelt : String.utf8EncodeChar character = [UInt8.ofNat character.toNat] := by
      unfold String.utf8EncodeChar
      rw [Char.toNat_val]
      exact if_pos (by omega)
    have parted := pieces_append_ascii (byte.trans_lt ascii) [] rest
    rwa [byte, Char.ofNat_toNat, List.nil_append, ← List.singleton_append, ← spelt] at parted
  · have beyond := Nat.le_of_not_lt ascii
    obtain ⟨lead, later, spelt, led⟩ := exists_lead beyond
    obtain ⟨pending, missing, begun, awaits⟩ := led.exists_pending beyond character.valid
    have sound : pending.Sound := by
      have begins := (begins lead).sound
      rw [begun] at begins
      exact begins pending rfl
    rw [spelt, List.cons_append, pieces, piecesFrom_cons]
    change (beginCharacter lead).1 ++ piecesFrom (beginCharacter lead).2 [] _ = _
    rw [begun, List.nil_append, piecesFrom_continuation sound awaits missing, Char.ofNat_toNat]

theorem encode_eq (text : String) : encode text = text.toList.flatMap String.utf8EncodeChar := by
  conv => lhs; rw [← @String.ofList_toList text]
  rw [encode, String.toUTF8_eq_toByteArray, String.toByteArray_ofList, List.utf8Encode,
    List.data_toByteArray]

theorem encode_ne_nil {text : String} (some : text ≠ "") : encode text ≠ [] := by
  intro none
  have empty : text.toByteArray.size = 0 := congrArg List.length none
  rw [String.size_toByteArray, String.utf8ByteSize_eq_zero_iff] at empty
  exact some empty

theorem pieces_flatMap (characters : List Char) :
    pieces (characters.flatMap String.utf8EncodeChar) = characters.map .character := by
  induction characters with
  | nil => rfl
  | cons character rest ih =>
      rw [List.flatMap_cons, pieces_encodeChar, ih, List.map_cons]

/-- A text is read back from its bytes. -/
theorem lossy_encode (text : String) : lossy (encode text) = text := by
  have read : (text.toList.map Piece.character).map Piece.lossy = text.toList := by
    rw [List.map_map]
    exact List.map_id _
  rw [lossy, encode_eq, pieces_flatMap, read, String.ofList_toList]

end Encoding

end BootScript.Text
