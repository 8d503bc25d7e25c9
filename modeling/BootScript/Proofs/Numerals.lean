import BootScript.Text.Blank
import BootScript.Text.Numeral

/-!
# Numerals and their values

A numeral is one or more decimal digits after at most one sign.  This says so without the
reader of numerals, with the value of digits as the library defines it, and the reader accepts
the numerals and gives their values.  Every number is the value of its decimal form.
-/

namespace BootScript.Text

/-- Decimal digits, at least one. -/
def Digits (characters : List Char) : Prop :=
  characters ≠ [] ∧ ∀ character ∈ characters, character.isDigit = true

/-- Characters that write a number down.  Zeros may lead it. -/
inductive Numeral : List Char → Int → Prop
  | unsigned {digits : List Char} (some : Digits digits) :
      Numeral digits (Nat.ofDigitChars 10 digits 0)
  | positive {digits : List Char} (some : Digits digits) :
      Numeral ('+' :: digits) (Nat.ofDigitChars 10 digits 0)
  | negative {digits : List Char} (some : Digits digits) :
      Numeral ('-' :: digits) (-Nat.ofDigitChars 10 digits 0)

/-- What 32 bits can hold. -/
def Fits32 (number : Int) : Prop :=
  -2147483648 ≤ number ∧ number ≤ 2147483647

/-! ## Digits -/

theorem digitValue?_eq (character : Char) :
    digitValue? character =
      if character.isDigit then some (character.toNat - '0'.toNat) else none := by
  have same : ('0' ≤ character ∧ character ≤ '9') ↔ character.isDigit = true := by
    simp only [Char.isDigit, Bool.and_eq_true, decide_eq_true_eq]
    rfl
  simp only [digitValue?, same]

theorem mapM_digitValue? (characters : List Char) :
    characters.mapM digitValue? =
      if characters.all Char.isDigit then
        some (characters.map fun character => character.toNat - '0'.toNat)
      else none := by
  induction characters with
  | nil => rfl
  | cons first rest ih =>
      rw [List.mapM_cons, digitValue?_eq, ih]
      by_cases digit : first.isDigit = true
      · by_cases others : rest.all Char.isDigit = true
        · simp [digit, others]
        · simp [digit, others]
      · simp [digit]

theorem magnitude?_eq_some_iff {characters : List Char} {value : Nat} :
    magnitude? characters = some value ↔
      Digits characters ∧ value = Nat.ofDigitChars 10 characters 0 := by
  have total : (characters.map fun character => character.toNat - '0'.toNat).foldl
      (fun total value => total * 10 + value) 0 = Nat.ofDigitChars 10 characters 0 := by
    rw [List.foldl_map, Nat.ofDigitChars_eq_foldl]
    simp only [Nat.mul_comm]
  unfold magnitude? Digits
  rw [mapM_digitValue?, ← List.all_eq_true]
  by_cases none : characters = []
  · simp [none]
  · by_cases digits : characters.all Char.isDigit = true
    · rw [if_neg (by simpa using none), if_pos digits, Option.map_some, total]
      exact ⟨fun same => ⟨⟨none, digits⟩, (Option.some.inj same).symm⟩,
        fun ⟨_, same⟩ => congrArg some same.symm⟩
    · rw [if_neg (by simpa using none), if_neg digits]
      simp [digits]

/-! ## Numerals -/

/-- A sign is no digit, so a numeral starts in one way only. -/
theorem integer?_eq_some_iff {characters : List Char} {number : Int} :
    integer? characters = some number ↔ Numeral characters number := by
  constructor
  · intro read
    unfold integer? at read
    split at read
    all_goals
      obtain ⟨value, digits, rfl⟩ := Option.map_eq_some_iff.mp read
      obtain ⟨some, rfl⟩ := magnitude?_eq_some_iff.mp digits
    · exact .positive some
    · exact .negative some
    · exact .unsigned some
  · intro numeral
    cases numeral with
    | positive some | negative some =>
        simp only [integer?, magnitude?_eq_some_iff.mpr ⟨some, rfl⟩, Option.map_some]
        rfl
    | @unsigned digits some =>
        unfold integer?
        split
        · exact absurd (some.2 '+' List.mem_cons_self) (by decide)
        · exact absurd (some.2 '-' List.mem_cons_self) (by decide)
        · rw [magnitude?_eq_some_iff.mpr ⟨some, rfl⟩]
          rfl

theorem Numeral.unique {characters : List Char} {number other : Int}
    (numeral : Numeral characters number) (again : Numeral characters other) : number = other :=
  Option.some.inj
    ((integer?_eq_some_iff.mpr numeral).symm.trans (integer?_eq_some_iff.mpr again))

theorem toInt_ofInt_of_fits {number : Int} (fits : Fits32 number) :
    (Int32.ofInt number).toInt = number :=
  Int32.toInt_ofInt_of_le fits.1 (Int.lt_of_le_of_lt fits.2 (by decide))

theorem fits_toInt (status : Int32) : Fits32 status.toInt :=
  ⟨status.le_toInt, Int.le_of_lt_add_one status.toInt_lt⟩

theorem int32?_eq_some_iff {characters : List Char} {status : Int32} :
    int32? characters = some status ↔ Numeral characters status.toInt := by
  unfold int32?
  constructor
  · intro read
    split at read
    · next number found =>
        split at read
        · next fits =>
            obtain rfl := Option.some.inj read
            rw [toInt_ofInt_of_fits fits]
            exact integer?_eq_some_iff.mp found
        · cases read
    · cases read
  · intro numeral
    have fits : -2147483648 ≤ status.toInt ∧ status.toInt ≤ 2147483647 := fits_toInt status
    simp only [integer?_eq_some_iff.mpr numeral, if_pos fits, Int32.ofInt_toInt]

theorem int32?_eq_none_iff {characters : List Char} :
    int32? characters = none ↔ ∀ number, Numeral characters number → ¬Fits32 number := by
  rw [Option.eq_none_iff_forall_ne_some]
  constructor
  · intro none number numeral fits
    refine none (Int32.ofInt number) (int32?_eq_some_iff.mpr ?_)
    rwa [toInt_ofInt_of_fits fits]
  · intro none status read
    exact none _ (int32?_eq_some_iff.mp read) (fits_toInt status)

/-! ## Decimal forms -/

theorem digits_toDigits (number : Nat) : Digits (Nat.toDigits 10 number) :=
  ⟨Nat.toDigits_ne_nil, fun _ member =>
    Nat.isDigit_of_mem_toDigits (by decide) (by decide) member⟩

/-- A number is written as its digits, after a minus sign if it is negative. -/
theorem numeral_toString (number : Int) : Numeral (toString number).toList number := by
  cases number with
  | ofNat number =>
      have form : (toString (Int.ofNat number)).toList = Nat.toDigits 10 number := Nat.toList_repr
      have numeral := Numeral.unsigned (digits_toDigits number)
      rw [Nat.ofDigitChars_ten_toDigits] at numeral
      rw [form]
      exact numeral
  | negSucc number =>
      have form : (toString (Int.negSucc number)).toList =
          '-' :: Nat.toDigits 10 (number + 1) := by
        have signed : toString (Int.negSucc number) = "-" ++ (number + 1).repr := rfl
        rw [signed, String.toList_append, Nat.toList_repr]
        rfl
      have numeral := Numeral.negative (digits_toDigits (number + 1))
      rw [Nat.ofDigitChars_ten_toDigits] at numeral
      rw [form]
      exact numeral

/-! ## Numerals as words -/

theorem isBlank_of_isDigit {character : Char} (digit : character.isDigit = true) :
    isBlank character = false := by
  simp only [Char.isDigit, Bool.and_eq_true, decide_eq_true_eq] at digit
  have least : 48 ≤ character.toNat := digit.1
  have greatest : character.toNat ≤ 57 := digit.2
  simp only [isBlank, Bool.or_eq_false_iff, Bool.and_eq_false_iff, decide_eq_false_iff_not]
  omega

/-- A numeral is one word. -/
theorem Numeral.solid {characters : List Char} {number : Int}
    (numeral : Numeral characters number) :
    characters ≠ [] ∧ ∀ character ∈ characters, isBlank character = false := by
  cases numeral with
  | unsigned some => exact ⟨some.1, fun _ member => isBlank_of_isDigit (some.2 _ member)⟩
  | positive some | negative some =>
      refine ⟨List.cons_ne_nil _ _, List.forall_mem_cons.mpr ⟨by decide, ?_⟩⟩
      exact fun _ member => isBlank_of_isDigit (some.2 _ member)

end BootScript.Text
