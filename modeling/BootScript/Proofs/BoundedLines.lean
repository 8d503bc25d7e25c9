import BootScript.Proofs.BufferLines
import Mathlib.Data.List.TakeWhile

/-!
# Lines up to a bound

Lines that are joined by newlines are given back by the copies from the start of a buffer
that holds them.  Where only a first part of the buffer can be copied, the first line that
reaches beyond that part is refused, and no more lines follow.  No word wraps around on the
way.
-/

namespace BootScript.Buffer

/-! ## Joining lines -/

/-- Lines one after another, each with a newline at its end. -/
def joinLines (lines : List Bytes) : Bytes :=
  lines.flatMap (· ++ [newline])

@[simp] theorem joinLines_nil : joinLines [] = [] := rfl

theorem joinLines_cons (line : Bytes) (lines : List Bytes) :
    joinLines (line :: lines) = line ++ newline :: joinLines lines := by
  simp [joinLines]

theorem length_joinLines_concat (lines : List Bytes) (line : Bytes) :
    (joinLines (lines ++ [line])).length = (joinLines lines).length + line.length + 1 := by
  simp [joinLines]
  omega

/-- Bytes that consist of the lines.  The newline after the last one may be missing, unless
that line is empty. -/
def Spells (lines : List Bytes) (bytes : Bytes) : Prop :=
  bytes = joinLines lines ∨
    ∃ before last, lines = before ++ [last] ∧ last ≠ [] ∧ bytes = joinLines before ++ last

theorem splitLines_joinLines_append {lines : List Bytes}
    (whole : ∀ line ∈ lines, newline ∉ line) (rest : Bytes) :
    splitLines (joinLines lines ++ rest) = lines ++ splitLines rest := by
  induction lines with
  | nil => rfl
  | cons line lines ih =>
      obtain ⟨here, others⟩ := List.forall_mem_cons.mp whole
      rw [joinLines_cons, List.append_assoc, List.cons_append, splitLines_append here, ih others,
        List.cons_append]

theorem Spells.splitLines_eq {lines : List Bytes} {bytes : Bytes} (spells : Spells lines bytes)
    (whole : ∀ line ∈ lines, newline ∉ line) : splitLines bytes = lines := by
  rcases spells with rfl | ⟨before, last, rfl, some, rfl⟩
  · simpa using splitLines_joinLines_append whole []
  · obtain ⟨earlier, ends⟩ := List.forall_mem_append.mp whole
    rw [splitLines_joinLines_append earlier,
      splitLines_of_not_mem (ends last List.mem_cons_self) some]

section Stops

variable {Symbol : Type} [DecidableEq Symbol] {stop : Symbol} {line : List Symbol}

theorem takeWhile_of_not_mem (whole : stop ∉ line) : line.takeWhile (· ≠ stop) = line := by
  rw [List.takeWhile_eq_self_iff]
  exact fun _ member => decide_eq_true (ne_of_mem_of_not_mem member whole)

theorem takeWhile_append (whole : stop ∉ line) (rest : List Symbol) :
    (line ++ stop :: rest).takeWhile (· ≠ stop) = line := by
  have passes : ∀ symbol ∈ line, decide (symbol ≠ stop) = true := fun _ member =>
    decide_eq_true (ne_of_mem_of_not_mem member whole)
  rw [List.takeWhile_append_of_pos passes, List.takeWhile_cons_of_neg (by simp), List.append_nil]

end Stops

theorem cutAtZero_of_not_mem {line : Bytes} (clean : 0 ∉ line) : cutAtZero line = line :=
  takeWhile_of_not_mem clean

/-! ## Reading within a bound -/

/-- Where a line ends that follows others. -/
def reach (before : List Bytes) (line : Bytes) : Nat :=
  (joinLines before).length + line.length

/-- Each of the lines ends within the bound, when they follow each other from the start. -/
def Fits (bound : Nat) (lines : List Bytes) : Prop :=
  ∀ before line later, lines = before ++ line :: later → reach before line ≤ bound

theorem fits_nil (bound : Nat) : Fits bound [] := by
  intro before line later same
  exact absurd same.symm (List.append_ne_nil_of_right_ne_nil before (List.cons_ne_nil line later))

theorem Fits.concat {bound : Nat} {lines : List Bytes} {line : Bytes} (fits : Fits bound lines)
    (inside : reach lines line ≤ bound) : Fits bound (lines ++ [line]) := by
  intro before other later same
  rcases List.eq_nil_or_concat later with rfl | ⟨earlier, last, rfl⟩
  · obtain ⟨rfl, ends⟩ := List.append_inj' same rfl
    obtain rfl : line = other := (List.cons.inj ends).1
    exact inside
  · rw [List.concat_eq_append, ← List.cons_append, ← List.append_assoc] at same
    exact fits before other earlier (List.append_inj' same rfl).1

/-- What copies give for pieces when only so many bytes can be copied: all of the pieces, or
those before the first that ends beyond the bound and one refusal for that one. -/
inductive GivenWithin (bound : UInt64) : List Bytes → List (Except ImageError Bytes) → Prop
  | complete {pieces : List Bytes} (fits : Fits bound.toNat pieces) :
      GivenWithin bound pieces (pieces.map fun line => .ok (cutAtZero line))
  | refused {within later : List Bytes} {line : Bytes} {offset length : UInt64}
      (fits : Fits bound.toNat within) (beyond : bound.toNat < reach within line)
      (starts : offset.toNat = (joinLines within).length) (measures : length.toNat = line.length) :
      GivenWithin bound (within ++ line :: later)
        ((within.map fun line => .ok (cutAtZero line)) ++
          [.error (.outOfBounds offset length bound)])

theorem Gives.unique {buffer : Buffer} {offset : UInt64}
    {items others : List (Except ImageError Bytes)} (gives : buffer.Gives offset items)
    (again : buffer.Gives offset others) : items = others := by
  induction gives generalizing others with
  | ended none =>
      cases again with
      | ended => rfl
      | next given => exact absurd (none.symm.trans given) (Option.some_ne_none _).symm
  | next given _ ih =>
      cases again with
      | ended none => exact absurd (none.symm.trans given) (Option.some_ne_none _).symm
      | next given' later =>
          obtain ⟨rfl, rfl⟩ := Prod.mk.inj (Option.some.inj (given.symm.trans given'))
          rw [ih later]

theorem gives_iff (buffer : Buffer) (items : List (Except ImageError Bytes)) :
    buffer.Gives 0 items ↔ items = buffer.lines :=
  ⟨fun gives => gives.unique buffer.gives_lines, fun same => same ▸ buffer.gives_lines⟩

section Bounded

variable {buffer : Buffer} {offset bound : UInt64} {line rest : Bytes}

theorem drop_eq_nil_iff :
    buffer.contents.bytes.toList.drop offset.toNat = [] ↔
      buffer.contents.bytes.size ≤ offset.toNat := by
  rw [List.drop_eq_nil_iff, Array.length_toList]

theorem splitLines_eq_nil_iff {bytes : Bytes} : splitLines bytes = [] ↔ bytes = [] := by
  constructor
  · intro none
    by_cases empty : bytes = []
    · exact empty
    · obtain ⟨line, rest, -, -, -, split⟩ := exists_line empty
      exact absurd (split.symm.trans none) (List.cons_ne_nil _ _)
  · rintro rfl
    exact splitLines_nil

/-- The copy of a line that ends within the bound does not see the bound. -/
theorem nextLine?_of_le (readable : buffer.readable = some bound)
    (bytes : buffer.contents.bytes.toList.drop offset.toNat = line ++ rest)
    (whole : newline ∉ line) (ends : Ends rest)
    (inside : offset.toNat < buffer.contents.bytes.size)
    (within : offset.toNat + line.length ≤ bound.toNat) :
    ∃ next, buffer.nextLine? offset = some (.ok (cutAtZero line), next) ∧
      next.toNat = offset.toNat + line.length + 1 := by
  let unbounded : Buffer := { buffer with readable := none }
  have taken := toNat_lineEnd_sub bytes whole ends inside
  have copies : buffer.read offset (buffer.lineEnd offset - offset) =
      unbounded.read offset (buffer.lineEnd offset - offset) := by
    have allowed : ¬bound.toNat < offset.toNat + (buffer.lineEnd offset - offset).toNat := by
      omega
    simp only [Buffer.read, readable, if_neg allowed, unbounded]
  have same : buffer.nextLine? offset = unbounded.nextLine? offset := by
    unfold nextLine?
    dsimp only
    rw [copies]
    rfl
  rw [same]
  exact @nextLine?_eq unbounded offset line rest rfl bytes whole ends inside

/-- A line that ends beyond the bound is refused, and the next copy would start at the end. -/
theorem nextLine?_of_lt (readable : buffer.readable = some bound)
    (bytes : buffer.contents.bytes.toList.drop offset.toNat = line ++ rest)
    (whole : newline ∉ line) (ends : Ends rest)
    (inside : offset.toNat < buffer.contents.bytes.size)
    (beyond : bound.toNat < offset.toNat + line.length) :
    ∃ length, buffer.nextLine? offset =
        some (.error (.outOfBounds offset length bound), buffer.size) ∧
      length.toNat = line.length := by
  have taken := toNat_lineEnd_sub bytes whole ends inside
  have more : ¬buffer.size ≤ offset := by
    rw [UInt64.le_iff_toNat_le, Buffer.size, Contents.toNat_size]
    omega
  have stops : buffer.read offset (buffer.lineEnd offset - offset) =
      .error (.outOfBounds offset (buffer.lineEnd offset - offset) bound) := by
    rw [Buffer.read, readable]
    dsimp only
    rw [if_pos (by omega)]
  refine ⟨buffer.lineEnd offset - offset, ?_, taken⟩
  rw [nextLine?, if_neg more]
  simp only [stops]

/-- The lines read so far fit the bound, and the copies go on after them. -/
theorem exists_given {before pieces : List Bytes} (readable : buffer.readable = some bound)
    (fits : Fits bound.toNat before) (starts : offset.toNat = (joinLines before).length)
    (left : splitLines (buffer.contents.bytes.toList.drop offset.toNat) = pieces) :
    ∃ items, buffer.Gives offset items ∧
      GivenWithin bound (before ++ pieces)
        ((before.map fun line => .ok (cutAtZero line)) ++ items) := by
  -- One piece goes from the pieces ahead to those behind with every copy that succeeds.
  induction pieces generalizing before offset with
  | nil =>
      have outside : buffer.contents.bytes.size ≤ offset.toNat :=
        drop_eq_nil_iff.mp (splitLines_eq_nil_iff.mp left)
      refine ⟨[], .ended (nextLine?_eq_none_iff.mpr outside), ?_⟩
      rw [List.append_nil, List.append_nil]
      exact .complete fits
  | cons piece pieces ih =>
      have some : buffer.contents.bytes.toList.drop offset.toNat ≠ [] := by
        rw [ne_eq, ← splitLines_eq_nil_iff, left]
        exact List.cons_ne_nil _ _
      have inside : offset.toNat < buffer.contents.bytes.size := by
        rwa [ne_eq, drop_eq_nil_iff, Nat.not_le] at some
      obtain ⟨line, rest, bytes, whole, ends, split⟩ := exists_line some
      obtain ⟨rfl, later⟩ := List.cons.inj (split.symm.trans left)
      by_cases within : offset.toNat + line.length ≤ bound.toNat
      · obtain ⟨next, copied, after⟩ := nextLine?_of_le readable bytes whole ends inside within
        have further : next.toNat = (joinLines (before ++ [line])).length := by
          rw [length_joinLines_concat, after, starts]
        have remaining : buffer.contents.bytes.toList.drop next.toNat = rest.drop 1 := by
          rw [after, Nat.add_assoc, ← List.drop_drop, bytes, List.drop_length_add_append]
        obtain ⟨items, gives, given⟩ := ih (fits.concat (by rw [reach, ← starts]; exact within))
          further (by rw [remaining, later])
        refine ⟨.ok (cutAtZero line) :: items, .next copied gives, ?_⟩
        rwa [List.map_append, List.append_assoc, List.append_assoc] at given
      · obtain ⟨length, refused, measures⟩ :=
          nextLine?_of_lt readable bytes whole ends inside (by omega)
        have atEnd : buffer.nextLine? buffer.size = none := by
          rw [nextLine?, if_pos (UInt64.le_refl _)]
        refine ⟨[.error (.outOfBounds offset length bound)], .next refused (.ended atEnd), ?_⟩
        exact .refused fits (by rw [reach, ← starts]; omega) starts measures

theorem givenWithin_lines (readable : buffer.readable = some bound) :
    GivenWithin bound (splitLines buffer.contents.bytes.toList) buffer.lines := by
  obtain ⟨items, gives, given⟩ :=
    @exists_given buffer 0 bound [] _ readable (fits_nil _) rfl rfl
  rwa [(gives_iff buffer items).mp gives] at given

end Bounded

/-! ## Words that do not wrap around -/

/-- The copy at an offset computes with words as with numbers: the length of its line, the
length with a byte more, where the line ends, and where the next copy starts. -/
structure Exact (buffer : Buffer) (offset : UInt64) : Prop where
  lineEnd_le : buffer.lineEnd offset ≤ buffer.size
  forward : offset ≤ buffer.lineEnd offset
  room : (buffer.lineEnd offset - offset).toNat + 1 < UInt64.size
  stop : offset.toNat + (buffer.lineEnd offset - offset).toNat = (buffer.lineEnd offset).toNat
  next : offset.toNat + (buffer.lineEnd offset - offset).toNat + 1 < UInt64.size

theorem exact_of_lt {buffer : Buffer} {offset : UInt64}
    (inside : offset.toNat < buffer.contents.bytes.size) : Exact buffer offset := by
  have bound := buffer.contents.size_lt
  have some : buffer.contents.bytes.toList.drop offset.toNat ≠ [] := by
    rwa [ne_eq, drop_eq_nil_iff, Nat.not_le]
  obtain ⟨line, rest, bytes, whole, ends, -⟩ := exists_line some
  have length := size_eq bytes inside
  have stop := lineEnd_eq bytes whole ends inside
  have taken := toNat_lineEnd_sub bytes whole ends inside
  have size : buffer.size.toNat = buffer.contents.bytes.size := Contents.toNat_size _
  have words : UInt64.size = 0x10000000000000000 := rfl
  constructor
  · rw [UInt64.le_iff_toNat_le]
    omega
  · rw [UInt64.le_iff_toNat_le]
    omega
  all_goals omega

/-! ## All lines -/

/-- The copies from the start of a buffer give the pieces between its newlines, each cut at
its first zero byte, as far as they can be copied. -/
theorem gives_pieces (contents : Contents) :
    let pieces := splitLines contents.bytes.toList
    let buffer (readable : Option UInt64) : Buffer := { contents, readable }
    (∀ readable items, (buffer readable).Gives 0 items ↔ items = (buffer readable).lines) ∧
      (buffer none).lines = (pieces.map fun line => .ok (cutAtZero line)) ∧
      (∀ lines, (∀ line ∈ lines, newline ∉ line ∧ 0 ∉ line) →
        Spells lines contents.bytes.toList → (buffer none).lines = lines.map .ok) ∧
      (∀ bound, GivenWithin bound pieces (buffer (some bound)).lines) ∧
      ∀ readable offset, (buffer readable).nextLine? offset ≠ none →
        Exact (buffer readable) offset := by
  intro pieces buffer
  refine ⟨fun readable => gives_iff (buffer readable), lines_eq rfl, ?_,
    fun bound => @givenWithin_lines (buffer (some bound)) bound rfl, ?_⟩
  · intro lines clean spells
    have split : pieces = lines := spells.splitLines_eq fun line member => (clean line member).1
    have all : (buffer none).lines = pieces.map fun line => .ok (cutAtZero line) := lines_eq rfl
    rw [all, split]
    apply List.map_congr_left
    intro line member
    rw [cutAtZero_of_not_mem (clean line member).2]
  · intro readable offset goesOn
    apply exact_of_lt
    rwa [ne_eq, nextLine?_eq_none_iff, Nat.not_le] at goesOn

/-- Of three lines the second ends at the seventh byte, and six bytes can be copied. -/
theorem gives_pieces_refused :
    let one : Bytes := [111, 110, 101]
    let two : Bytes := [116, 119, 111]
    let contents : Contents := ⟨#[111, 110, 101, 10, 116, 119, 111, 10, 10], by decide⟩
    let buffer (readable : Option UInt64) : Buffer := { contents, readable }
    (buffer none).lines = [one, two, []].map .ok ∧
      (buffer (some 6)).Gives 0 [.ok one, .error (.outOfBounds 4 3 6)] ∧
      GivenWithin 6 [one, two, []] (buffer (some 6)).lines ∧
      Exact (buffer (some 6)) 4 := by
  intro one two contents buffer
  obtain ⟨iterates, -, joined, within, exact⟩ := gives_pieces contents
  refine ⟨joined [one, two, []] (by decide) (.inl (by decide)),
    (iterates (some 6) _).mpr (by decide), within 6, exact (some 6) 4 (by decide)⟩

end BootScript.Buffer
