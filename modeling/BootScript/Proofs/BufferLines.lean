import BootScript.Buffer.Line

/-!
# Lines of bytes

The lines that are copied out of a buffer one at a time, by offset, are the pieces of its
bytes between newlines.  A newline ends a line, so there is no empty piece after the last.
-/

namespace BootScript

/-! ## Searching for a byte -/

namespace Contents

variable {bytes : Array UInt8} {value : UInt8} {position count : Nat}

theorem firstFrom_eq_none_iff :
    firstFrom bytes value position count = none ↔
      ∀ place, position ≤ place → place < position + count → bytes[place]? ≠ some value := by
  induction count generalizing position with
  | zero => exact iff_of_true rfl fun place reached inside => by omega
  | succ count ih =>
      rw [firstFrom]
      by_cases here : bytes[position]? = some value
      · rw [if_pos here]
        exact iff_of_false (Option.some_ne_none _) fun absent =>
          absent position (Nat.le_refl _) (by omega) here
      · rw [if_neg here, ih]
        constructor
        · intro absent place reached inside
          rcases Nat.eq_or_lt_of_le reached with rfl | beyond
          · exact here
          · exact absent place beyond (by omega)
        · intro absent place beyond inside
          exact absent place (by omega) (by omega)

theorem firstFrom_eq_some_iff {place : Nat} :
    firstFrom bytes value position count = some place ↔
      position ≤ place ∧ place < position + count ∧ bytes[place]? = some value ∧
        ∀ earlier, position ≤ earlier → earlier < place → bytes[earlier]? ≠ some value := by
  induction count generalizing position with
  | zero => exact iff_of_false (Option.some_ne_none _).symm fun ⟨reached, inside, _⟩ => by omega
  | succ count ih =>
      rw [firstFrom]
      by_cases here : bytes[position]? = some value
      · rw [if_pos here, Option.some_inj]
        constructor
        · rintro rfl
          exact ⟨Nat.le_refl _, by omega, here, fun earlier reached before => by omega⟩
        · rintro ⟨reached, -, -, first⟩
          rcases Nat.eq_or_lt_of_le reached with same | beyond
          · exact same
          · exact absurd here (first position (Nat.le_refl _) beyond)
      · rw [if_neg here, ih]
        constructor
        · rintro ⟨beyond, inside, found, first⟩
          refine ⟨by omega, by omega, found, fun earlier reached before => ?_⟩
          rcases Nat.eq_or_lt_of_le reached with rfl | after
          · exact here
          · exact first earlier after before
        · rintro ⟨reached, inside, found, first⟩
          have apart : position ≠ place := by
            rintro rfl
            exact here found
          exact ⟨by omega, by omega, found, fun earlier beyond => first earlier (by omega)⟩

theorem firstFrom_eq_some {line later : Bytes} (absent : value ∉ line)
    (rest : bytes.toList.drop position = line ++ value :: later) (enough : line.length < count) :
    firstFrom bytes value position count = some (position + line.length) := by
  have byte (index : Nat) : bytes[position + index]? = (line ++ value :: later)[index]? := by
    rw [← rest, List.getElem?_drop, Array.getElem?_toList]
  refine firstFrom_eq_some_iff.mpr ⟨Nat.le_add_right _ _, by omega, ?_, ?_⟩
  · rw [byte, List.getElem?_append_right (Nat.le_refl _), Nat.sub_self, List.getElem?_cons_zero]
  · intro earlier reached before found
    obtain ⟨index, rfl⟩ := Nat.exists_eq_add_of_le reached
    rw [byte, List.getElem?_append_left (by omega)] at found
    exact absent (List.mem_of_getElem? found)

theorem firstFrom_eq_none (absent : value ∉ bytes.toList.drop position) :
    firstFrom bytes value position count = none := by
  refine firstFrom_eq_none_iff.mpr fun place reached _ found => absent ?_
  obtain ⟨index, rfl⟩ := Nat.exists_eq_add_of_le reached
  rw [← Array.getElem?_toList, ← List.getElem?_drop] at found
  exact List.mem_of_getElem? found

/-! ## Copying a range -/

/-- A copy succeeds if the range ends within the contents, counted without wrapping. -/
theorem read_eq (contents : Contents) (offset length : UInt64) :
    contents.read offset length =
      if offset.toNat + length.toNat ≤ contents.bytes.size then
        .ok ((contents.bytes.toList.drop offset.toNat).take length.toNat)
      else .error (.outOfBounds offset length contents.size) := by
  have bound := contents.size_lt
  have offsetBound := offset.toNat_lt
  have lengthBound := length.toNat_lt
  have refused : offset + length < offset ∨ contents.size < offset + length ↔
      ¬offset.toNat + length.toNat ≤ contents.bytes.size := by
    rw [UInt64.lt_iff_toNat_lt, UInt64.lt_iff_toNat_lt, toNat_size, UInt64.toNat_add]
    omega
  unfold Contents.read
  dsimp only
  by_cases inside : offset.toNat + length.toNat ≤ contents.bytes.size
  · have stop : (offset + length).toNat = offset.toNat + length.toNat := by
      rw [UInt64.toNat_add]
      omega
    rw [if_neg (fun wraps => refused.mp wraps inside), if_pos inside, Array.toList_extract,
      List.extract, stop, Nat.add_sub_cancel_left]
  · rw [if_pos (refused.mpr inside), if_neg inside]

end Contents

namespace Buffer

/-! ## Pieces between newlines -/

section Stops

variable {Symbol : Type} [DecidableEq Symbol] {stop : Symbol} {line : List Symbol}

theorem splitOn_of_not_mem (whole : stop ∉ line) : line.splitOn stop = [line] :=
  List.splitOnP_eq_singleton fun _ member =>
    beq_false_of_ne (ne_of_mem_of_not_mem member whole)

theorem splitOn_append (whole : stop ∉ line) (rest : List Symbol) :
    (line ++ stop :: rest).splitOn stop = line :: rest.splitOn stop :=
  List.splitOnP_append_cons_of_forall_mem
    (fun _ member => beq_false_of_ne (ne_of_mem_of_not_mem member whole)) stop
    (beq_self_eq_true stop) rest

end Stops

/-- The pieces of bytes between newlines, without an empty piece after the last newline. -/
def splitLines (bytes : Bytes) : List Bytes :=
  let pieces := bytes.splitOn newline
  if pieces.getLast? = some [] then pieces.dropLast else pieces

@[simp] theorem splitLines_nil : splitLines [] = [] := by
  decide

theorem splitLines_of_not_mem {line : Bytes} (whole : newline ∉ line) (some : line ≠ []) :
    splitLines line = [line] := by
  simp [splitLines, splitOn_of_not_mem whole, some]

theorem splitLines_append {line : Bytes} (whole : newline ∉ line) (rest : Bytes) :
    splitLines (line ++ newline :: rest) = line :: splitLines rest := by
  have some : rest.splitOn newline ≠ [] := List.splitOn_ne_nil newline rest
  simp only [splitLines, splitOn_append whole]
  rw [List.getLast?_cons_of_ne_nil some, List.dropLast_cons_of_ne_nil some]
  split <;> rfl

/-- A line ends before a newline or with the bytes. -/
def Ends (rest : Bytes) : Prop :=
  rest = [] ∨ ∃ later, rest = newline :: later

/-- One line is taken off at a time. -/
theorem exists_line {bytes : Bytes} (some : bytes ≠ []) :
    ∃ line rest, bytes = line ++ rest ∧ newline ∉ line ∧ Ends rest ∧
      splitLines bytes = line :: splitLines (rest.drop 1) := by
  by_cases ended : newline ∈ bytes
  · obtain ⟨line, later, rfl, whole⟩ := List.eq_append_cons_of_mem ended
    exact ⟨line, newline :: later, rfl, whole, .inr ⟨later, rfl⟩, splitLines_append whole later⟩
  · exact ⟨bytes, [], (List.append_nil _).symm, ended, .inl rfl, splitLines_of_not_mem ended some⟩

/-! ## Copying lines out -/

section Copying

variable {buffer : Buffer} {offset : UInt64} {line rest : Bytes}

theorem size_eq (bytes : buffer.contents.bytes.toList.drop offset.toNat = line ++ rest)
    (inside : offset.toNat < buffer.contents.bytes.size) :
    buffer.contents.bytes.size = offset.toNat + line.length + rest.length := by
  have length := congrArg List.length bytes
  rw [List.length_drop, List.length_append, Array.length_toList] at length
  omega

theorem lineEnd_eq (bytes : buffer.contents.bytes.toList.drop offset.toNat = line ++ rest)
    (whole : newline ∉ line) (ends : Ends rest)
    (inside : offset.toNat < buffer.contents.bytes.size) :
    (buffer.lineEnd offset).toNat = offset.toNat + line.length := by
  have bound := buffer.contents.size_lt
  have length := size_eq bytes inside
  have size : buffer.size.toNat = buffer.contents.bytes.size := Contents.toNat_size _
  have search : buffer.indexOf? newline offset buffer.size =
      (Contents.firstFrom buffer.contents.bytes newline offset.toNat
        (buffer.contents.bytes.size - offset.toNat)).map UInt64.ofNat := by
    rw [indexOf?, Contents.indexOf?]
    simp [Buffer.size]
  rw [lineEnd, search]
  rcases ends with rfl | ⟨later, rfl⟩
  · rw [List.append_nil] at bytes
    rw [Contents.firstFrom_eq_none (bytes ▸ whole), Option.map_none, Option.getD_none, size]
    simp only [List.length_nil] at length
    omega
  · rw [List.length_cons] at length
    rw [Contents.firstFrom_eq_some whole bytes (by omega), Option.map_some, Option.getD_some,
      UInt64.toNat_ofNat']
    omega

theorem toNat_lineEnd_sub (bytes : buffer.contents.bytes.toList.drop offset.toNat = line ++ rest)
    (whole : newline ∉ line) (ends : Ends rest)
    (inside : offset.toNat < buffer.contents.bytes.size) :
    (buffer.lineEnd offset - offset).toNat = line.length := by
  have stop := lineEnd_eq bytes whole ends inside
  have forward : offset ≤ buffer.lineEnd offset := by
    rw [UInt64.le_iff_toNat_le, stop]
    exact Nat.le_add_right _ _
  rw [UInt64.toNat_sub_of_le _ _ forward, stop, Nat.add_sub_cancel_left]

theorem read_eq (readable : buffer.readable = none) {length : UInt64}
    (bytes : buffer.contents.bytes.toList.drop offset.toNat = line ++ rest)
    (exact : length.toNat = line.length)
    (inside : offset.toNat + line.length ≤ buffer.contents.bytes.size) :
    buffer.read offset length = .ok line := by
  rw [Buffer.read, readable]
  dsimp only
  rw [Contents.read_eq, exact, if_pos inside, bytes, List.take_left]

/-- The length of the bytes must fit a word. -/
theorem startsWith_iff (readable : buffer.readable = none) (fits : line.length < UInt64.size) :
    buffer.startsWith line = true ↔ line <+: buffer.contents.bytes.toList := by
  have length : (UInt64.ofNat line.length).toNat = line.length := by
    rw [UInt64.toNat_ofNat', Nat.mod_eq_of_lt fits]
  rw [startsWith, Buffer.read, readable]
  dsimp only
  rw [Contents.read_eq, length, UInt64.toNat_zero, Nat.zero_add, List.drop_zero,
    List.prefix_iff_eq_take]
  split
  · next read =>
      split at read
      · obtain rfl := Except.ok.inj read
        rw [decide_eq_true_iff, eq_comm]
      · simp at read
  · next read =>
      split at read
      · simp at read
      · next outside =>
          have size : buffer.contents.bytes.toList.length = buffer.contents.bytes.size :=
            Array.length_toList
          have longer : (buffer.contents.bytes.toList.take line.length).length ≠ line.length := by
            rw [List.length_take, size]
            omega
          exact ⟨fun starts => absurd starts Bool.false_ne_true,
            fun taken => absurd (congrArg List.length taken).symm longer⟩

theorem nextLine?_eq (readable : buffer.readable = none)
    (bytes : buffer.contents.bytes.toList.drop offset.toNat = line ++ rest)
    (whole : newline ∉ line) (ends : Ends rest)
    (inside : offset.toNat < buffer.contents.bytes.size) :
    ∃ next, buffer.nextLine? offset = some (.ok (cutAtZero line), next) ∧
      next.toNat = offset.toNat + line.length + 1 := by
  have bound := buffer.contents.size_lt
  have length := size_eq bytes inside
  have taken := toNat_lineEnd_sub bytes whole ends inside
  have more : ¬buffer.size ≤ offset := by
    rw [UInt64.le_iff_toNat_le, Buffer.size, Contents.toNat_size]
    omega
  have copied := read_eq readable bytes taken (by omega)
  refine ⟨offset + (buffer.lineEnd offset - offset) + 1, ?_, ?_⟩
  · rw [nextLine?, if_neg more]
    simp only [copied]
  · rw [UInt64.toNat_add, UInt64.toNat_add, taken]
    simp only [UInt64.toNat_one]
    omega

theorem linesFrom_eq (readable : buffer.readable = none) {done : List (Except ImageError Bytes)}
    {bound : Nat} (enough : buffer.contents.bytes.size ≤ offset.toNat + bound) :
    buffer.linesFrom offset done bound =
      done.reverse ++
        (splitLines (buffer.contents.bytes.toList.drop offset.toNat)).map fun line =>
          .ok (cutAtZero line) := by
  induction bound generalizing offset done with
  | zero =>
      rw [List.drop_of_length_le (by simpa using enough), splitLines_nil, linesFrom, List.map_nil,
        List.append_nil]
  | succ bound ih =>
      by_cases inside : offset.toNat < buffer.contents.bytes.size
      · have some : buffer.contents.bytes.toList.drop offset.toNat ≠ [] := by
          rw [ne_eq, List.drop_eq_nil_iff, Array.length_toList]
          omega
        obtain ⟨line, rest, bytes, whole, ends, split⟩ := exists_line some
        obtain ⟨next, taken, after⟩ := nextLine?_eq readable bytes whole ends inside
        have later : buffer.contents.bytes.toList.drop next.toNat = rest.drop 1 := by
          rw [after, Nat.add_assoc, ← List.drop_drop, bytes, List.drop_length_add_append]
        rw [linesFrom, taken, split, List.map_cons, ← later]
        dsimp only
        rw [ih (by omega), List.reverse_cons, List.append_assoc, List.singleton_append]
      · have stops : buffer.nextLine? offset = none := by
          rw [nextLine?, if_pos]
          rw [UInt64.le_iff_toNat_le, Buffer.size, Contents.toNat_size]
          omega
        rw [linesFrom, stops, List.drop_of_length_le (by simpa using inside), splitLines_nil,
          List.map_nil, List.append_nil]

/-- The lines of a buffer that can all be copied are the pieces between its newlines. -/
theorem lines_eq (readable : buffer.readable = none) :
    buffer.lines =
      (splitLines buffer.contents.bytes.toList).map fun line => .ok (cutAtZero line) := by
  have enough : buffer.contents.bytes.size ≤ (0 : UInt64).toNat + buffer.size.toNat := by
    rw [Buffer.size, Contents.toNat_size]
    exact Nat.le_add_left _ _
  rw [lines, linesFrom_eq readable enough]
  rfl

end Copying

/-! ## One copy after another -/

/-- The lines that copies from an offset on give, each from where the last one ended. -/
inductive Gives (buffer : Buffer) : UInt64 → List (Except ImageError Bytes) → Prop
  | ended {offset : UInt64} (none : buffer.nextLine? offset = none) : Gives buffer offset []
  | next {offset after : UInt64} {line : Except ImageError Bytes}
      {rest : List (Except ImageError Bytes)}
      (given : buffer.nextLine? offset = some (line, after)) (later : Gives buffer after rest) :
      Gives buffer offset (line :: rest)

section Giving

variable {buffer : Buffer} {offset next : UInt64} {line : Except ImageError Bytes}

theorem nextLine?_eq_none_iff :
    buffer.nextLine? offset = none ↔ buffer.contents.bytes.size ≤ offset.toNat := by
  have size : buffer.size ≤ offset ↔ buffer.contents.bytes.size ≤ offset.toNat := by
    rw [UInt64.le_iff_toNat_le, Buffer.size, Contents.toNat_size]
  rw [← size, nextLine?]
  split
  · simp_all
  · dsimp only
    split <;> simp_all

/-- Every copy goes on, whether it succeeds or not. -/
theorem lt_of_nextLine? (given : buffer.nextLine? offset = some (line, next)) :
    offset.toNat < next.toNat := by
  have bound := buffer.contents.size_lt
  have inside : offset.toNat < buffer.contents.bytes.size := by
    rw [← Nat.not_le, ← nextLine?_eq_none_iff, given]
    exact Option.some_ne_none _
  have some : buffer.contents.bytes.toList.drop offset.toNat ≠ [] := by
    rw [ne_eq, List.drop_eq_nil_iff, Array.length_toList]
    omega
  obtain ⟨piece, rest, bytes, whole, ends, -⟩ := exists_line some
  have length := size_eq bytes inside
  have taken := toNat_lineEnd_sub bytes whole ends inside
  have size : buffer.size.toNat = buffer.contents.bytes.size := Contents.toNat_size _
  rw [nextLine?, if_neg (by rw [UInt64.le_iff_toNat_le]; omega)] at given
  dsimp only at given
  split at given
  · obtain ⟨-, rfl⟩ := Prod.mk.inj (Option.some.inj given)
    rw [UInt64.toNat_add, UInt64.toNat_add, taken]
    simp only [UInt64.toNat_one]
    omega
  · obtain ⟨-, rfl⟩ := Prod.mk.inj (Option.some.inj given)
    omega

theorem gives_linesFrom {done : List (Except ImageError Bytes)} {bound : Nat}
    (enough : buffer.contents.bytes.size ≤ offset.toNat + bound) :
    ∃ rest, buffer.linesFrom offset done bound = done.reverse ++ rest ∧
      buffer.Gives offset rest := by
  induction bound generalizing offset done with
  | zero => exact ⟨[], (List.append_nil _).symm, .ended (nextLine?_eq_none_iff.mpr enough)⟩
  | succ bound ih =>
      cases given : buffer.nextLine? offset with
      | none =>
          refine ⟨[], ?_, .ended given⟩
          rw [linesFrom, given, List.append_nil]
      | some found =>
          obtain ⟨line, next⟩ := found
          have further := lt_of_nextLine? given
          obtain ⟨rest, lines, later⟩ := @ih next (line :: done) (by omega)
          refine ⟨line :: rest, ?_, .next given later⟩
          rw [linesFrom, given]
          dsimp only
          rw [lines, List.reverse_cons, List.append_assoc, List.singleton_append]

/-- The lines of a buffer are what copies from its start give, whether they can all be
made or not. -/
theorem gives_lines (buffer : Buffer) : buffer.Gives 0 buffer.lines := by
  have enough : buffer.contents.bytes.size ≤ (0 : UInt64).toNat + buffer.size.toNat := by
    rw [Buffer.size, Contents.toNat_size]
    exact Nat.le_add_left _ _
  obtain ⟨rest, lines, gives⟩ := @gives_linesFrom buffer 0 [] buffer.size.toNat enough
  rw [Buffer.lines, lines]
  exact gives

end Giving

end Buffer

end BootScript
