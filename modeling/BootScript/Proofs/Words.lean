import BootScript.Text.Blank

/-!
# Words of texts

A blank parts the words before it from the words after it, and no word has a blank in it.
-/

namespace BootScript.Text

theorem wordsOf_append {blank : Char} (parts : isBlank blank = true) (before after : List Char) :
    wordsOf (before ++ blank :: after) = wordsOf before ++ wordsOf after := by
  rw [wordsOf, List.splitOnP_append_cons before after parts, List.filter_append, wordsOf, wordsOf]

/-- Blanks before a text make no words. -/
theorem wordsOf_blanks_append {blanks : List Char}
    (blank : ∀ character ∈ blanks, isBlank character = true) (rest : List Char) :
    wordsOf (blanks ++ rest) = wordsOf rest := by
  induction blanks with
  | nil => rfl
  | cons character blanks ih =>
      obtain ⟨parts, others⟩ := List.forall_mem_cons.mp blank
      exact (wordsOf_append parts [] (blanks ++ rest)).trans (ih others)

/-- Blanks after a text, of which there is one at least, part it from the rest. -/
theorem wordsOf_append_blanks_append {blanks : List Char}
    (blank : ∀ character ∈ blanks, isBlank character = true) (some : blanks ≠ [])
    (before rest : List Char) :
    wordsOf (before ++ (blanks ++ rest)) = wordsOf before ++ wordsOf rest := by
  obtain ⟨character, others, rfl⟩ := List.exists_cons_of_ne_nil some
  obtain ⟨parts, further⟩ := List.forall_mem_cons.mp blank
  rw [List.cons_append, wordsOf_append parts, wordsOf_blanks_append further]

/-- Blanks after a text make no words either. -/
theorem wordsOf_append_blanks {blanks : List Char}
    (blank : ∀ character ∈ blanks, isBlank character = true) (before : List Char) :
    wordsOf (before ++ blanks) = wordsOf before := by
  by_cases none : blanks = []
  · rw [none, List.append_nil]
  · have parted := wordsOf_append_blanks_append blank none before []
    have empty : wordsOf [] = [] := rfl
    rwa [List.append_nil, empty, List.append_nil] at parted

theorem words_append (before after : String) :
    words (before ++ " " ++ after) = words before ++ words after := by
  have characters : (before ++ " " ++ after).toList = before.toList ++ ' ' :: after.toList := by
    simp [String.toList_append]
  rw [words, characters, wordsOf_append (by decide), List.map_append, words, words]

theorem words_of_word {word : String} (some : word ≠ "")
    (whole : ∀ character ∈ word.toList, isBlank character = false) : words word = [word] := by
  have kept : word.toList.isEmpty = false := by
    rw [List.isEmpty_eq_false_iff]
    exact mt String.toList_eq_nil_iff.mp some
  rw [words, wordsOf, List.splitOnP_eq_singleton whole]
  simp [kept, String.ofList_toList]

/-- Two words on a line, with blanks between them and around them. -/
theorem words_of_two_words {before first between second after : String}
    (words_first : words first = [first]) (words_second : words second = [second])
    (blank_before : ∀ character ∈ before.toList, isBlank character = true)
    (blank_between : ∀ character ∈ between.toList, isBlank character = true)
    (parted : between ≠ "")
    (blank_after : ∀ character ∈ after.toList, isBlank character = true) :
    words (before ++ first ++ between ++ second ++ after) = [first, second] := by
  have characters : (before ++ first ++ between ++ second ++ after).toList =
      before.toList ++ (first.toList ++ (between.toList ++ (second.toList ++ after.toList))) := by
    simp only [String.toList_append, List.append_assoc]
  have some : between.toList ≠ [] := mt String.toList_eq_nil_iff.mp parted
  rw [words, characters, wordsOf_blanks_append blank_before,
    wordsOf_append_blanks_append blank_between some, wordsOf_append_blanks blank_after,
    List.map_append, ← words, ← words, words_first, words_second]
  rfl

theorem isBlank_of_all {word : String}
    (solid : word.toList.all fun character => !isBlank character) :
    ∀ character ∈ word.toList, isBlank character = false := by
  simpa using solid

theorem isBlank_of_mem_splitOnP (characters : List Char) :
    ∀ piece ∈ characters.splitOnP isBlank, ∀ character ∈ piece, isBlank character = false := by
  induction characters with
  | nil => simp
  | cons character rest ih =>
      rw [List.splitOnP_cons_eq_if_modifyHead]
      split
      · exact List.forall_mem_cons.mpr ⟨nofun, ih⟩
      · next solid =>
          cases pieces : rest.splitOnP isBlank with
          | nil => exact nofun
          | cons piece others =>
              rw [pieces] at ih
              obtain ⟨here, later⟩ := List.forall_mem_cons.mp ih
              refine List.forall_mem_cons.mpr ⟨?_, later⟩
              exact List.forall_mem_cons.mpr ⟨Bool.eq_false_iff.mpr solid, here⟩

theorem ne_empty_of_mem_words {text word : String} (member : word ∈ words text) : word ≠ "" := by
  obtain ⟨piece, inside, rfl⟩ := List.mem_map.mp member
  have some : piece ≠ [] := by simpa using (List.mem_filter.mp inside).2
  exact mt (fun empty => by simpa using congrArg String.toList empty) some

theorem isBlank_of_mem_words {text word : String} (member : word ∈ words text) :
    ∀ character ∈ word.toList, isBlank character = false := by
  obtain ⟨piece, inside, rfl⟩ := List.mem_map.mp member
  rw [String.toList_ofList]
  exact isBlank_of_mem_splitOnP _ piece (List.mem_filter.mp inside).1

end BootScript.Text
