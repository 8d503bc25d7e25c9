import BootScript.Proofs.Logic
import BootScript.Proofs.Transcript
import BootScript.Proofs.Words

/-!
# What a shell complains of

A shell on a sink without a limit complains of a name that is no command or no image, of bad
arguments, or that there is nothing to boot.  The image layer gives it no cause as long as
its registry lists scripts alone and lets each of them go.  The first word of a complaint
tells it from all that the image layer could have said.
-/

namespace BootScript

/-! ## Failures that a shell finds by itself -/

/-- Failures that come neither from the image layer nor from the sink. -/
inductive ShellError.Ordinary : ShellError → Prop
  | unknownCommand {name : String}
      (word : ∀ character ∈ name.toList, Text.isBlank character = false) :
      Ordinary (.unknownCommand name)
  | invalidArgument {command : String} (reason : String)
      (word : ∀ character ∈ command.toList, Text.isBlank character = false) :
      Ordinary (.invalidArgument command reason)
  | imageNotFound (name : String) : Ordinary (.imageNotFound name)
  | noExecutableImage : Ordinary .noExecutableImage

/-- A text starts with a word and a space. -/
structure StartsWord (word : List Char) (text : String) : Prop where
  whole : ' ' ∉ word
  split : ∃ rest, text.toList = word ++ ' ' :: rest

section Words

variable {word other : List Char} {text : String}

theorem StartsWord.append (starts : StartsWord word text) (more : String) :
    StartsWord word (text ++ more) := by
  obtain ⟨whole, rest, split⟩ := starts
  refine ⟨whole, rest ++ more.toList, ?_⟩
  rw [String.toList_append, split, List.append_assoc, List.cons_append]

theorem StartsWord.takeWhile_eq (starts : StartsWord word text) :
    text.toList.takeWhile (· ≠ ' ') = word := by
  obtain ⟨whole, rest, split⟩ := starts
  have letters : ∀ character ∈ word, decide (character ≠ ' ') = true := by
    intro character member
    exact decide_eq_true (fun space => whole (space ▸ member))
  rw [split, List.takeWhile_append_of_pos letters, List.takeWhile_cons_of_neg (by decide),
    List.append_nil]

/-- A complaint starts with a word and a colon, or with a no. -/
theorem ShellError.Ordinary.startsWord {failure : ShellError} (ordinary : failure.Ordinary) :
    ∃ word, StartsWord word failure.message ∧ (word.getLast? = some ':' ∨ word = "no".toList) := by
  have named {name : String}
      (word : ∀ character ∈ name.toList, Text.isBlank character = false) :
      StartsWord (name.toList ++ [':']) (name ++ ": ") := by
    have spaceless : ' ' ∉ name.toList := fun member => absurd (word ' ' member) (by decide)
    refine ⟨by simp [spaceless], [], ?_⟩
    rw [String.toList_append, List.append_assoc]
    rfl
  cases ordinary with
  | @unknownCommand name word =>
      have split : ": command not found" = ": " ++ "command not found" := by decide +kernel
      have said : StartsWord (name.toList ++ [':']) (name ++ ": command not found") := by
        rw [split, ← String.append_assoc]
        exact (named word).append _
      exact ⟨_, said, .inl List.getLast?_concat⟩
  | invalidArgument reason word => exact ⟨_, (named word).append reason, .inl List.getLast?_concat⟩
  | imageNotFound name =>
      have no : StartsWord "no".toList "no such image: " :=
        ⟨by decide +kernel, "such image: ".toList, by decide +kernel⟩
      exact ⟨_, no.append name, .inr rfl⟩
  | noExecutableImage =>
      exact ⟨_, ⟨by decide +kernel, "executable image".toList, by decide +kernel⟩, .inr rfl⟩

/-- The image layer starts with words of its own. -/
theorem ImageError.startsWord (cause : ImageError) :
    ∃ word ∈ ["not".toList, "unknown".toList, "image".toList, "read".toList],
      StartsWord word cause.message := by
  have image : StartsWord "image".toList "image '" :=
    ⟨by decide +kernel, ['\''], by decide +kernel⟩
  cases cause with
  | formatMismatch format =>
      have starts : StartsWord "not".toList "not a recognised " :=
        ⟨by decide +kernel, "a recognised ".toList, by decide +kernel⟩
      exact ⟨_, by simp, (starts.append format).append _⟩
  | unknownFormat name =>
      have starts : StartsWord "unknown".toList "unknown image format: " :=
        ⟨by decide +kernel, "image format: ".toList, by decide +kernel⟩
      exact ⟨_, by simp, starts.append name⟩
  | outOfBounds offset length size =>
      have starts : StartsWord "read".toList "read of " :=
        ⟨by decide +kernel, "of ".toList, by decide +kernel⟩
      exact ⟨_, by simp, ((((starts.append _).append _).append _).append _).append _⟩
  | alreadyClassified name format => exact ⟨_, by simp, ((image.append _).append _).append _⟩
  | _ => exact ⟨_, by simp, (image.append _).append _⟩

end Words

theorem ShellError.Ordinary.message_ne {failure : ShellError} (ordinary : failure.Ordinary)
    (cause : ImageError) : failure.message ≠ cause.message := by
  intro same
  obtain ⟨word, starts, complains⟩ := ordinary.startsWord
  obtain ⟨other, member, blames⟩ := cause.startsWord
  obtain rfl : word = other := by
    rw [← starts.takeWhile_eq, ← blames.takeWhile_eq, same]
  have apart : ∀ other ∈ ["not".toList, "unknown".toList, "image".toList, "read".toList],
      other.getLast? ≠ some ':' ∧ other ≠ "no".toList := by decide +kernel
  obtain ⟨noColon, notNo⟩ := apart word member
  exact complains.elim noColon notNo

end BootScript
