import BootScript.Image.Program
import BootScript.Proofs.Following
import BootScript.Script.Signature
import Mathlib.Data.List.Induction
import Mathlib.Data.List.TakeWhile

/-!
# Classification

However a set of formats was put together, those of normal priority come before the late
ones, and each kind in the order in which it was added.  The first format in this order
that does not answer with a mismatch decides about an image.  An image that is not
classified is left as it was, so the same formats give the same answer again.
-/

namespace BootScript

/-- The format leaves a buffer to others. -/
def Format.Mismatches (format : Format) (buffer : Buffer) : Prop :=
  ∃ named, format.recognise buffer = .error (.formatMismatch named)

theorem Format.probe_eq {format : Format} {image : Image} (untagged : image.format = none) :
    format.probe image =
      (format.recognise image.buffer).map fun _ => { image with format := some format } := by
  unfold Format.probe Image.setFormat
  cases format.recognise image.buffer <;> simp [untagged, Except.map]

namespace Formats

/-! ## The order of formats -/

section Order

variable {formats : Formats} {format : Format} {normal late : List Format}

/-- A normal format goes between the normal ones and the late ones. -/
theorem inOrder_add_normal (order : formats.inOrder = normal ++ late)
    (first : ∀ known ∈ normal, known.priority = .normal)
    (second : ∀ known ∈ late, known.priority = .late) (priority : format.priority = .normal) :
    (formats.add format).inOrder = (normal ++ [format]) ++ late := by
  have passes : ∀ known ∈ normal, decide (known.priority.rank ≤ format.priority.rank) = true := by
    intro known member
    rw [first known member, priority]
    rfl
  simp only [add, order, List.takeWhile_append_of_pos passes, List.dropWhile_append_of_pos passes]
  cases late with
  | nil => simp
  | cons known rest =>
      have stops : ¬known.priority.rank ≤ format.priority.rank := by
        rw [second known List.mem_cons_self, priority]
        decide
      simp [stops]

/-- Every format lets a late one pass. -/
theorem inOrder_add_late (priority : format.priority = .late) :
    (formats.add format).inOrder = formats.inOrder ++ [format] := by
  have passes : ∀ known ∈ formats.inOrder,
      decide (known.priority.rank ≤ format.priority.rank) = true := by
    intro known member
    rw [priority]
    cases known.priority <;> rfl
  simp only [add, List.takeWhile_eq_self_iff.mpr passes, List.dropWhile_eq_nil_iff.mpr passes]

theorem inOrder_foldl_add (added : List Format) :
    (added.foldl add empty).inOrder =
      added.filter (·.priority = .normal) ++ added.filter (·.priority = .late) := by
  induction added using List.reverseRecOn with
  | nil => rfl
  | append_singleton added format ih =>
      rw [List.foldl_append, List.foldl_cons, List.foldl_nil, List.filter_append,
        List.filter_append]
      cases priority : format.priority with
      | normal =>
          rw [inOrder_add_normal ih (by simp) (by simp) priority]
          simp [priority]
      | late =>
          rw [inOrder_add_late priority, ih]
          simp [priority]

example : ([.program "raw" .late none .accept 42, Script.format].foldl add empty).names =
    ["script", "raw"] := by decide

end Order

/-! ## The deciding format -/

/-- What comes of classifying an image by formats that are asked in order. -/
inductive Decides (inOrder : List Format) (image : Image) : Except ImageError Format → Prop
  | tagged {known : Format} (known_eq : image.format = some known) :
      Decides inOrder image (.error (.alreadyClassified image.name known.name))
  | accepts {earlier later : List Format} {format : Format} (untagged : image.format = none)
      (order : inOrder = earlier ++ format :: later)
      (passed : ∀ each ∈ earlier, each.Mismatches image.buffer)
      (recognised : format.recognise image.buffer = .ok ()) : Decides inOrder image (.ok format)
  | fails {earlier later : List Format} {format : Format} {failure : ImageError}
      (untagged : image.format = none) (order : inOrder = earlier ++ format :: later)
      (passed : ∀ each ∈ earlier, each.Mismatches image.buffer)
      (failed : format.recognise image.buffer = .error failure)
      (hard : ¬format.Mismatches image.buffer) : Decides inOrder image (.error failure)
  | unknown (untagged : image.format = none)
      (passed : ∀ each ∈ inOrder, each.Mismatches image.buffer) :
      Decides inOrder image (.error (.unknownFormat image.name))

section Deciding

variable {image : Image} {first : Format} {rest : List Format}
  {answer : Except ImageError Format}

/-- A mismatch makes no difference. -/
theorem Decides.cons (mismatches : first.Mismatches image.buffer)
    (decides : Decides rest image answer) : Decides (first :: rest) image answer := by
  cases decides with
  | tagged known_eq => exact .tagged known_eq
  | @accepts earlier later format untagged order passed recognised =>
      exact .accepts untagged (congrArg (first :: ·) order)
        (List.forall_mem_cons.mpr ⟨mismatches, passed⟩) recognised
  | @fails earlier later format failure untagged order passed failed hard =>
      exact .fails untagged (congrArg (first :: ·) order)
        (List.forall_mem_cons.mpr ⟨mismatches, passed⟩) failed hard
  | unknown untagged passed =>
      exact .unknown untagged (List.forall_mem_cons.mpr ⟨mismatches, passed⟩)

theorem decides_probeInOrder (untagged : image.format = none) (inOrder : List Format) :
    Decides inOrder image ((probeInOrder image inOrder).map Prod.fst) := by
  induction inOrder with
  | nil => exact .unknown untagged nofun
  | cons first rest ih =>
      rw [probeInOrder, Format.probe_eq untagged]
      cases answer : first.recognise image.buffer with
      | ok => exact .accepts untagged (List.nil_append _).symm nofun answer
      | error failure =>
          cases failure with
          | formatMismatch named => exact ih.cons ⟨named, answer⟩
          | _ =>
              refine .fails untagged (List.nil_append _).symm nofun answer ?_
              rintro ⟨named, mismatch⟩
              simp [answer] at mismatch

theorem decides_classify (formats : Formats) (catalog : Catalog) (handle : Handle) :
    Decides formats.inOrder (catalog.image handle)
      ((catalog.classify handle formats).map Prod.fst) := by
  have answers : (catalog.classify handle formats).map Prod.fst =
      (formats.classify (catalog.image handle)).map Prod.fst := by
    unfold Catalog.classify
    cases formats.classify (catalog.image handle) <;> rfl
  rw [answers]
  unfold classify
  cases known : (catalog.image handle).format with
  | some format => exact .tagged known
  | none => exact decides_probeInOrder known formats.inOrder

end Deciding

end Formats

/-- Formats are asked by priority, and within a priority as they were added.  The first that
does not answer with a mismatch decides, and the image becomes one of its format if it is
recognised.  Whatever goes wrong, nothing is changed, and it goes wrong again in the same
way. -/
theorem Execution.classify_decides {World : Type} (added : List Format) (handle : Handle)
    (machine : Machine World) :
    let formats := added.foldl Formats.add .empty
    let image := machine.catalog.image handle
    formats.inOrder = added.filter (·.priority = .normal) ++ added.filter (·.priority = .late) ∧
      ∃ answer after, classify formats handle machine = (.ok answer, after) ∧
        Formats.Decides formats.inOrder image answer ∧
        (∀ format, answer = .ok format → ∀ other, after.catalog.image other =
          if other = handle then { image with format := some format }
          else machine.catalog.image other) ∧
        ∀ failure, answer = .error failure →
          after = machine ∧ classify formats handle after = (.ok (.error failure), after) := by
  intro formats image
  refine ⟨Formats.inOrder_foldl_add added, ?_⟩
  have decides := Formats.decides_classify formats machine.catalog handle
  have applied := classify_apply formats handle machine
  match outcome : machine.catalog.classify handle formats with
  | .error failure =>
      rw [outcome] at applied decides
      refine ⟨_, _, applied, decides, nofun, ?_⟩
      rintro _ ⟨⟩
      exact ⟨rfl, applied⟩
  | .ok (format, catalog) =>
      rw [outcome] at applied decides
      refine ⟨_, _, applied, decides, ?_, nofun⟩
      rintro _ ⟨⟩ other
      obtain ⟨-, rfl⟩ := Catalog.setFormat_eq_ok_iff.mp (Catalog.setFormat_of_classify outcome)
      exact Catalog.image_modifyImage ..

end BootScript
