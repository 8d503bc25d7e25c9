import BootScript.Proofs.Discipline
import Mathlib.Data.List.Find

/-!
# Images out of sight

A shell finds images only on the list of its registry.  So two machines that differ in
nothing but an image that is not listed there answer a line in the same way and differ in
nothing else afterwards.
-/

namespace BootScript

/-- Two catalogs that differ in an image that a registry does not list, if at all. -/
structure Catalog.Apart (registry : RegistryId) (image : Handle) (one other : Image)
    (left right : Catalog) : Prop where
  left_image : left.image image = one
  right_image : right.image image = other
  unlisted : image ∉ left.listed registry
  image_eq : ∀ each, each ≠ image → right.image each = left.image each
  listed_eq : ∀ id, right.listed id = left.listed id
  policy_eq : ∀ id, (right.registry id).toPolicy = (left.registry id).toPolicy

namespace Catalog.Apart

variable {registry : RegistryId} {image each : Handle} {one other : Image} {left right : Catalog}

theorem image_eq_of_listed (apart : Apart registry image one other left right)
    (listed : each ∈ left.listed registry) : right.image each = left.image each := by
  apply apart.image_eq
  rintro rfl
  exact apart.unlisted listed

theorem find?_eq (apart : Apart registry image one other left right) (name : String) :
    right.find? registry name = left.find? registry name := by
  unfold find?
  rw [apart.listed_eq]
  apply List.find?_congr
  intro each listed
  rw [apart.image_eq_of_listed listed]

theorem firstClassified?_eq (apart : Apart registry image one other left right) :
    right.firstClassified? registry = left.firstClassified? registry := by
  unfold firstClassified?
  rw [apart.listed_eq]
  apply List.find?_congr
  intro each listed
  rw [apart.image_eq_of_listed listed]

theorem bootTarget_eq (apart : Apart registry image one other left right)
    (arguments : List String) :
    Shell.bootTarget right registry arguments = Shell.bootTarget left registry arguments := by
  unfold Shell.bootTarget
  simp only [apart.find?_eq, apart.firstClassified?_eq]

theorem freeTarget_eq (apart : Apart registry image one other left right)
    (arguments : List String) :
    Shell.freeTarget right registry arguments = Shell.freeTarget left registry arguments := by
  unfold Shell.freeTarget
  simp only [apart.find?_eq]

theorem imageLines_eq (apart : Apart registry image one other left right) :
    ((right.listed registry).map fun each => Shell.imageLine (right.image each)) =
      (left.listed registry).map fun each => Shell.imageLine (left.image each) := by
  rw [apart.listed_eq]
  apply List.map_congr_left
  intro each listed
  rw [apart.image_eq_of_listed listed]

/-- Another image is let go by both or by neither, for the same reason. -/
theorem unregister (apart : Apart registry image one other left right) (differs : each ≠ image) :
    (∃ failure, left.unregister registry each = .error failure ∧
        right.unregister registry each = .error failure) ∨
      ∃ left' right', left.unregister registry each = .ok left' ∧
        right.unregister registry each = .ok right' ∧
        Apart registry image one other left' right' := by
  unfold Catalog.unregister
  rw [apart.policy_eq, apart.listed_eq, apart.image_eq each differs]
  by_cases pinned : (left.registry registry).pinned = true
  · exact .inl ⟨_, if_pos pinned, if_pos pinned⟩
  · rw [if_neg pinned, if_neg pinned]
    by_cases listed : each ∈ left.listed registry
    · rw [if_pos listed, if_pos listed]
      refine .inr ⟨_, _, rfl, rfl, ?_⟩
      constructor
      · simp [differs.symm, apart.left_image]
      · simp [differs.symm, apart.right_image]
      · simpa using fun member => apart.unlisted (List.mem_of_mem_erase member)
      · intro third distinct
        simp [apart.image_eq each differs, apart.image_eq third distinct]
      · intro id
        simp [apart.listed_eq]
      · intro id
        by_cases same : id = registry <;> simp [same, apart.policy_eq]
    · exact .inl ⟨_, if_neg listed, if_neg listed⟩

theorem hide (apart : Apart registry image one other left right) (differs : each ≠ image) :
    (Script.hide right registry each).1 = (Script.hide left registry each).1 ∧
      Apart registry image one other (Script.hide left registry each).2
        (Script.hide right registry each).2 := by
  have same : (Script.hide right registry each).1 = (Script.hide left registry each).1 := by
    rw [Bool.eq_iff_iff, Script.hide_fst, Script.hide_fst, apart.policy_eq, apart.listed_eq]
  refine ⟨same, ?_⟩
  constructor
  · rw [Script.image_hide, if_neg differs.symm, apart.left_image]
  · rw [Script.image_hide, if_neg differs.symm, apart.right_image]
  · rw [Script.listed_hide]
    split
    · exact fun member => apart.unlisted (List.mem_of_mem_erase member)
    · exact apart.unlisted
  · intro third distinct
    rw [Script.image_hide, Script.image_hide, same, apart.image_eq each differs,
      apart.image_eq third distinct]
  · intro id
    rw [Script.listed_hide, Script.listed_hide, same, apart.listed_eq, apart.listed_eq]
  · intro id
    rw [Script.policy_hide, Script.policy_hide, apart.policy_eq]

theorem unhide (apart : Apart registry image one other left right) (differs : each ≠ image)
    (hidden : Bool) :
    Apart registry image one other (Script.unhide left registry each hidden)
      (Script.unhide right registry each hidden) := by
  constructor
  · rw [Script.image_unhide, if_neg differs.symm, apart.left_image]
  · rw [Script.image_unhide, if_neg differs.symm, apart.right_image]
  · rw [Script.listed_unhide]
    split
    · simpa [differs.symm] using apart.unlisted
    · exact apart.unlisted
  · intro third distinct
    rw [Script.image_unhide, Script.image_unhide, apart.listed_eq, apart.image_eq each differs,
      apart.image_eq third distinct]
  · intro id
    rw [Script.listed_unhide, Script.listed_unhide, apart.listed_eq, apart.listed_eq]
  · intro id
    rw [Script.policy_unhide, Script.policy_unhide, apart.policy_eq]

end Catalog.Apart

namespace Shell

variable {id : ShellId} {registry : RegistryId} {image : Handle} {one other : Image}

/-- Two machines that look the same to a shell and differ in an image out of its sight. -/
structure Alike (id : ShellId) (registry : RegistryId) (image : Handle) (one other : Image)
    (left right : Machine Shells) : Prop where
  serves : (left.world.get id).registry = registry
  world_eq : right.world = left.world
  apart : left.catalog.Apart registry image one other right.catalog

/-- An execution that comes to the same outcome on machines that look the same, and leaves
them so. -/
def TreatsAlike {Value : Type} (id : ShellId) (registry : RegistryId) (image : Handle)
    (one other : Image) (execution : Execution Shells Value) : Prop :=
  ∀ left right, Alike id registry image one other left right →
    (execution right).1 = (execution left).1 ∧
      Alike id registry image one other (execution left).2 (execution right).2

section Alike

variable {left right : Machine Shells} {each : Handle}

theorem Alike.begin (alike : Alike id registry image one other left right)
    (differs : each ≠ image) :
    Alike id registry image one other (Script.begin registry each left)
      (Script.begin registry each right) := by
  refine ⟨?_, ?_, (alike.apart.hide differs).2⟩
  · rw [Script.world_begin, alike.serves]
  · rw [Script.world_begin, Script.world_begin, alike.world_eq]

theorem Alike.finish (alike : Alike id registry image one other left right)
    (differs : each ≠ image) (hidden : Bool) :
    Alike id registry image one other (Script.finish registry each hidden left)
      (Script.finish registry each hidden right) := by
  refine ⟨?_, ?_, alike.apart.unhide differs hidden⟩
  · rw [Script.world_finish, alike.serves]
  · rw [Script.world_finish, Script.world_finish, alike.world_eq]

end Alike

section Treating

variable {Value Result : Type}

theorem treatsAlike_pure (value : Value) :
    TreatsAlike id registry image one other (pure value : Execution Shells Value) :=
  respects_pure value

theorem TreatsAlike.bind {first : Execution Shells Value}
    {next : Value → Execution Shells Result}
    (begins : TreatsAlike id registry image one other first)
    (continues : ∀ value, TreatsAlike id registry image one other (next value)) :
    TreatsAlike id registry image one other (first >>= next) :=
  Respects.bind begins continues

theorem treatsAlike_write (purpose : Purpose) (text : String) :
    TreatsAlike id registry image one other (write id purpose text) := by
  intro left right alike
  refine ⟨by simp only [write, alike.world_eq], ?_, ?_, alike.apart⟩
  · simpa [write] using alike.serves
  · simp only [write, alike.world_eq]

theorem treatsAlike_note (event : Event) :
    TreatsAlike id registry image one other (Execution.note event) :=
  fun _ _ alike => ⟨rfl, alike.serves, alike.world_eq, alike.apart⟩

end Treating

theorem treatsAlike_conclude (answer : Except ShellError Status) :
    TreatsAlike id registry image one other (conclude id answer) := by
  cases answer with
  | ok status => exact treatsAlike_pure status
  | error failure => exact (treatsAlike_write _ _).bind fun _ => treatsAlike_pure _

/-- A shell lays hands on no image that its registry does not list. -/
def Discipline.unlisted (id : ShellId) (registry : RegistryId) (image : Handle)
    (one other : Image) : Discipline id where
  Serves served := registry = served
  Reaches reached := reached ≠ image
  Holds execution := TreatsAlike id registry image one other execution
  ofTooDeep _ _ alike := ⟨rfl, alike⟩
  ofPure := treatsAlike_pure
  ofBind begins continues passes :=
    begins.bind (passes.forall_next treatsAlike_pure continues)
  ofWrite text := treatsAlike_write .result text
  ofTraced line action holds := by
    intro left right alike
    have answers : TreatsAlike id registry image one other
        (write id .trace ("$ " ++ line ++ "\n") >>= afterTrace action) := by
      refine (treatsAlike_write _ _).bind fun answer => ?_
      cases answer with
      | ok => exact holds
      | error failure => exact treatsAlike_pure _
    simp only [traced, current, Execution.bind_apply, alike.world_eq]
    split
    · exact answers left right alike
    · exact holds left right alike
  ofRegistry next holds := by
    intro left right alike
    simp only [current, Execution.bind_apply, alike.world_eq]
    exact holds _ alike.serves.symm left right alike
  ofListing := by
    rintro _ rfl holds left right alike
    simp only [listing, Execution.catalog, Execution.bind_apply, alike.apart.imageLines_eq]
    exact holds _ left right alike
  ofBootTarget := by
    rintro _ arguments next rfl refused chosen left right alike
    simp only [Execution.catalog, Execution.bind_apply, alike.apart.bootTarget_eq]
    cases target : bootTarget left.catalog _ arguments with
    | error failure => exact refused failure left right alike
    | ok reached =>
        refine chosen reached ?_ left right alike
        rintro rfl
        exact alike.apart.unlisted (mem_listed_of_bootTarget target)
  ofFreeTarget := by
    rintro _ arguments next rfl refused chosen left right alike
    simp only [Execution.catalog, Execution.bind_apply, alike.apart.freeTarget_eq]
    cases target : freeTarget left.catalog _ arguments with
    | error failure => exact refused failure left right alike
    | ok reached =>
        refine chosen reached ?_ left right alike
        rintro rfl
        exact alike.apart.unlisted (mem_listed_of_freeTarget target)
  ofUnregister := by
    rintro _ reached rfl differs left right alike
    rw [Execution.unregister_apply, Execution.unregister_apply]
    rcases alike.apart.unregister differs with ⟨failure, kept, kept'⟩ |
      ⟨catalog, catalog', let_go, let_go', apart⟩
    · rw [kept, kept']
      exact ⟨rfl, alike⟩
    · rw [let_go, let_go']
      exact ⟨rfl, alike.serves, alike.world_eq, apart⟩
  ofImage := by
    intro _ _ reached next differs holds left right alike
    simp only [Execution.catalog, Execution.bind_apply, alike.apart.image_eq reached differs]
    exact holds _ left right alike
  ofNote _ holds := (treatsAlike_note _).bind fun _ => holds
  ofHidden := by
    rintro _ _ _ reached body rfl differs holds left right alike
    obtain ⟨outcome, ended⟩ := holds _ _ (alike.begin differs)
    rw [Script.whileHidden_apply, Script.whileHidden_apply, (alike.apart.hide differs).1]
    exact ⟨outcome, ended.finish differs _⟩
  ofLine line action holds := by
    have began : TreatsAlike id registry image one other (Execution.modify (beginLine id line)) :=
      fun _ _ alike => ⟨rfl, alike.serves, alike.world_eq, alike.apart⟩
    have ends : TreatsAlike id registry image one other (do
        let status ← conclude id (← action)
        Execution.note (.lineEnded id status)
        pure status) :=
      holds.bind fun answer => (treatsAlike_conclude answer).bind fun status =>
        (treatsAlike_note _).bind fun _ => treatsAlike_pure status
    exact began.bind fun _ => ends

theorem treatsAlike_runLineWithin (depth : Nat) (line : String) :
    TreatsAlike id registry image one other (runLineWithin id depth line) :=
  (Discipline.unlisted id registry image one other).runLineWithin depth line

end Shell

end BootScript
