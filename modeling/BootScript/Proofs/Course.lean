import BootScript.Proofs.Deed
import Mathlib.Logic.Relation

/-!
# Courses of events

Whoever interprets commands reaches a catalog through few doors: it can make,
tag, register and unregister images, take and give back references of its own,
and run scripts.  A course is a sequence of such moves.  It passes through
positions, which keep the runs in progress beside the machine, so that what one
move preserves holds at every command of every nest of runs.

Executions follow courses whatever becomes of them, also when they are abandoned,
because the end of a run is a move like any other.
-/

namespace BootScript

namespace Event

/-- The catalog that an interpreter was called over. -/
def seen? : Event → Option Catalog
  | commandBegan _ _ catalog => some catalog
  | lineBegan _ _ catalog => some catalog
  | _ => none

/-- A remark leaves a catalog as it is and tells the truth about it. -/
def Remarks (catalog : Catalog) : Event → Prop
  | dispatched _ => True
  | commandBegan _ _ seen => seen = catalog
  | lineBegan _ _ seen => seen = catalog
  | lineEnded _ _ => True
  | wrote _ _ _ => True
  | _ => False

end Event

/-- A run that has begun and not ended. -/
structure Frame where
  registry : RegistryId
  image : Handle
  hidden : Bool

structure Position (World : Type) where
  machine : Machine World
  /-- The runs in progress, the innermost first. -/
  running : List Frame
  /-- How many references to each image are held by outsiders. -/
  owned : Handle → Nat

/-- What an interpreter permits itself, which worlds it keeps to, and how many
references to each image it holds in a world. -/
structure Conduct (World : Type) where
  acts : Catalog → Deed → Prop := fun _ _ => True
  runs : Catalog → RegistryId → Handle → Prop := fun _ _ _ => True
  worlds : World → Prop := fun _ => True
  holdings : World → Handle → Nat := fun _ _ => 0

namespace Position

variable {World : Type}

def catalog (position : Position World) : Catalog :=
  position.machine.catalog

def journal (position : Position World) : List Event :=
  position.machine.journal

def images (position : Position World) : List Handle :=
  position.running.map Frame.image

def note (position : Position World) (event : Event) : Position World :=
  { position with
    machine := { position.machine with journal := event :: position.journal } }

def act (position : Position World) (deed : Deed) (catalog : Catalog) : Position World where
  machine := { position.machine with catalog, journal := deed.record ++ position.journal }
  running := position.running
  owned := deed.settle position.owned

def enter (position : Position World) (registry : RegistryId) (image : Handle) :
    Position World :=
  let result := Script.hide position.catalog registry image
  { position with
    machine :=
      { position.machine with
        catalog := result.2
        journal := .runBegan registry image result.1 :: position.journal }
    running := ⟨registry, image, result.1⟩ :: position.running }

/-- End the innermost run. -/
def leave (position : Position World) : Position World :=
  match position.running with
  | [] => position
  | ⟨registry, image, hidden⟩ :: rest =>
      let catalog := Script.unhide position.catalog registry image hidden
      { position with
        machine :=
          { position.machine with
            catalog
            journal :=
              .runEnded registry image hidden position.catalog catalog :: position.journal }
        running := rest }

section Enter

variable (position : Position World) (registry : RegistryId) (image : Handle)

theorem catalog_enter :
    (position.enter registry image).catalog =
      (Script.hide position.catalog registry image).2 := by
  simp only [enter, catalog]

theorem journal_enter :
    (position.enter registry image).journal =
      .runBegan registry image (Script.hide position.catalog registry image).1 ::
        position.journal := by
  simp only [enter, journal]

theorem running_enter :
    (position.enter registry image).running =
      ⟨registry, image, (Script.hide position.catalog registry image).1⟩ ::
        position.running := by
  simp only [enter]

end Enter

section Leave

variable {position : Position World} {frame : Frame} {rest : List Frame}

theorem leave_eq_self (none : position.running = []) : position.leave = position := by
  simp only [leave, none]

theorem catalog_leave (innermost : position.running = frame :: rest) :
    position.leave.catalog =
      Script.unhide position.catalog frame.registry frame.image frame.hidden := by
  simp only [leave, innermost, catalog]

theorem journal_leave (innermost : position.running = frame :: rest) :
    position.leave.journal =
      .runEnded frame.registry frame.image frame.hidden position.catalog
        position.leave.catalog :: position.journal := by
  simp only [leave, innermost, catalog, journal]

theorem running_leave (innermost : position.running = frame :: rest) :
    position.leave.running = rest := by
  simp only [leave, innermost]

end Leave

/-- The same position within further runs and beside further references. -/
def above (position : Position World) (base : List Frame) (kept : Handle → Nat) :
    Position World :=
  { position with
    running := position.running ++ base
    owned := fun image => position.owned image + kept image }

/-- The same position after an earlier history. -/
def since (position : Position World) (earlier : List Event) : Position World :=
  { position with
    machine := { position.machine with journal := position.journal ++ earlier } }

/-- The same position with another history. -/
def withJournal (position : Position World) (journal : List Event) : Position World :=
  { position with machine := { position.machine with journal } }

end Position

/-- One move.  A run of an image without lines begins and ends in one move, so that
every run in progress has a line. -/
inductive Move {World : Type} (conduct : Conduct World) : Position World → Position World → Prop
  /-- The interpreter changes its own world. -/
  | turn (position : Position World) (world : World) :
      Move conduct position { position with machine := { position.machine with world } }
  | remark (position : Position World) (event : Event)
      (truthful : event.Remarks position.catalog) : Move conduct position (position.note event)
  | act (position : Position World) (deed : Deed) (after : Catalog)
      (permitted : conduct.acts position.catalog deed)
      (affordable : deed.Affordable position.owned)
      (performed : deed.perform position.catalog = .ok after) :
      Move conduct position (position.act deed after)
  | refuse (position : Position World) (registry : RegistryId) (image : Handle)
      (permitted : conduct.runs position.catalog registry image)
      (busy : (position.catalog.image image).executing = true) :
      Move conduct position (position.note (.runRefused image))
  | enter (position : Position World) (registry : RegistryId) (image : Handle)
      (permitted : conduct.runs position.catalog registry image)
      (idle : (position.catalog.image image).executing = false)
      (lines : (position.catalog.image image).buffer.lines ≠ []) :
      Move conduct position (position.enter registry image)
  | leave (position : Position World) : Move conduct position position.leave
  | pass (position : Position World) (registry : RegistryId) (image : Handle)
      (permitted : conduct.runs position.catalog registry image)
      (idle : (position.catalog.image image).executing = false)
      (noLines : (position.catalog.image image).buffer.lines = []) :
      Move conduct position (position.enter registry image).leave

abbrev Course {World : Type} (conduct : Conduct World) :
    Position World → Position World → Prop :=
  Relation.ReflTransGen (Move conduct)

section Moves

variable {World : Type} {conduct : Conduct World} {before after : Position World}

/-! ## Courses within courses -/

theorem Position.leave_above (position : Position World) (base : List Frame)
    (kept : Handle → Nat) (inside : position.running ≠ []) :
    (position.above base kept).leave = position.leave.above base kept := by
  obtain ⟨machine, running, owned⟩ := position
  cases running with
  | nil => exact absurd rfl inside
  | cons frame rest => rfl

theorem Position.leave_since (position : Position World) (earlier : List Event) :
    (position.since earlier).leave = position.leave.since earlier := by
  obtain ⟨machine, running, owned⟩ := position
  cases running <;> rfl

/-- A move can be made within further runs, of which it knows nothing. -/
theorem Move.above (move : Move conduct before after) (base : List Frame)
    (kept : Handle → Nat) :
    Course conduct (before.above base kept) (after.above base kept) := by
  cases move with
  | turn world => exact .single (.turn _ world)
  | remark event truthful => exact .single (.remark _ event truthful)
  | act deed catalog permitted affordable performed =>
      have acted := Move.act (before.above base kept) deed catalog permitted
        (affordable.add kept) performed
      have same : (before.above base kept).act deed catalog =
          (before.act deed catalog).above base kept := by
        simp only [Position.act, Position.above, deed.settle_add before.owned kept affordable]
        rfl
      exact .single (same ▸ acted)
  | refuse registry image permitted busy => exact .single (.refuse _ registry image permitted busy)
  | enter registry image permitted idle lines =>
      exact .single (.enter _ registry image permitted idle lines)
  | leave =>
      cases running : before.running with
      | nil =>
          rw [Position.leave_eq_self running]
      | cons frame rest =>
          rw [← before.leave_above base kept (by simp [running])]
          exact .single (.leave _)
  | pass registry image permitted idle noLines =>
      rw [← Position.leave_above _ base kept (List.cons_ne_nil _ _)]
      exact .single (.pass (before.above base kept) registry image permitted idle noLines)

theorem Course.above (course : Course conduct before after) (base : List Frame)
    (kept : Handle → Nat) :
    Course conduct (before.above base kept) (after.above base kept) := by
  induction course with
  | refl => exact .refl
  | tail _ move ih => exact ih.trans (move.above base kept)

/-! ## The history of a course -/

/-- No move looks at the journal. -/
theorem Move.of_since {earlier : List Event}
    (move : Move conduct (before.since earlier) after) :
    ∃ fresh, after = fresh.since earlier ∧ Move conduct before fresh := by
  cases move with
  | turn world => exact ⟨_, rfl, .turn before world⟩
  | remark event truthful => exact ⟨before.note event, rfl, .remark before event truthful⟩
  | act deed catalog permitted affordable performed =>
      refine ⟨before.act deed catalog, ?_, .act before deed catalog permitted affordable performed⟩
      simp [Position.act, Position.since, Position.journal]
  | refuse registry image permitted busy =>
      exact ⟨_, rfl, .refuse before registry image permitted busy⟩
  | enter registry image permitted idle lines =>
      exact ⟨_, rfl, .enter before registry image permitted idle lines⟩
  | leave => exact ⟨before.leave, before.leave_since earlier, .leave before⟩
  | pass registry image permitted idle noLines =>
      exact ⟨(before.enter registry image).leave,
        (before.enter registry image).leave_since earlier,
        .pass before registry image permitted idle noLines⟩

theorem Course.of_since {earlier : List Event}
    (course : Course conduct (before.since earlier) after) :
    ∃ fresh, after = fresh.since earlier ∧ Course conduct before fresh := by
  induction course with
  | refl => exact ⟨before, rfl, .refl⟩
  | tail _ move ih =>
      obtain ⟨middle, rfl, course⟩ := ih
      obtain ⟨fresh, rfl, next⟩ := move.of_since
      exact ⟨fresh, rfl, course.tail next⟩

/-- A course adds to the journal, and would have added the same to an empty one. -/
theorem Course.recent (course : Course conduct before after) :
    ∃ recent, after.journal = recent ++ before.journal ∧
      Course conduct (before.withJournal []) (after.withJournal recent) := by
  have whole : before = (before.withJournal []).since before.journal := rfl
  rw [whole] at course
  obtain ⟨fresh, rfl, blank⟩ := course.of_since
  exact ⟨fresh.journal, rfl, blank⟩

/-- What holds at the start of a course and survives every move holds at its end. -/
theorem Course.invariant {Holds : Position World → Prop} (course : Course conduct before after)
    (kept : ∀ {start stop}, Move conduct start stop → Holds start → Holds stop)
    (start : Holds before) : Holds after := by
  induction course with
  | refl => exact start
  | tail _ move ih => exact kept move ih

end Moves

end BootScript
