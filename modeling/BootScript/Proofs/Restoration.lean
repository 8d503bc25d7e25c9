import BootScript.Proofs.Lists
import BootScript.Proofs.Sessions

/-!
# What a run restores

However a run ends, the marks of all images are as they were, and so are the
references to each image, apart from the entries of lists and from what the
interpreter took or gave back of its own.  Within the run, every run that began has
ended, and each put its image back on the list that it took it off.
-/

namespace BootScript

variable {World : Type} {conduct : Conduct World} {before after : Position World}

/-! ## References -/

/-- References are conserved: beside those found in `first`, outsiders own theirs, of which
they owned `taken` in the beginning, and each run in progress holds one. -/
def Balanced (first : Catalog) (taken : Handle → Nat) (position : Position World) : Prop :=
  ∀ image, (position.catalog.image image).held + taken image =
    (first.image image).held + position.owned image + position.images.count image

theorem Deed.settle_balanced {deed : Deed} {owned held : Handle → Nat} {image : Handle}
    {taken found : Nat} (affordable : deed.Affordable owned) (within : taken ≤ found)
    (balanced : held image + taken = found + owned image) :
    deed.settle held image + taken = found + deed.settle owned image := by
  cases deed with
  | hold target =>
      simp only [settle]
      split <;> omega
  | release target =>
      simp only [settle]
      split
      · next same =>
          have positive : 0 < owned image := same ▸ affordable
          omega
      · exact balanced
  | _ => exact balanced

namespace Balanced

variable {first : Catalog} {taken : Handle → Nat} {position : Position World}

theorem enter (balanced : Balanced first taken position) (registry : RegistryId)
    (image : Handle) : Balanced first taken (position.enter registry image) := by
  intro other
  have counted := balanced other
  simp only [Position.catalog_enter, Position.images, Position.running_enter, List.map_cons,
    Script.image_hide] at counted ⊢
  rw [show (position.enter registry image).owned = position.owned from rfl]
  by_cases same : other = image
  · subst same
    simp only [if_true, List.count_cons_self]
    omega
  · rw [if_neg same, List.count_cons_of_ne (Ne.symm same)]
    exact counted

theorem leave (balanced : Balanced first taken position)
    (within : ∀ image, taken image ≤ (first.image image).held) :
    Balanced first taken position.leave := by
  cases running : position.running with
  | nil => rwa [Position.leave_eq_self running]
  | cons frame rest =>
      intro other
      have counted := balanced other
      have room := within other
      have owned : position.leave.owned = position.owned := by
        simp only [Position.leave, running]
      simp only [Position.catalog_leave running, Position.images, Position.running_leave running,
        running, List.map_cons, Script.image_unhide, owned] at counted ⊢
      by_cases same : other = frame.image
      · subst same
        simp only [if_true, List.count_cons_self] at counted ⊢
        omega
      · rw [List.count_cons_of_ne (Ne.symm same)] at counted
        rw [if_neg same]
        exact counted

theorem move (step : Move conduct before after)
    (within : ∀ image, taken image ≤ (first.image image).held)
    (balanced : Balanced first taken before) : Balanced first taken after := by
  cases step with
  | act deed catalog permitted affordable performed =>
      intro image
      have counted := balanced image
      have room := within image
      have held := Deed.held_perform performed image
      have settled : deed.settle (fun other => (before.catalog.image other).held) image +
          taken image =
            (first.image image).held + before.images.count image +
              deed.settle before.owned image :=
        Deed.settle_balanced affordable (Nat.le_add_right_of_le room) (by omega)
      rw [← held] at settled
      change (catalog.image image).held + taken image =
        (first.image image).held + deed.settle before.owned image + before.images.count image
      omega
  | enter registry image permitted idle lines => exact balanced.enter registry image
  | leave => exact balanced.leave within
  | pass registry image permitted idle noLines => exact (balanced.enter registry image).leave within
  | _ => exact balanced

end Balanced

/-! ## Lists -/

/-- A run that had taken its image off the list of its registry leaves it there, once;
a run that had not leaves all lists as it finds them when it ends. -/
def Event.Restores : Event → Prop
  | runEnded registry image true _ restored => (restored.listed registry).count image = 1
  | runEnded _ _ false left restored => ∀ id, restored.listed id = left.listed id
  | _ => True

theorem Script.restores_unhide {catalog : Catalog} {registry : RegistryId}
    (once : (catalog.listed registry).Nodup) (image : Handle) (hidden : Bool) :
    (Event.runEnded registry image hidden catalog
      (unhide catalog registry image hidden)).Restores := by
  cases hidden with
  | false =>
      intro id
      simp [listed_unhide]
  | true =>
      have restored : ((unhide catalog registry image true).listed registry).Nodup :=
        nodup_unhide registry image true once
      apply List.count_eq_one_of_mem restored
      rw [listed_unhide]
      by_cases back : image ∈ catalog.listed registry <;> simp [back]

/-- All runs that have ended restored their lists, and no list has an image twice. -/
structure Restored (position : Position World) : Prop where
  once : position.catalog.ListsOnce
  restores : ∀ event ∈ position.journal, event.Restores

namespace Restored

variable {position : Position World}

theorem leave (restored : Restored position) : Restored position.leave := by
  refine ⟨fun id => Position.nodup_leave (restored.once id), ?_⟩
  cases running : position.running with
  | nil =>
      rw [Position.leave_eq_self running]
      exact restored.restores
  | cons frame rest =>
      rw [Position.journal_leave running, Position.catalog_leave running]
      exact List.forall_mem_cons.mpr
        ⟨Script.restores_unhide (restored.once _) _ _, restored.restores⟩

theorem enter (restored : Restored position) (registry : RegistryId) (image : Handle) :
    Restored (position.enter registry image) := by
  constructor
  · exact fun id => Position.nodup_enter registry image (restored.once id)
  · rw [Position.journal_enter]
    exact List.forall_mem_cons.mpr ⟨trivial, restored.restores⟩

theorem move (step : Move conduct before after) (restored : Restored before) :
    Restored after := by
  cases step with
  | turn world => exact ⟨restored.once, restored.restores⟩
  | remark event truthful =>
      have restores : event.Restores := by
        cases event <;> simp_all [Event.Remarks, Event.Restores]
      exact ⟨restored.once, List.forall_mem_cons.mpr ⟨restores, restored.restores⟩⟩
  | act deed catalog permitted affordable performed =>
      refine ⟨fun id => Deed.nodup_perform performed (restored.once id), ?_⟩
      intro event recorded
      rcases List.mem_append.mp recorded with fresh | older
      · cases deed <;> simp_all [Deed.record, Event.Restores]
      · exact restored.restores event older
  | refuse registry image permitted busy =>
      exact ⟨restored.once, List.forall_mem_cons.mpr ⟨trivial, restored.restores⟩⟩
  | enter registry image permitted idle lines => exact restored.enter registry image
  | leave => exact restored.leave
  | pass registry image permitted idle noLines => exact (restored.enter registry image).leave

end Restored

/-! ## Runs -/

/-- A catalog that can be met, between two steps of a session or in the middle of one:
moves of any kind lead to it from a catalog without images whose registries list nothing. -/
def Catalog.Reachable (catalog : Catalog) : Prop :=
  ∃ (World : Type) (world : World) (registries : List Registry) (position : Position World),
    (∀ registry ∈ registries, registry.listed = []) ∧
      Course {} ⟨{ catalog := { registries := .ofList registries }, world }, [], fun _ => 0⟩
        position ∧ position.catalog = catalog

theorem Session.reachable_after {registries : List Registry}
    (unlisted : ∀ registry ∈ registries, registry.listed = []) (shells : List Shell)
    (playbook : Playbook) (steps : List Step) :
    ((start registries shells playbook).after steps).catalog.Reachable := by
  have admits : ({} : Conduct Shells).AdmitsSession := Conduct.admitsSession fun _ _ _ => trivial
  have course := course_after admits (start registries shells playbook) steps
    (fun _ _ _ _ => trivial) (fun _ _ _ _ => trivial)
  exact ⟨Shells, .ofList shells, registries, _, unlisted, course, rfl⟩

theorem Catalog.Reachable.listsOnce {catalog : Catalog} (reachable : catalog.Reachable) :
    catalog.ListsOnce := by
  obtain ⟨World, world, registries, position, unlisted, course, rfl⟩ := reachable
  intro id
  have kept {start stop : Position World} (move : Move {} start stop)
      (once : (start.catalog.listed id).Nodup) : (stop.catalog.listed id).Nodup :=
    move.nodup once
  have empty := Catalog.listed_ofList registries unlisted .empty id
  exact course.invariant kept (empty ▸ List.nodup_nil)

theorem Catalog.references_sub_entries (catalog : Catalog) (image : Handle) :
    (catalog.references image : Int) - catalog.entries image =
      (catalog.image image).held + 1 := by
  unfold Catalog.references
  omega

/-- However the run of a script ends, it leaves the marks of all images and the references
to them as they were, those apart that lists make or that the interpreter took and holds.
All runs within it have ended, and at its end each had its image listed once again if it
had hidden it, and changed no list if not.  The interpreter may do whatever courses can be
made of; `holdings` tells which references it holds, and they are counted like all others. -/
theorem Script.run_restores {holdings : World → Handle → Nat} {interpret : Interpreter World}
    (machine : Machine World) (reachable : machine.catalog.Reachable)
    (follows : ∀ command, (interpret command).Follows { holdings })
    (counted : ∀ image, holdings machine.world image ≤ (machine.catalog.image image).held)
    (registry : RegistryId) (image : Handle) :
    let after := (run interpret registry image machine).2
    (∀ other,
      (after.catalog.image other).executing = (machine.catalog.image other).executing) ∧
    (∀ other,
      (after.catalog.references other : Int) - after.catalog.entries other -
          holdings after.world other =
        machine.catalog.references other - machine.catalog.entries other -
          holdings machine.world other) ∧
    ∃ recent, after.journal = recent ++ machine.journal ∧ enclosing recent = [] ∧
      ∀ event ∈ recent, event.Restores := by
  intro after
  have followed : (run interpret registry image).FollowsAt { holdings } machine :=
    followsAt_run trivial follows
  obtain ⟨-, course⟩ := followed trivial
  obtain ⟨recent, added, blank⟩ := course.recent
  have nested : Nested machine.catalog _ :=
    blank.invariant Nested.move (Nested.start { machine with journal := [] } rfl _)
  have balanced : Balanced machine.catalog (holdings machine.world) _ :=
    blank.invariant (Balanced.move · counted) fun _ => rfl
  have restored := blank.invariant Restored.move ⟨reachable.listsOnce, fun _ => nofun⟩
  refine ⟨nested.executing_eq rfl, ?_, recent, added, nested.enclosing, restored.restores⟩
  intro other
  have held : (after.catalog.image other).held + holdings machine.world other =
      (machine.catalog.image other).held + holdings after.world other := balanced other
  rw [Catalog.references_sub_entries, Catalog.references_sub_entries]
  omega

theorem Script.run_restores_keeper :
    let catalog := ((Session.start [{}] [] {}).after
      [.create "kept" { contents := ⟨#[112], by decide⟩ }, .register 0 0]).catalog
    let keep : Interpreter Nat := fun _ machine =>
      (.error .panic,
        { machine with catalog := machine.catalog.hold 0, world := machine.world + 1 })
    let after := (run keep 0 0 { catalog, world := 0 }).2
    (after.catalog.image 0).executing = false ∧
      (after.catalog.references 0 : Int) - after.catalog.entries 0 - after.world = 1 := by
  intro catalog keep after
  let holdings : Nat → Handle → Nat := fun kept image => if image = 0 then kept else 0
  have follows : ∀ command, (keep command).Follows { holdings } := by
    intro command machine kept
    refine ⟨trivial, ?_⟩
    have turned : Move { holdings } ⟨machine, [], holdings machine.world⟩ _ :=
      .turn _ (machine.world + 1)
    have held : Move { holdings }
        ⟨{ machine with world := machine.world + 1 }, [], holdings machine.world⟩ _ :=
      .act _ (.hold 0) (machine.catalog.hold 0) trivial trivial rfl
    have settled : (Deed.hold 0).settle (holdings machine.world) =
        holdings (machine.world + 1) := by
      funext image
      by_cases first : image = 0 <;> simp [Deed.settle, holdings, first]
    simp only [Position.act, settled] at held
    exact (Relation.ReflTransGen.single turned).tail held
  obtain ⟨marks, references, -⟩ := run_restores { catalog, world := 0 }
    (Session.reachable_after (by simp) _ _ _) follows (by simp [holdings]) 0 0
  refine ⟨(marks 0).trans (by decide), ?_⟩
  have before : (catalog.references 0 : Int) - catalog.entries 0 = 1 := by decide
  have balance : (after.catalog.references 0 : Int) - after.catalog.entries 0 - after.world =
      catalog.references 0 - catalog.entries 0 - (0 : Nat) := references 0
  omega

end BootScript
