import BootScript.Proofs.Lists
import BootScript.Proofs.Sessions

/-!
# Hiding

A shell reaches images through the list of its registry alone.  A run marks its image
before taking it off the list and puts it back before clearing the mark, and no other
command comes between.  So at every command the listed images are idle, a shell never
boots an image that runs already, and it never frees one.
-/

namespace BootScript

/-- The conduct of a shell over a registry. -/
def Conduct.shell (id : ShellId) (registry : RegistryId) : Conduct Shells where
  acts catalog deed := ∃ image ∈ catalog.listed registry, deed = .unregister registry image
  runs catalog context image :=
    context = registry ∧
      (image ∈ catalog.listed registry ∨ (catalog.image image).executing = false)
  worlds shells := (shells.get id).registry = registry

theorem Conduct.shell_admitsShell (id : ShellId) (registry : RegistryId) :
    (shell id registry).AdmitsShell id where
  writes shells sink kept := by
    refine ⟨?_, rfl⟩
    have kept : (shells.get id).registry = registry := kept
    simpa [shell] using kept
  frees catalog shells image kept member := by
    have kept : (shells.get id).registry = registry := kept
    rw [kept] at member ⊢
    exact ⟨image, member, rfl⟩
  boots catalog shells image kept member := by
    have kept : (shells.get id).registry = registry := kept
    rw [kept] at member ⊢
    exact ⟨rfl, .inl member⟩

/-! ## Idle images are listed -/

/-- All that a registry lists is idle, and every run in progress is over this registry. -/
structure Sheltered (registry : RegistryId) (position : Position Shells) : Prop where
  unpinned : (position.catalog.registry registry).pinned = false
  once : (position.catalog.listed registry).Nodup
  idle : ∀ image ∈ position.catalog.listed registry,
    (position.catalog.image image).executing = false
  own : ∀ frame ∈ position.running, frame.registry = registry

namespace Sheltered

variable {id : ShellId} {registry : RegistryId} {position start stop : Position Shells}

theorem enter (sheltered : Sheltered registry position) (image : Handle) :
    Sheltered registry (position.enter registry image) := by
  refine ⟨?_, Position.nodup_enter registry image sheltered.once, ?_, ?_⟩
  · rw [Position.catalog_enter, Script.policy_hide]
    exact sheltered.unpinned
  · -- An unpinned registry lets the image go, if it lists it at all.
    intro other member
    rw [Position.catalog_enter] at member ⊢
    have apart : other ∈ position.catalog.listed registry ∧ other ≠ image := by
      cases hidden : (Script.hide position.catalog registry image).1 with
      | true =>
          have delists := Script.delists_hide hidden
          obtain ⟨listed, apart⟩ := (delists.mem_iff sheltered.once registry other).mp member
          exact ⟨listed, fun same => apart ⟨rfl, same⟩⟩
      | false =>
          rw [(Script.keeps_hide hidden).list] at member
          refine ⟨member, ?_⟩
          rintro rfl
          have taken := (Script.hide_fst position.catalog registry other).mpr
            ⟨sheltered.unpinned, member⟩
          rw [hidden] at taken
          exact Bool.false_ne_true taken
    rw [Script.image_hide, if_neg apart.2]
    exact sheltered.idle other apart.1
  · rw [Position.running_enter]
    exact List.forall_mem_cons.mpr ⟨rfl, sheltered.own⟩

theorem leave (sheltered : Sheltered registry position) : Sheltered registry position.leave := by
  cases running : position.running with
  | nil => rwa [Position.leave_eq_self running]
  | cons frame rest =>
      have own := sheltered.own
      rw [running] at own
      obtain ⟨here, others⟩ := List.forall_mem_cons.mp own
      refine ⟨?_, Position.nodup_leave sheltered.once, ?_, ?_⟩
      · rw [Position.policy_leave]
        exact sheltered.unpinned
      · intro other member
        rw [Position.catalog_leave running] at member ⊢
        rw [Script.image_unhide]
        by_cases same : other = frame.image
        · rw [if_pos same]
        · rw [if_neg same]
          apply sheltered.idle other
          rw [Script.listed_unhide, here] at member
          split at member
          · simpa [same] using member
          · exact member
      · rw [Position.running_leave running]
        exact others

theorem unregister (sheltered : Sheltered registry position) {image : Handle} {catalog : Catalog}
    (performed : (Deed.unregister registry image).perform position.catalog = .ok catalog) :
    Sheltered registry (position.act (.unregister registry image) catalog) := by
  refine ⟨?_, Deed.nodup_perform performed sheltered.once, ?_, sheltered.own⟩
  · have kept := Deed.policy_perform performed registry
    exact (congrArg Policy.pinned kept).trans sheltered.unpinned
  · intro other member
    have idle := Deed.executing_perform performed other
    refine idle.trans (sheltered.idle other ?_)
    have listed := Deed.listed_perform performed registry
    simp only [Deed.listedAfter, if_true] at listed
    change other ∈ catalog.listed registry at member
    rw [listed] at member
    exact List.mem_of_mem_erase member

theorem move (step : Move (Conduct.shell id registry) start stop)
    (sheltered : Sheltered registry start) : Sheltered registry stop := by
  cases step with
  | act deed catalog permitted affordable performed =>
      obtain ⟨image, -, rfl⟩ := permitted
      exact sheltered.unregister performed
  | enter context image permitted idle lines =>
      obtain ⟨rfl, -⟩ := permitted
      exact sheltered.enter image
  | leave => exact sheltered.leave
  | pass context image permitted idle noLines =>
      obtain ⟨rfl, -⟩ := permitted
      exact (sheltered.enter image).leave
  | _ => exact ⟨sheltered.unpinned, sheltered.once, sheltered.idle, sheltered.own⟩

end Sheltered

/-! ## What the journal shows -/

/-- The registry lists idle images only, and no image of an enclosing run is to be found
in it. -/
structure Hides (registry : RegistryId) (earlier : List Event) (seen : Catalog) : Prop where
  idle : ∀ image ∈ seen.listed registry, (seen.image image).executing = false
  listed : ∀ image ∈ enclosing earlier, image ∉ seen.listed registry
  find : ∀ image ∈ enclosing earlier, ∀ name, seen.find? registry name ≠ some image
  firstClassified : ∀ image ∈ enclosing earlier, seen.firstClassified? registry ≠ some image

/-- No run was refused, and an image that was freed was in no run at the time, neither in
one of this journal nor in one from before it. -/
structure Spares (first : Catalog) (journal : List Event) : Prop where
  unrefused : ∀ image, .runRefused image ∉ journal
  freed : ∀ registry image earlier, .unregistered registry image :: earlier <:+ journal →
    image ∉ enclosing earlier ∧ (first.image image).executing = false

section Journal

variable {id : ShellId} {registry : RegistryId} {first : Catalog}
  {position start stop : Position Shells}

theorem Sheltered.hides (sheltered : Sheltered registry position)
    (nested : Nested first position) : Hides registry position.journal position.catalog := by
  have listed : ∀ image ∈ enclosing position.journal,
      image ∉ position.catalog.listed registry := by
    intro image inside member
    rw [nested.enclosing] at inside
    have running := (nested.executing image).mpr (.inr inside)
    rw [sheltered.idle image member] at running
    exact Bool.false_ne_true running
  refine ⟨sheltered.idle, listed, ?_, ?_⟩
  · intro image inside name found
    exact listed image inside (List.mem_of_find?_eq_some found)
  · intro image inside found
    exact listed image inside (List.mem_of_find?_eq_some found)

theorem Spares.cons {journal : List Event} {event : Event} (spares : Spares first journal)
    (runs : ∀ image, event ≠ .runRefused image)
    (frees : ∀ registry image, event = .unregistered registry image →
      image ∉ enclosing journal ∧ (first.image image).executing = false) :
    Spares first (event :: journal) := by
  constructor
  · intro image refused
    rcases List.mem_cons.mp refused with same | older
    · exact runs image same.symm
    · exact spares.unrefused image older
  · intro registry image earlier recorded
    rcases List.suffix_cons_iff.mp recorded with same | older
    · obtain ⟨rfl, rfl⟩ := List.cons.inj same
      exact frees registry image rfl
    · exact spares.freed registry image earlier older

theorem Spares.enter (spares : Spares first position.journal) (image : Handle) :
    Spares first (position.enter registry image).journal := by
  rw [Position.journal_enter]
  exact spares.cons nofun nofun

theorem Spares.leave (spares : Spares first position.journal) :
    Spares first position.leave.journal := by
  cases running : position.running with
  | nil => rwa [Position.leave_eq_self running]
  | cons frame rest =>
      rw [Position.journal_leave running]
      exact spares.cons nofun nofun

theorem Spares.move (step : Move (Conduct.shell id registry) start stop)
    (sheltered : Sheltered registry start) (nested : Nested first start)
    (spares : Spares first start.journal) : Spares first stop.journal := by
  cases step with
  | turn world => exact spares
  | remark event truthful =>
      refine spares.cons ?_ ?_
      · rintro image rfl
        exact truthful
      · rintro context image rfl
        exact truthful.elim
  | act deed catalog permitted affordable performed =>
      obtain ⟨image, member, rfl⟩ := permitted
      have idle : ¬((first.image image).executing = true ∨ image ∈ start.images) := by
        rw [← nested.executing, sheltered.idle image member]
        exact Bool.false_ne_true
      refine spares.cons nofun ?_
      rintro _ _ ⟨⟩
      rw [nested.enclosing]
      exact ⟨fun inside => idle (.inr inside), by simpa using fun set => idle (.inl set)⟩
  | refuse context image permitted busy =>
      obtain ⟨rfl, member | idle⟩ := permitted
      · rw [sheltered.idle image member] at busy
        exact absurd busy Bool.false_ne_true
      · rw [idle] at busy
        exact absurd busy Bool.false_ne_true
  | enter context image permitted idle lines => exact spares.enter image
  | leave => exact spares.leave
  | pass context image permitted idle noLines => exact (spares.enter image).leave

theorem Course.hides {machine : Machine Shells} {owned : Handle → Nat}
    (course : Course (Conduct.shell id registry) ⟨machine, [], owned⟩ stop)
    (unpinned : (machine.catalog.registry registry).pinned = false)
    (once : (machine.catalog.listed registry).Nodup)
    (idle : ∀ image ∈ machine.catalog.listed registry,
      (machine.catalog.image image).executing = false) :
    ∃ recent, stop.journal = recent ++ machine.journal ∧
      AtCalls (Hides registry) recent ∧ Spares machine.catalog recent := by
  obtain ⟨recent, added, blank⟩ := course.recent
  let Holds (position : Position Shells) : Prop :=
    Sheltered registry position ∧ Nested machine.catalog position ∧
      Spares machine.catalog position.journal
  have kept {start stop : Position Shells} (step : Move (Conduct.shell id registry) start stop)
      (holds : Holds start) : Holds stop :=
    ⟨holds.1.move step, holds.2.1.move step, holds.2.2.move step holds.1 holds.2.1⟩
  have start : Holds (Position.withJournal ⟨machine, [], owned⟩ []) := by
    refine ⟨⟨unpinned, once, idle, nofun⟩, Nested.start { machine with journal := [] } rfl owned,
      nofun, ?_⟩
    intro registry image earlier recorded
    exact absurd (List.suffix_nil.mp recorded) (List.cons_ne_nil _ _)
  refine ⟨recent, added, ?_, (blank.invariant kept start).2.2⟩
  exact Course.atCalls blank kept (fun holds => holds.1.hides holds.2.1) start atCalls_nil

end Journal

/-! ## Sessions -/

/-- Whether a step gives a shell a line, or executes an idle image and hands its lines to
the shell. -/
def Step.Employs (id : ShellId) (registry : RegistryId) (catalog : Catalog) : Step → Prop
  | line shell _ => shell = id
  | execute choice context _ image =>
      choice = .shell id ∧ context = registry ∧ (catalog.image image).executing = false
  | _ => False

namespace Session

variable {session : Session} {id : ShellId} {registry : RegistryId}

theorem course_shell {step : Step} (employs : step.Employs id registry session.catalog)
    (serves : (session.machine.world.get id).registry = registry) :
    Course (Conduct.shell id registry) ⟨session.machine, [], fun _ => 0⟩
      ⟨(session.step step).2.machine, [], fun _ => 0⟩ := by
  have admits := Conduct.shell_admitsShell id registry
  cases step with
  | line shell line =>
      obtain rfl : shell = id := employs
      dsimp only [step]
      rw [snd_carryOut]
      exact (Shell.follows_runLine admits (Text.lossy line) session.machine serves).2
  | execute choice context entry image =>
      obtain ⟨rfl, rfl, idle⟩ := employs
      have permitted : (Conduct.shell id context).runs session.machine.catalog context image :=
        ⟨rfl, .inr idle⟩
      have follows : ∀ command, (session.interpreter context (.shell id) command).Follows
          (Conduct.shell id context) :=
        Shell.follows_interpretWithin admits (Shell.nestingBound session.catalog)
      dsimp only [step]
      cases entry with
      | dispatch =>
          dsimp only [execute]
          rw [snd_carryOut]
          exact (followsAt_dispatch permitted follows serves).2
      | run =>
          dsimp only [execute]
          rw [snd_carryOut]
          exact (Script.followsAt_run permitted follows serves).2
      | format format =>
          dsimp only [execute]
          rw [snd_carryOut]
          exact (format.followsAt_execute permitted follows serves).2
  | _ => exact employs.elim

/-- While a shell works over a registry that lets images go, lists none twice and none that
runs, the images of the runs in progress are hidden from it at every line.  So no run is
refused, and no image is freed that runs. -/
theorem shell_hides {step : Step} (serves : (session.machine.world.get id).registry = registry)
    (unpinned : (session.catalog.registry registry).pinned = false)
    (once : (session.catalog.listed registry).Nodup)
    (idle : ∀ image ∈ session.catalog.listed registry,
      (session.catalog.image image).executing = false)
    (employs : step.Employs id registry session.catalog) :
    ∃ recent, (session.step step).2.machine.journal = recent ++ session.machine.journal ∧
      AtCalls (Hides registry) recent ∧ Spares session.catalog recent :=
  (course_shell employs serves).hides unpinned once idle

theorem shell_hides_self :
    let freeSelf : Buffer :=
      { contents := ⟨#[105, 109, 103, 102, 114, 101, 101, 32, 115, 101, 108, 102], by decide⟩ }
    let session := (start [{}] [{}] {}).after [.create "self" freeSelf, .register 0 0]
    ∃ recent, (session.step (.execute (.shell 0) 0 .run 0)).2.machine.journal =
        recent ++ [.registered 0 0] ∧
      AtCalls (Hides 0) recent ∧ Spares session.catalog recent := by
  intro freeSelf session
  have serves : (session.machine.world.get 0).registry = 0 := rfl
  have employs : (Step.execute (.shell 0) 0 .run 0).Employs 0 0 session.catalog := ⟨rfl, rfl, rfl⟩
  exact shell_hides serves rfl (by decide) (by decide) employs

end Session

end BootScript
