import BootScript.Proofs.Hiding
import BootScript.Proofs.Logic
import Mathlib.Data.List.Dedup

/-!
# How a line rearranges a list

Every run takes its image off the list and puts it back at the end, and `imgfree` takes
images off for good.  So a line moves the images that it ran behind those that it left
alone, in the order in which their last runs ended, and takes away what it freed.

In the middle of a nest the list lacks the images of the runs in progress.  The invariant
counts them in: what is listed, what runs and what was freed make up the first list.
-/

namespace BootScript

/-! ## What the journal tells of a list -/

namespace Event

def ended? : Event → Option Handle
  | runEnded _ image _ _ _ => some image
  | _ => none

def freed? : Event → Option Handle
  | unregistered _ image => some image
  | _ => none

end Event

/-- The images whose runs have ended, one entry for each run, in the order of the ends. -/
def endedRuns (journal : List Event) : List Handle :=
  journal.reverse.filterMap Event.ended?

/-- The images that were let go because a registry was asked to, the latest first. -/
def freedImages (journal : List Event) : List Handle :=
  journal.filterMap Event.freed?

/-- What happened since the last run of an image ended, or ever if it never ran. -/
def sinceRun (image : Handle) (journal : List Event) : List Event :=
  journal.takeWhile fun event => event.ended? ≠ some image

/-- The images that ran and were not freed afterwards, by the ends of their last runs. -/
def returnedImages (journal : List Event) : List Handle :=
  (endedRuns journal).dedup.filter fun image => image ∉ freedImages (sinceRun image journal)

/-- The images of a list that neither ran nor were freed. -/
def untouchedImages (journal : List Event) (listed : List Handle) : List Handle :=
  listed.filter fun image => image ∉ endedRuns journal ∧ image ∉ freedImages journal

section Journal

variable {event : Event} {journal : List Event} {image : Handle}

theorem endedRuns_cons (event : Event) (journal : List Event) :
    endedRuns (event :: journal) = endedRuns journal ++ event.ended?.toList := by
  rw [endedRuns, List.reverse_cons, List.filterMap_append]
  cases ended : event.ended? <;> simp [endedRuns, ended]

theorem freedImages_cons (event : Event) (journal : List Event) :
    freedImages (event :: journal) = event.freed?.toList ++ freedImages journal := by
  cases freed : event.freed? <;> simp [freedImages, freed]

theorem sinceRun_cons (other : event.ended? ≠ some image) :
    sinceRun image (event :: journal) = event :: sinceRun image journal := by
  simp [sinceRun, other]

theorem freedImages_sinceRun_subset (image : Handle) (journal : List Event) :
    freedImages (sinceRun image journal) ⊆ freedImages journal :=
  (List.takeWhile_sublist _).filterMap _ |>.subset

end Journal

/-- Repetitions go and the last occurrence stays, so a new last entry is the last of all. -/
theorem dedup_concat (images : List Handle) (last : Handle) :
    (images ++ [last]).dedup = images.dedup.filter (· ≠ last) ++ [last] := by
  induction images with
  | nil => simp
  | cons image rest ih =>
      rw [List.cons_append]
      by_cases again : image ∈ rest
      · rw [List.dedup_cons_of_mem (List.mem_append_left _ again), ih,
          List.dedup_cons_of_mem again]
      · by_cases same : image = last
        · subst same
          rw [List.dedup_cons_of_mem (List.mem_append_right _ (List.mem_singleton_self _)), ih,
            List.dedup_cons_of_notMem again]
          simp
        · have fresh : image ∉ rest ++ [last] := by simp [again, same]
          rw [List.dedup_cons_of_notMem fresh, ih, List.dedup_cons_of_notMem again]
          simp [same]

/-! ## Moves -/

/-- The conduct of a shell that runs only what its registry lists. -/
def Conduct.listedOnly (id : ShellId) (registry : RegistryId) : Conduct Shells where
  acts catalog deed := ∃ image ∈ catalog.listed registry, deed = .unregister registry image
  runs catalog context image := context = registry ∧ image ∈ catalog.listed registry
  worlds shells := (shells.get id).registry = registry

theorem Conduct.listedOnly_admitsShell (id : ShellId) (registry : RegistryId) :
    (listedOnly id registry).AdmitsShell id where
  writes := (shell_admitsShell id registry).writes
  frees := (shell_admitsShell id registry).frees
  boots catalog shells image kept member := by
    have kept : (shells.get id).registry = registry := kept
    rw [kept] at member ⊢
    exact ⟨rfl, member⟩

/-- Where a course stands that began with `first` on the list. -/
structure Rearranged (registry : RegistryId) (first : List Handle) (position : Position Shells) :
    Prop where
  unpinned : (position.catalog.registry registry).pinned = false
  own : ∀ frame ∈ position.running, frame.registry = registry ∧ frame.hidden = true
  /-- What is listed, what runs and what was freed make up the first list. -/
  whole : (position.catalog.listed registry ++ position.images ++
    freedImages position.journal).Perm first
  order : position.catalog.listed registry =
    (first.filter fun image => image ∉ endedRuns position.journal ∧
      image ∉ position.images ∧ image ∉ freedImages position.journal) ++
    (endedRuns position.journal).dedup.filter fun image =>
      image ∉ position.images ∧ image ∉ freedImages position.journal
  /-- What was freed has not run again. -/
  gone : ∀ image ∈ freedImages position.journal,
    image ∈ freedImages (sinceRun image position.journal)

namespace Rearranged

variable {id : ShellId} {registry : RegistryId} {first : List Handle}
  {position before after : Position Shells}

theorem distinct (rearranged : Rearranged registry first position) (once : first.Nodup) :
    (position.catalog.listed registry ++ position.images ++
      freedImages position.journal).Nodup :=
  rearranged.whole.nodup_iff.mpr once

theorem start (machine : Machine Shells) (blank : machine.journal = []) (owned : Handle → Nat)
    (unpinned : (machine.catalog.registry registry).pinned = false) :
    Rearranged registry (machine.catalog.listed registry) ⟨machine, [], owned⟩ := by
  have journal : (⟨machine, [], owned⟩ : Position Shells).journal = [] := blank
  have images : (⟨machine, [], owned⟩ : Position Shells).images = [] := rfl
  refine ⟨unpinned, fun _ member => absurd member List.not_mem_nil, ?_, ?_, ?_⟩
  · rw [journal, images]
    simp [freedImages, Position.catalog]
  · rw [journal, images]
    simp [freedImages, endedRuns, Position.catalog]
  · rw [journal]
    exact fun _ member => absurd member List.not_mem_nil

/-- The order that is left when no run is in progress. -/
theorem listed_eq (rearranged : Rearranged registry first position)
    (rested : position.running = []) :
    position.catalog.listed registry =
      untouchedImages position.journal first ++ returnedImages position.journal := by
  have images : position.images = [] := by rw [Position.images, rested, List.map_nil]
  have freed (image : Handle) : image ∈ freedImages (sinceRun image position.journal) ↔
      image ∈ freedImages position.journal :=
    ⟨(freedImages_sinceRun_subset image _ ·), rearranged.gone image⟩
  rw [rearranged.order, images]
  simp only [untouchedImages, returnedImages, freed, List.not_mem_nil, not_false_eq_true,
    true_and]

theorem enter (rearranged : Rearranged registry first position) (once : first.Nodup)
    {image : Handle} (member : image ∈ position.catalog.listed registry) :
    Rearranged registry first (position.enter registry image) := by
  have hidden : (Script.hide position.catalog registry image).1 = true :=
    (Script.hide_fst ..).mpr ⟨rearranged.unpinned, member⟩
  have images : (position.enter registry image).images = image :: position.images := by
    simp only [Position.images, Position.running_enter, List.map_cons]
  have listed : (position.enter registry image).catalog.listed registry =
      (position.catalog.listed registry).erase image := by
    rw [Position.catalog_enter, (Script.delists_hide hidden).list, if_pos rfl]
  have ended : endedRuns (position.enter registry image).journal = endedRuns position.journal := by
    rw [Position.journal_enter, endedRuns_cons]
    simp [Event.ended?]
  have freed : freedImages (position.enter registry image).journal =
      freedImages position.journal := by
    rw [Position.journal_enter, freedImages_cons]
    simp [Event.freed?]
  have onceListed : (position.catalog.listed registry).Nodup :=
    (rearranged.distinct once).of_append_left.of_append_left
  constructor
  · rw [Position.catalog_enter, Script.policy_hide]
    exact rearranged.unpinned
  · rw [Position.running_enter, hidden]
    exact List.forall_mem_cons.mpr ⟨⟨rfl, rfl⟩, rearranged.own⟩
  · rw [listed, images, freed]
    refine List.Perm.trans (List.Perm.append_right _ ?_) rearranged.whole
    refine (List.perm_middle).trans ?_
    exact (List.perm_cons_erase member).symm.append_right _
  · rw [listed, images, ended, freed, onceListed.erase_eq_filter, rearranged.order,
      List.filter_append, List.filter_filter, List.filter_filter]
    congr 2 <;> funext other <;> by_cases same : other = image <;> simp [same]
  · intro other gone
    rw [freed] at gone
    rw [Position.journal_enter, sinceRun_cons (by simp [Event.ended?]), freedImages_cons]
    exact List.mem_append_right _ (rearranged.gone other gone)

theorem leave (rearranged : Rearranged registry first position) (once : first.Nodup) :
    Rearranged registry first position.leave := by
  cases running : position.running with
  | nil => rwa [Position.leave_eq_self running]
  | cons frame rest =>
      have own := rearranged.own
      rw [running] at own
      obtain ⟨⟨here, hidden⟩, others⟩ := List.forall_mem_cons.mp own
      have images : position.images = frame.image :: position.leave.images := by
        simp only [Position.images, Position.running_leave running, running, List.map_cons]
      have distinct := rearranged.distinct once
      have whole := rearranged.whole
      have order := rearranged.order
      rw [images] at distinct whole order
      obtain ⟨unlisted, apart, unfreed⟩ :
          frame.image ∉ position.catalog.listed registry ∧
            frame.image ∉ position.leave.images ∧
              frame.image ∉ freedImages position.journal := by
        have back := (List.perm_middle.append_right _).nodup_iff.mp distinct
        simp only [List.cons_append, List.nodup_cons, List.mem_append, not_or] at back
        exact ⟨back.1.1.1, back.1.1.2, back.1.2⟩
      have listed : position.leave.catalog.listed registry =
          position.catalog.listed registry ++ [frame.image] := by
        rw [Position.catalog_leave running, Script.listed_unhide, here, if_pos]
        exact ⟨⟨hidden, unlisted⟩, rfl⟩
      have ended : endedRuns position.leave.journal =
          endedRuns position.journal ++ [frame.image] := by
        rw [Position.journal_leave running, endedRuns_cons]
        rfl
      have freed : freedImages position.leave.journal = freedImages position.journal := by
        rw [Position.journal_leave running, freedImages_cons]
        simp [Event.freed?]
      constructor
      · rw [Position.policy_leave]
        exact rearranged.unpinned
      · rw [Position.running_leave running]
        exact others
      · rw [listed, freed, List.append_assoc _ [frame.image]]
        exact whole
      · have last : ([frame.image].filter fun image =>
            image ∉ position.leave.images ∧ image ∉ freedImages position.journal) =
              [frame.image] := by
          simp [apart, unfreed]
        rw [listed, ended, freed, dedup_concat, List.filter_append, List.filter_filter, last,
          order, ← List.append_assoc]
        congr 3 <;> funext other <;> by_cases same : other = frame.image <;> simp [same]
      · intro other gone
        rw [freed] at gone
        have different : frame.image ≠ other := by
          rintro rfl
          exact unfreed gone
        rw [Position.journal_leave running,
          sinceRun_cons (by simpa [Event.ended?] using different), freedImages_cons]
        exact List.mem_append_right _ (rearranged.gone other gone)

theorem free (rearranged : Rearranged registry first position) (once : first.Nodup)
    {image : Handle} {catalog : Catalog}
    (performed : (Deed.unregister registry image).perform position.catalog = .ok catalog) :
    Rearranged registry first (position.act (.unregister registry image) catalog) := by
  have member := (Catalog.unregister_eq_ok_iff.mp performed).2.1
  have listed : (position.act (.unregister registry image) catalog).catalog.listed registry =
      (position.catalog.listed registry).erase image :=
    (Deed.listed_perform performed registry).trans (if_pos rfl)
  have onceListed : (position.catalog.listed registry).Nodup :=
    (rearranged.distinct once).of_append_left.of_append_left
  have journal : (position.act (.unregister registry image) catalog).journal =
      .unregistered registry image :: position.journal := rfl
  have images : (position.act (.unregister registry image) catalog).images =
      position.images := rfl
  have ended : endedRuns (.unregistered registry image :: position.journal) =
      endedRuns position.journal := by
    rw [endedRuns_cons]
    simp [Event.ended?]
  have freed : freedImages (.unregistered registry image :: position.journal) =
      image :: freedImages position.journal := by
    rw [freedImages_cons]
    rfl
  constructor
  · have kept := Deed.policy_perform performed registry
    exact (congrArg Policy.pinned kept).trans rearranged.unpinned
  · exact rearranged.own
  · rw [listed, images, journal, freed]
    refine List.Perm.trans ?_ rearranged.whole
    refine List.perm_middle.trans ?_
    exact ((List.perm_cons_erase member).symm.append_right _).append_right _
  · rw [listed, images, journal, ended, freed, onceListed.erase_eq_filter, rearranged.order,
      List.filter_append, List.filter_filter, List.filter_filter]
    congr 2 <;> funext other <;> by_cases same : other = image <;> simp [same]
  · intro other gone
    rw [journal, freed] at gone
    rw [journal, sinceRun_cons (by simp [Event.ended?]), freedImages_cons]
    rcases List.mem_cons.mp gone with rfl | older
    · exact List.mem_cons_self
    · exact List.mem_cons_of_mem _ (rearranged.gone other older)

theorem remark (rearranged : Rearranged registry first position) {event : Event}
    (unended : event.ended? = none) (unfreed : event.freed? = none) :
    Rearranged registry first (position.note event) := by
  have ended : endedRuns (event :: position.journal) = endedRuns position.journal := by
    simp [endedRuns_cons, unended]
  have freed : freedImages (event :: position.journal) = freedImages position.journal := by
    simp [freedImages_cons, unfreed]
  refine ⟨rearranged.unpinned, rearranged.own, ?_, ?_, ?_⟩
  · exact freed.symm ▸ rearranged.whole
  · have order := rearranged.order
    rw [← freed, ← ended] at order
    exact order
  · intro other gone
    have gone : other ∈ freedImages (event :: position.journal) := gone
    change other ∈ freedImages (sinceRun other (event :: position.journal))
    rw [freed] at gone
    rw [sinceRun_cons (by simp [unended]), freedImages_cons]
    exact List.mem_append_right _ (rearranged.gone other gone)

theorem move (step : Move (Conduct.listedOnly id registry) before after) (once : first.Nodup)
    (rearranged : Rearranged registry first before) : Rearranged registry first after := by
  cases step with
  | turn world =>
      exact ⟨rearranged.unpinned, rearranged.own, rearranged.whole, rearranged.order,
        rearranged.gone⟩
  | remark event truthful =>
      cases event <;> first | exact rearranged.remark rfl rfl | exact truthful.elim
  | act deed catalog permitted affordable performed =>
      obtain ⟨image, -, rfl⟩ := permitted
      exact rearranged.free once performed
  | refuse context image permitted busy => exact rearranged.remark rfl rfl
  | enter context image permitted idle lines =>
      obtain ⟨rfl, member⟩ := permitted
      exact rearranged.enter once member
  | leave => exact rearranged.leave once
  | pass context image permitted idle noLines =>
      obtain ⟨rfl, member⟩ := permitted
      exact (rearranged.enter once member).leave once

end Rearranged

/-! ## Lines -/

namespace Shell

/-- A line over a registry that lets images go leaves on the list what it neither ran nor
freed, in the old order, and then what it ran and did not free afterwards, in the order of
the last runs.  What it freed is all that is gone. -/
theorem runLine_rearranges {id : ShellId} {registry : RegistryId} {machine : Machine Shells}
    (serves : (machine.world.get id).registry = registry)
    (unpinned : (machine.catalog.registry registry).pinned = false)
    (once : (machine.catalog.listed registry).Nodup) (line : String) :
    ∃ status after recent, runLine id line machine = (.ok status, after) ∧
      after.journal = recent ++ machine.journal ∧ enclosing recent = [] ∧
      after.catalog.listed registry =
        untouchedImages recent (machine.catalog.listed registry) ++ returnedImages recent ∧
      (after.catalog.listed registry ++ freedImages recent).Perm
        (machine.catalog.listed registry) ∧
      (after.catalog.listed registry).length + (freedImages recent).length =
        (machine.catalog.listed registry).length := by
  obtain ⟨status, after, returned⟩ := runLine_returns id line machine
  have followed := follows_runLine (Conduct.listedOnly_admitsShell id registry) line machine serves
  rw [returned] at followed
  obtain ⟨recent, added, blank⟩ := followed.2.recent
  have nested : Nested machine.catalog _ :=
    blank.invariant Nested.move (Nested.start { machine with journal := [] } rfl _)
  have start := Rearranged.start { machine with journal := [] } rfl (fun _ => 0) unpinned
  have rearranged := blank.invariant (Rearranged.move · once) start
  have whole : (after.catalog.listed registry ++ freedImages recent).Perm
      (machine.catalog.listed registry) := by
    have whole := rearranged.whole
    rw [show Position.images _ = [] from rfl, List.append_nil] at whole
    exact whole
  refine ⟨status, after, recent, returned, added, nested.enclosing, rearranged.listed_eq rfl,
    whole, ?_⟩
  rw [← List.length_append]
  exact whole.length_eq

theorem runLine_rearranges_nest :
    let bootAndFree : Buffer :=
      { contents :=
          ⟨#[98, 111, 111, 116, 32, 98, 10, 105, 109, 103, 102, 114, 101, 101, 32, 99], by decide⟩ }
    let machine := ((Session.start [{}] [{}] {}).after
      [.create "a" bootAndFree, .create "b" default, .create "c" default,
        .setFormat 0 Script.format, .setFormat 1 Script.format,
        .register 0 0, .register 0 1, .register 0 2]).machine
    ∃ status after recent, runLine 0 "boot" machine = (.ok status, after) ∧
      untouchedImages recent [0, 1, 2] ++ returnedImages recent = [1, 0] ∧
      freedImages recent = [2] := by
  intro bootAndFree machine
  have serves : (machine.world.get 0).registry = 0 := by decide
  have unpinned : (machine.catalog.registry 0).pinned = false := by decide
  have listed : machine.catalog.listed 0 = [0, 1, 2] := by decide
  have once : (machine.catalog.listed 0).Nodup := by decide
  have left : (runLine 0 "boot" machine).2.catalog.listed 0 = [1, 0] := by decide +kernel
  clear_value machine
  obtain ⟨status, after, recent, returned, -, -, order, whole, -⟩ :=
    runLine_rearranges serves unpinned once "boot"
  rw [returned] at left
  rw [left, listed] at order whole
  refine ⟨status, after, recent, returned, order.symm, ?_⟩
  have split : ([1, 0] ++ freedImages recent).Perm ([1, 0] ++ [2]) :=
    whole.trans (by decide)
  exact List.perm_singleton.mp ((List.perm_append_left_iff _).mp split)

end Shell

end BootScript
