import BootScript.Proofs.Lists
import BootScript.Proofs.Sessions

/-!
# Registration

The list of a registry and the flag of an image are two records of one fact, but the
flag is shared by all registries.  Runs take an image off a list and put it back, but
only in registries that took it in before.  As long as nobody overwrites a flag, list
and flag of an image agree that only one registry ever took in.
-/

namespace BootScript

variable {before after : Catalog} {registry : RegistryId} {image : Handle}

/-! ## Ledgers -/

/-- What a catalog shows of registrations after a history. -/
structure Consistent (history : List Event) (catalog : Catalog) : Prop where
  once : catalog.ListsOnce
  flagged : ∀ image, (catalog.image image).registered = true → ∃ id, image ∈ catalog.listed id
  /-- An image that no registry but one ever took in is listed there if its flag is set, and
  only then. -/
  alone : ∀ id image, (∀ other, .registered other image ∈ history → other = id) →
    (image ∈ catalog.listed id ↔ (catalog.image image).registered = true)

structure Ledger (history : List Event) (catalog : Catalog) : Prop
    extends Consistent history catalog where
  recorded : ∀ id image, image ∈ catalog.listed id → .registered id image ∈ history

namespace Ledger

variable {history : List Event}

theorem extend {later : List Event} (ledger : Ledger history before)
    (within : history ⊆ later) : Ledger later before where
  once := ledger.once
  flagged := ledger.flagged
  alone id image only := ledger.alone id image fun other event => only other (within event)
  recorded id image member := within (ledger.recorded id image member)

theorem keep (ledger : Ledger history before) (change : KeepsRegistration before after) :
    Ledger history after := by
  constructor
  · refine ⟨fun id => change.nodup (ledger.once id), ?_, ?_⟩
    · intro image set
      rw [change.flag] at set
      simpa only [change.list] using ledger.flagged image set
    · intro id image only
      rw [change.list, change.flag]
      exact ledger.alone id image only
  · intro id image member
    rw [change.list] at member
    exact ledger.recorded id image member

theorem enlist (ledger : Ledger history before) (change : Enlists registry image before after)
    (event : .registered registry image ∈ history) : Ledger history after := by
  constructor
  · refine ⟨fun id => change.nodup (ledger.once id), ?_, ?_⟩
    · intro other set
      rw [change.flag] at set
      by_cases same : other = image
      · exact ⟨registry, (change.mem_iff registry other).mpr (.inr ⟨rfl, same⟩)⟩
      · rw [if_neg same] at set
        obtain ⟨id, member⟩ := ledger.flagged other set
        exact ⟨id, (change.mem_iff id other).mpr (.inl member)⟩
    · intro id other only
      rw [change.mem_iff, change.flag]
      by_cases same : other = image
      · subst same
        simp [only registry event]
      · simpa [same] using ledger.alone id other only
  · intro id other member
    rcases (change.mem_iff id other).mp member with older | ⟨rfl, rfl⟩
    · exact ledger.recorded id other older
    · exact event

theorem delist (ledger : Ledger history before) (change : Delists registry image before after) :
    Ledger history after := by
  have event := ledger.recorded registry image change.member
  have mem_iff := change.mem_iff (ledger.once registry)
  constructor
  · refine ⟨fun id => change.nodup (ledger.once id), ?_, ?_⟩
    · intro other set
      rw [change.flag] at set
      by_cases same : other = image
      · simp [same] at set
      · rw [if_neg same] at set
        obtain ⟨id, member⟩ := ledger.flagged other set
        exact ⟨id, (mem_iff id other).mpr ⟨member, fun gone => same gone.2⟩⟩
    · intro id other only
      rw [mem_iff, change.flag]
      by_cases same : other = image
      · subst same
        simp [only registry event]
      · simpa [same] using ledger.alone id other only
  · intro id other member
    exact ledger.recorded id other ((mem_iff id other).mp member).1

end Ledger

/-! ## Courses -/

/-- A conduct that leaves the flags to the registries. -/
def Conduct.honest {World : Type} : Conduct World where
  acts _ deed := ∀ image value, deed ≠ .setRegistered image value

/-- Also images that are hidden now were taken in by the registry that they are hidden from. -/
structure Booked {World : Type} (position : Position World) : Prop where
  ledger : Ledger position.journal position.catalog
  hidden : ∀ frame ∈ position.running, frame.hidden = true →
    .registered frame.registry frame.image ∈ position.journal

namespace Booked

variable {World : Type} {position start stop : Position World}

theorem note (booked : Booked position) (event : Event) : Booked (position.note event) where
  ledger := booked.ledger.extend (List.subset_cons_self event _)
  hidden frame member hidden := List.mem_cons_of_mem _ (booked.hidden frame member hidden)

theorem act (booked : Booked position) {deed : Deed} {catalog : Catalog}
    (honest : ∀ image value, deed ≠ .setRegistered image value)
    (performed : deed.perform position.catalog = .ok catalog) :
    Booked (position.act deed catalog) := by
  have within : position.journal ⊆ deed.record ++ position.journal :=
    List.subset_append_right _ _
  have ledger := booked.ledger.extend within
  refine ⟨?_, fun frame member hidden => within (booked.hidden frame member hidden)⟩
  rcases Deed.registration_perform performed honest with
    ⟨registry, image, rfl, enlists⟩ | ⟨registry, image, delists⟩ | keeps
  · exact ledger.enlist enlists List.mem_cons_self
  · exact ledger.delist delists
  · exact ledger.keep keeps

theorem enter (booked : Booked position) (registry : RegistryId) (image : Handle) :
    Booked (position.enter registry image) := by
  have within : position.journal ⊆ (position.enter registry image).journal := by
    rw [Position.journal_enter]
    exact List.subset_cons_self _ _
  have ledger := booked.ledger.extend within
  constructor
  · rw [Position.catalog_enter]
    cases hidden : (Script.hide position.catalog registry image).1 with
    | true => exact ledger.delist (Script.delists_hide hidden)
    | false => exact ledger.keep (Script.keeps_hide hidden)
  · rw [Position.running_enter]
    refine List.forall_mem_cons.mpr ⟨?_, ?_⟩
    · intro hidden
      exact ledger.recorded registry image (Script.delists_hide hidden).member
    · exact fun frame member hidden => within (booked.hidden frame member hidden)

theorem leave (booked : Booked position) : Booked position.leave := by
  cases running : position.running with
  | nil => rwa [Position.leave_eq_self running]
  | cons frame rest =>
      have within : position.journal ⊆ position.leave.journal := by
        rw [Position.journal_leave running]
        exact List.subset_cons_self _ _
      have ledger := booked.ledger.extend within
      have recorded := booked.hidden
      rw [running] at recorded
      obtain ⟨innermost, others⟩ := List.forall_mem_cons.mp recorded
      constructor
      · rw [Position.catalog_leave running]
        by_cases again :
            frame.hidden = true ∧ frame.image ∉ position.catalog.listed frame.registry
        · rw [again.1]
          exact ledger.enlist (Script.enlists_unhide again.2) (within (innermost again.1))
        · exact ledger.keep (Script.keeps_unhide again)
      · rw [Position.running_leave running]
        exact fun other member hidden => within (others other member hidden)

theorem move (step : Move Conduct.honest start stop) (booked : Booked start) : Booked stop := by
  cases step with
  | turn world => exact ⟨booked.ledger, booked.hidden⟩
  | remark event truthful => exact booked.note event
  | act deed catalog permitted affordable performed => exact booked.act permitted performed
  | refuse registry image permitted busy => exact booked.note _
  | enter registry image permitted idle lines => exact booked.enter registry image
  | leave => exact booked.leave
  | pass registry image permitted idle noLines => exact (booked.enter registry image).leave

end Booked

namespace Session

theorem booked_start {registries : List Registry}
    (unlisted : ∀ registry ∈ registries, registry.listed = []) (shells : List Shell)
    (playbook : Playbook) : Booked (start registries shells playbook).position := by
  have listed := Catalog.listed_ofList registries unlisted .empty
  have image (handle : Handle) : (start registries shells playbook).position.catalog.image handle =
      default := Store.get_empty handle
  refine ⟨⟨⟨?_, ?_, ?_⟩, ?_⟩, ?_⟩
  · intro id
    exact (listed id).symm ▸ List.nodup_nil
  · intro handle set
    rw [image] at set
    exact absurd set Bool.false_ne_true
  · intro id handle only
    rw [image]
    simp [Position.catalog, position, start, listed, default]
  · intro id handle member
    simp [Position.catalog, position, start, listed] at member
  · simp [position]

/-- In a session that overwrites no flag, lists and flags tell the same, after every step
and wherever an interpreter is called. -/
theorem consistent_after {registries : List Registry}
    (unlisted : ∀ registry ∈ registries, registry.listed = []) (shells : List Shell)
    (playbook : Playbook) {steps : List Step}
    (honest : ∀ image value, .setRegistered image value ∉ steps) :
    let session := (start registries shells playbook).after steps
    Consistent session.machine.journal session.catalog ∧
      AtCalls Consistent session.machine.journal := by
  have admits : (Conduct.honest : Conduct Shells).AdmitsSession := by
    apply Conduct.admitsSession
    intro catalog deed ordinary
    rintro image value rfl
    exact ordinary
  have course := course_after admits (start registries shells playbook) steps
    (fun _ _ _ _ _ _ => Deed.noConfusion)
    (fun image value overwritten => absurd overwritten (honest image value))
  have booked := booked_start unlisted shells playbook
  constructor
  · exact (course.invariant Booked.move booked).ledger.toConsistent
  · exact Course.atCalls course Booked.move (fun booked => booked.ledger.toConsistent) booked
      atCalls_nil

/-- A script is registered, runs a line while it is hidden, and is put back and freed. -/
theorem consistent_after_unregister :
    let listsImages : Buffer := { contents := ⟨#[105, 109, 103, 115, 116, 97, 116], by decide⟩ }
    let session := (start [{}, { pinned := true }] [{}] {}).after
      [.create "menu" listsImages, .setFormat 0 Script.format, .register 0 0,
        .line 0 (Text.encode "boot menu"), .unregister 0 0]
    callers session.machine.journal = [[0], []] ∧
      (0 ∈ session.catalog.listed 0 ↔ (session.catalog.image 0).registered = true) ∧
      AtCalls Consistent session.machine.journal := by
  intro listsImages
  have unlisted : ∀ registry ∈ [({} : Registry), { pinned := true }], registry.listed = [] := by
    simp
  have honest : ∀ image value, .setRegistered image value ∉
      [Step.create "menu" listsImages, .setFormat 0 Script.format, .register 0 0,
        .line 0 (Text.encode "boot menu"), .unregister 0 0] := by
    simp
  have only {journal : List Event}
      (takers : (journal.filterMap fun
        | .registered registry 0 => some registry
        | _ => none) = [0]) : ∀ other, .registered other 0 ∈ journal → other = 0 := by
    intro other event
    have taker : other ∈ [0] := takers ▸ List.mem_filterMap.mpr ⟨_, event, rfl⟩
    exact List.mem_singleton.mp taker
  have told := consistent_after unlisted [{}] {} honest
  exact ⟨by decide +kernel, told.1.alone 0 0 (only (by decide +kernel)), told.2⟩

end Session

end BootScript
