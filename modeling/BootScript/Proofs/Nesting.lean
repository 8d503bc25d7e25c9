import BootScript.Proofs.Course

/-!
# Nests of runs

A journal tells which runs enclose each of its events.  On every course the images
that are marked as executing are those that were marked at its start and those of
the runs in progress, and the runs in progress are of different images.  A run is
refused where it would break this, and the end of a run clears no mark but its own.
-/

namespace BootScript

/-- The images of the runs that have begun and not ended, the innermost first. -/
def enclosing : List Event → List Handle
  | [] => []
  | .runBegan _ image _ :: earlier => image :: enclosing earlier
  | .runEnded _ _ _ _ _ :: earlier => (enclosing earlier).tail
  | _ :: earlier => enclosing earlier

/-- What holds at every call of an interpreter, of the events before the call and the
catalog that it was made over. -/
def AtCalls (property : List Event → Catalog → Prop) (journal : List Event) : Prop :=
  ∀ event earlier seen, event :: earlier <:+ journal → event.seen? = some seen →
    property earlier seen

/-- The images of the runs that enclose each call of an interpreter, the latest call first. -/
def callers : List Event → List (List Handle)
  | [] => []
  | event :: earlier =>
      if event.seen?.isSome then enclosing earlier :: callers earlier else callers earlier

variable {World : Type} {conduct : Conduct World} {before after : Position World}
  {property : List Event → Catalog → Prop}

theorem atCalls_nil : AtCalls property [] := by
  intro event earlier seen recorded
  simp at recorded

theorem AtCalls.cons {event : Event} {journal : List Event} (rest : AtCalls property journal)
    (first : ∀ seen, event.seen? = some seen → property journal seen) :
    AtCalls property (event :: journal) := by
  intro other earlier seen recorded called
  rcases List.suffix_cons_iff.mp recorded with same | older
  · obtain ⟨rfl, rfl⟩ := List.cons.inj same
    exact first seen called
  · exact rest other earlier seen older called

theorem AtCalls.record {journal : List Event} (rest : AtCalls property journal) (deed : Deed) :
    AtCalls property (deed.record ++ journal) := by
  cases deed with
  | setFormat | register | unregister => exact rest.cons (by simp [Event.seen?])
  | _ => exact rest

theorem enclosing_record (deed : Deed) (journal : List Event) :
    enclosing (deed.record ++ journal) = enclosing journal := by
  cases deed <;> rfl

theorem enclosing_remark {event : Event} {catalog : Catalog} (remarks : event.Remarks catalog)
    (journal : List Event) : enclosing (event :: journal) = enclosing journal := by
  cases event <;> simp_all [Event.Remarks, enclosing]

/-- What the moves of a course keep, and what follows from it wherever an interpreter
is called, holds at every call. -/
theorem Course.atCalls {Holds : Position World → Prop} (course : Course conduct before after)
    (kept : ∀ {start stop}, Move conduct start stop → Holds start → Holds stop)
    (tells : ∀ {position}, Holds position → property position.journal position.catalog)
    (start : Holds before) (calls : AtCalls property before.journal) :
    AtCalls property after.journal := by
  induction course with
  | refl => exact calls
  | @tail middle stop course move ih =>
      have holds : Holds middle := Course.invariant course kept start
      cases move with
      | turn world => exact ih
      | remark event truthful =>
          apply ih.cons
          intro seen called
          have same : seen = middle.catalog := by
            cases event <;> simp_all [Event.seen?, Event.Remarks]
          exact same ▸ tells holds
      | act deed catalog permitted affordable performed => exact ih.record deed
      | refuse registry image permitted busy => exact ih.cons (by simp [Event.seen?])
      | enter registry image permitted idle lines =>
          rw [Position.journal_enter]
          exact ih.cons (by simp [Event.seen?])
      | leave =>
          cases running : middle.running with
          | nil => rwa [Position.leave_eq_self running]
          | cons frame rest =>
              rw [Position.journal_leave running]
              exact ih.cons (by simp [Event.seen?])
      | pass registry image permitted idle noLines =>
          rw [Position.journal_leave (Position.running_enter ..), Position.journal_enter]
          exact (ih.cons (by simp [Event.seen?])).cons (by simp [Event.seen?])

/-- Where a course from a catalog stands, as far as marks are concerned. -/
structure Nested (first : Catalog) (position : Position World) : Prop where
  enclosing : enclosing position.journal = position.images
  executing : ∀ image, (position.catalog.image image).executing = true ↔
    (first.image image).executing = true ∨ image ∈ position.images
  distinct : position.images.Nodup
  idle : ∀ image ∈ position.images, (first.image image).executing = false

namespace Nested

variable {first : Catalog} {position : Position World}

theorem start (machine : Machine World) (blank : machine.journal = []) (owned : Handle → Nat) :
    Nested machine.catalog (⟨machine, [], owned⟩ : Position World) where
  enclosing := by simp [Position.journal, Position.images, blank, BootScript.enclosing]
  executing := by simp [Position.catalog, Position.images]
  distinct := List.nodup_nil
  idle := by simp [Position.images]

theorem enter (nested : Nested first position) {image : Handle} (registry : RegistryId)
    (idle : (position.catalog.image image).executing = false) :
    Nested first (position.enter registry image) := by
  have images : (position.enter registry image).images = image :: position.images := by
    simp only [Position.images, Position.running_enter, List.map_cons]
  have apart : ¬((first.image image).executing = true ∨ image ∈ position.images) := by
    rw [← nested.executing, idle]
    exact Bool.false_ne_true
  have fresh : (first.image image).executing = false := by simpa using not_or.mp apart |>.1
  refine ⟨?_, ?_, ?_, ?_⟩
  · rw [Position.journal_enter, images, BootScript.enclosing, nested.enclosing]
  · intro other
    rw [Position.catalog_enter, Script.image_hide, images, List.mem_cons]
    by_cases same : other = image
    · simp [same]
    · simp only [same, if_false, false_or]
      exact nested.executing other
  · rw [images]
    exact List.nodup_cons.mpr ⟨(not_or.mp apart).2, nested.distinct⟩
  · rw [images]
    exact List.forall_mem_cons.mpr ⟨fresh, nested.idle⟩

theorem leave (nested : Nested first position) : Nested first position.leave := by
  cases running : position.running with
  | nil => rwa [Position.leave_eq_self running]
  | cons frame rest =>
      have images : position.images = frame.image :: position.leave.images := by
        simp only [Position.images, Position.running_leave running, running, List.map_cons]
      have distinct := nested.distinct
      have idle := nested.idle
      rw [images] at distinct idle
      obtain ⟨apart, distinct⟩ := List.nodup_cons.mp distinct
      obtain ⟨fresh, idle⟩ := List.forall_mem_cons.mp idle
      refine ⟨?_, ?_, distinct, idle⟩
      · rw [Position.journal_leave running, BootScript.enclosing, nested.enclosing, images]
        rfl
      · intro other
        rw [Position.catalog_leave running, Script.image_unhide]
        by_cases same : other = frame.image
        · subst same
          simp [fresh, apart]
        · have kept := nested.executing other
          rw [images, List.mem_cons] at kept
          simpa only [same, if_false, false_or] using kept

/-- Every move keeps the marks in step with the runs. -/
theorem move (step : Move conduct before after) (nested : Nested first before) :
    Nested first after := by
  cases step with
  | turn world => exact ⟨nested.enclosing, nested.executing, nested.distinct, nested.idle⟩
  | remark event truthful =>
      exact ⟨(enclosing_remark truthful _).trans nested.enclosing, nested.executing,
        nested.distinct, nested.idle⟩
  | act deed catalog permitted affordable performed =>
      refine ⟨(enclosing_record deed _).trans nested.enclosing, ?_, nested.distinct, nested.idle⟩
      intro image
      exact (Deed.executing_perform performed image) ▸ nested.executing image
  | refuse registry image permitted busy =>
      exact ⟨nested.enclosing, nested.executing, nested.distinct, nested.idle⟩
  | enter registry image permitted idle lines => exact nested.enter registry idle
  | leave => exact nested.leave
  | pass registry image permitted idle noLines => exact (nested.enter registry idle).leave

theorem executing_eq (nested : Nested first position) (rested : position.running = [])
    (image : Handle) :
    (position.catalog.image image).executing = (first.image image).executing := by
  have marks := nested.executing image
  simp only [Position.images, rested, List.map_nil, List.not_mem_nil, or_false] at marks
  exact Bool.eq_iff_iff.mpr marks

end Nested

/-! ## Runs in progress have lines -/

theorem Buffer.lines_default : (default : Buffer).lines = [] := by
  decide

theorem Catalog.lt_size_of_lines {catalog : Catalog} {image : Handle}
    (lines : (catalog.image image).buffer.lines ≠ []) : image < catalog.images.size := by
  by_contra beyond
  rw [Catalog.image_of_size_le (Nat.le_of_not_lt beyond)] at lines
  exact lines Buffer.lines_default

/-- Where a course that makes no images stands, as far as lines are concerned. -/
structure Lined (first : Catalog) (position : Position World) : Prop where
  buffer : ∀ image, (position.catalog.image image).buffer = (first.image image).buffer
  lines : ∀ image ∈ position.images, (first.image image).buffer.lines ≠ []

theorem Script.buffer_hide (catalog : Catalog) (registry : RegistryId) (image other : Handle) :
    ((hide catalog registry image).2.image other).buffer = (catalog.image other).buffer := by
  rw [image_hide]
  split <;> simp_all

theorem Script.buffer_unhide (catalog : Catalog) (registry : RegistryId) (image other : Handle)
    (hidden : Bool) :
    ((unhide catalog registry image hidden).image other).buffer =
      (catalog.image other).buffer := by
  rw [image_unhide]
  split <;> simp_all

theorem Lined.move {first : Catalog} (step : Move conduct before after)
    (creates : ∀ catalog name buffer, ¬conduct.acts catalog (.create name buffer))
    (lined : Lined first before) : Lined first after := by
  cases step with
  | turn world => exact ⟨lined.buffer, lined.lines⟩
  | remark event truthful => exact ⟨lined.buffer, lined.lines⟩
  | act deed catalog permitted affordable performed =>
      refine ⟨fun image => ?_, lined.lines⟩
      refine (Deed.buffer_perform performed ?_ image).trans (lined.buffer image)
      rintro name buffer rfl
      exact creates _ _ _ permitted
  | refuse registry image permitted busy => exact ⟨lined.buffer, lined.lines⟩
  | enter registry image permitted idle lines =>
      refine ⟨fun other => ?_, ?_⟩
      · rw [Position.catalog_enter, Script.buffer_hide, lined.buffer]
      · rw [lined.buffer] at lines
        simp only [Position.images, Position.running_enter, List.map_cons, List.forall_mem_cons]
        exact ⟨lines, lined.lines⟩
  | leave =>
      cases running : before.running with
      | nil => rwa [Position.leave_eq_self running]
      | cons frame rest =>
          refine ⟨fun other => ?_, ?_⟩
          · rw [Position.catalog_leave running, Script.buffer_unhide, lined.buffer]
          · have lines := lined.lines
            simp only [Position.images, running, List.map_cons, List.forall_mem_cons] at lines
            simp only [Position.images, Position.running_leave running]
            exact lines.2
  | pass registry image permitted idle noLines =>
      have running := Position.running_enter before registry image
      refine ⟨fun other => ?_, ?_⟩
      · rw [Position.catalog_leave running, Script.buffer_unhide, Position.catalog_enter,
          Script.buffer_hide, lined.buffer]
      · simp only [Position.images, Position.running_leave running]
        exact lined.lines

end BootScript
