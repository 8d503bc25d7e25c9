import BootScript.Proofs.Sessions
import BootScript.Proofs.Nesting

/-!
# Formats are given for good

An image can be given a format through several doors, by the host and by whoever
interprets the commands of a script, and with any set of formats.  At most one such call
ever succeeds.  On every course the format that an image has is the one it had in the
beginning or the only one it was given since.
-/

namespace BootScript

/-! ## What the journal tells of formats -/

/-- The format that an event tells an image was given. -/
def Event.given? (image : Handle) : Event → Option Format
  | classified target format => if target = image then some format else none
  | _ => none

/-- The formats that an image was given, one for each call that succeeded, the latest first. -/
def formatsGiven (image : Handle) (journal : List Event) : List Format :=
  journal.filterMap (Event.given? image)

/-- What became of the format of an image.  No call succeeded and it is what it was, or there
was none, one call succeeded, and it is the one that was given. -/
inductive FormatOf (image : Handle) (history : List Event) : Option Format → Option Format → Prop
  | kept (format : Option Format) (nothing : formatsGiven image history = []) :
      FormatOf image history format format
  | given (format : Format) (once : formatsGiven image history = [format]) :
      FormatOf image history none (some format)

/-- Beside a history, the catalog that it began with and the one that it led to. -/
def Tagged (first : Catalog) (image : Handle) (history : List Event) (catalog : Catalog) : Prop :=
  FormatOf image history (first.image image).format (catalog.image image).format

section Journal

variable {image : Handle} {history : List Event} {before between after : Option Format}

theorem formatsGiven_append (image : Handle) (recent earlier : List Event) :
    formatsGiven image (recent ++ earlier) =
      formatsGiven image recent ++ formatsGiven image earlier :=
  List.filterMap_append

theorem formatsGiven_cons_of_none {event : Event} (silent : event.given? image = none)
    (history : List Event) : formatsGiven image (event :: history) = formatsGiven image history :=
  List.filterMap_cons_none silent

theorem FormatOf.length_le (formatOf : FormatOf image history before after) :
    (formatsGiven image history).length ≤ 1 := by
  cases formatOf with
  | kept format nothing => simp [nothing]
  | given format once => simp [once]

theorem FormatOf.of_silent {later : List Event} (formatOf : FormatOf image history before after)
    (silent : formatsGiven image later = []) :
    FormatOf image (later ++ history) before after := by
  have same : formatsGiven image (later ++ history) = formatsGiven image history := by
    rw [formatsGiven_append, silent, List.nil_append]
  cases formatOf with
  | kept _ nothing => exact .kept _ (same.trans nothing)
  | given _ once => exact .given _ (same.trans once)

/-- A call that succeeds finds no format, so none was given before. -/
theorem FormatOf.classified (formatOf : FormatOf image history before none) (format : Format) :
    FormatOf image (.classified image format :: history) before (some format) := by
  have told : Event.given? image (.classified image format) = some format := if_pos rfl
  cases formatOf with
  | kept _ nothing =>
      apply FormatOf.given
      rw [formatsGiven, List.filterMap_cons_some told]
      exact congrArg (format :: ·) nothing

end Journal

/-! ## Moves -/

/-- Only giving an image its format changes it, and only where there was none. -/
theorem Deed.format_perform {deed : Deed} {catalog after : Catalog}
    (performed : deed.perform catalog = .ok after) (image : Handle) :
    (∃ format, deed = .setFormat image format ∧ (catalog.image image).format = none ∧
        (after.image image).format = some format) ∨
      formatsGiven image deed.record = [] ∧
        (after.image image).format = (catalog.image image).format := by
  have changed := image_perform performed image
  cases deed with
  | setFormat target format =>
      by_cases same : image = target
      · subst same
        have untagged := (Catalog.setFormat_eq_ok_iff.mp performed).1
        refine .inl ⟨format, rfl, untagged, ?_⟩
        rw [changed, imageAfter, if_pos rfl]
      · have silent : Event.given? image (.classified target format) = none :=
          if_neg (Ne.symm same)
        refine .inr ⟨formatsGiven_cons_of_none silent [], ?_⟩
        rw [changed, imageAfter, if_neg same]
  | _ =>
      refine .inr ⟨rfl, ?_⟩
      rw [changed]
      simp only [imageAfter]
      split <;> simp_all [image_next, default]

section Moves

variable {World : Type} {conduct : Conduct World} {before after position : Position World}
  {first : Catalog} {image : Handle}

theorem Script.format_hide (catalog : Catalog) (registry : RegistryId) (image other : Handle) :
    ((hide catalog registry image).2.image other).format = (catalog.image other).format := by
  rw [image_hide]
  split <;> simp_all

theorem Script.format_unhide (catalog : Catalog) (registry : RegistryId) (image other : Handle)
    (hidden : Bool) :
    ((unhide catalog registry image hidden).image other).format =
      (catalog.image other).format := by
  rw [image_unhide]
  split <;> simp_all

/-- An event that gives no format, beside a catalog with the same format. -/
theorem Tagged.cons {history : List Event} {catalog later : Catalog} {event : Event}
    (tagged : Tagged first image history catalog) (silent : event.given? image = none)
    (format : (later.image image).format = (catalog.image image).format) :
    Tagged first image (event :: history) later := by
  have nothing : formatsGiven image [event] = [] := formatsGiven_cons_of_none silent []
  unfold Tagged
  rw [format]
  exact FormatOf.of_silent tagged nothing

theorem Tagged.enter (tagged : Tagged first image position.journal position.catalog)
    (registry : RegistryId) (entered : Handle) :
    Tagged first image (position.enter registry entered).journal
      (position.enter registry entered).catalog := by
  rw [Position.journal_enter, Position.catalog_enter]
  exact tagged.cons rfl (Script.format_hide ..)

theorem Tagged.leave (tagged : Tagged first image position.journal position.catalog) :
    Tagged first image position.leave.journal position.leave.catalog := by
  cases running : position.running with
  | nil => rwa [Position.leave_eq_self running]
  | cons frame rest =>
      rw [Position.journal_leave running, Position.catalog_leave running]
      exact tagged.cons rfl (Script.format_unhide ..)

theorem Tagged.move (step : Move conduct before after)
    (tagged : Tagged first image before.journal before.catalog) :
    Tagged first image after.journal after.catalog := by
  cases step with
  | turn world => exact tagged
  | remark event truthful =>
      refine tagged.cons ?_ rfl
      cases event with
      | classified => exact truthful.elim
      | _ => rfl
  | act deed catalog permitted affordable performed =>
      rcases Deed.format_perform performed image with
        ⟨format, rfl, untagged, given⟩ | ⟨silent, same⟩
      · unfold Tagged at tagged
        rw [show (before.catalog.image image).format = none from untagged] at tagged
        have grown := tagged.classified format
        rwa [← given] at grown
      · have grown := FormatOf.of_silent tagged silent
        rwa [show (before.catalog.image image).format = _ from same.symm] at grown
  | refuse registry entered permitted busy => exact tagged.cons rfl rfl
  | enter registry entered permitted idle lines => exact tagged.enter registry entered
  | leave => exact tagged.leave
  | pass registry entered permitted idle noLines => exact (tagged.enter registry entered).leave

/-- Whatever happens on a course, and wherever on it an interpreter is called. -/
theorem Course.tagged (course : Course conduct before after) (image : Handle) :
    ∃ recent, after.journal = recent ++ before.journal ∧
      Tagged before.catalog image recent after.catalog ∧
      AtCalls (Tagged before.catalog image) recent := by
  obtain ⟨recent, added, blank⟩ := course.recent
  let Holds (position : Position World) : Prop :=
    Tagged before.catalog image position.journal position.catalog
  have kept {start stop : Position World} (move : Move conduct start stop)
      (tagged : Holds start) : Holds stop := Tagged.move move tagged
  have start : Holds (before.withJournal []) := .kept _ rfl
  exact ⟨recent, added, blank.invariant kept start, blank.atCalls kept id start atCalls_nil⟩

end Moves

/-! ## Calls -/

section Calls

variable {World : Type}

/-- What comes of a call that would give an image a format.  Either it is refused and
changes nothing, or it finds no format, gives one and is told in the journal. -/
inductive Asked (image : Handle) (before : Machine World) : Machine World → Prop
  | refused : Asked image before before
  | given (format : Format) (after : Machine World)
      (untagged : (before.catalog.image image).format = none)
      (tagged : (after.catalog.image image).format = some format)
      (told : after.journal = .classified image format :: before.journal) :
      Asked image before after

theorem Asked.of_setFormat {image : Handle} {format : Format} {before : Machine World}
    {catalog : Catalog} (sets : before.catalog.setFormat image format = .ok catalog) :
    Asked image before
      { before with catalog, journal := .classified image format :: before.journal } := by
  obtain ⟨untagged, rfl⟩ := Catalog.setFormat_eq_ok_iff.mp sets
  refine .given format _ untagged ?_ rfl
  rw [Catalog.image_modifyImage, if_pos rfl]

theorem Execution.asked_classify (formats : Formats) (image : Handle) (machine : Machine World) :
    Asked image machine (classify formats image machine).2 := by
  rw [classify_apply]
  cases classified : machine.catalog.classify image formats with
  | error failure => exact .refused
  | ok given => exact .of_setFormat (Catalog.setFormat_of_classify classified)

/-- How an image answers those who would give it a format and those who execute it.  The
format that it has, if any, decides. -/
structure Answers (machine : Machine World) (image : Handle) : Prop where
  refuses : ∀ known, (machine.catalog.image image).format = some known →
    let refusal : ImageError :=
      .alreadyClassified (machine.catalog.image image).name known.name
    (∀ format, machine.catalog.setFormat image format = .error refusal) ∧
      (∀ format : Format, format.recognise (machine.catalog.image image).buffer = .ok () →
        machine.catalog.probe image format = .error refusal) ∧
      ∀ formats, Execution.classify formats image machine = (.ok (.error refusal), machine)
  /-- Handed to its format, an image is executed by that format and by no other. -/
  executes : ∀ interpret registry known, (machine.catalog.image image).format = some known →
    dispatch interpret registry image machine =
      let executed := known.execute interpret registry image
        { machine with journal := .dispatched image :: machine.journal }
      (executed.1.map .ok, executed.2)
  untouched : ∀ interpret registry, (machine.catalog.image image).format = none →
    (dispatch interpret registry image machine).2 = machine
  fails : ∀ interpret registry failure,
    (dispatch interpret registry image machine).1 = .ok (.error failure) ↔
      (machine.catalog.image image).format = none ∧
        failure = .notExecutable (machine.catalog.image image).name

theorem answers (machine : Machine World) (image : Handle) : Answers machine image where
  refuses known tagged := by
    refine ⟨fun format => ?_, fun format recognised => ?_, fun formats => ?_⟩
    · simp only [Catalog.setFormat, Image.setFormat, tagged, Except.map, Image.alreadyClassified]
    · simp only [Catalog.probe, Format.probe, recognised, Image.setFormat, tagged, Except.map,
        Image.alreadyClassified]
    · simp only [Execution.classify_apply, Catalog.classify, Formats.classify, tagged,
        Except.map, Image.alreadyClassified]
  executes interpret registry known tagged := dispatch_of_some tagged
  untouched interpret registry untagged := by rw [dispatch_of_none untagged]
  fails interpret registry failure := by
    cases tag : (machine.catalog.image image).format with
    | none =>
        rw [dispatch_of_none tag]
        simp [eq_comm]
    | some known =>
        rw [dispatch_of_some tag]
        dsimp only
        generalize known.execute interpret registry image _ = executed
        obtain ⟨outcome, after⟩ := executed
        cases outcome <;> simp [Except.map]

end Calls

/-- The calls of a host that would give an image a format. -/
def Step.Asks (image : Handle) : Step → Prop
  | setFormat target _ => target = image
  | probe target _ => target = image
  | classify target => target = image
  | _ => False

namespace Session

theorem asked_keepFormat {session : Session} {image : Handle} {format : Format}
    {attempt : Except ImageError Catalog}
    (sets : ∀ catalog, attempt = .ok catalog →
      session.catalog.setFormat image format = .ok catalog) :
    Asked image session.machine (session.keepFormat image format attempt).2.machine := by
  cases attempt with
  | error failure => exact .refused
  | ok catalog => exact .of_setFormat (sets catalog rfl)

theorem asked_step {session : Session} {image : Handle} {step : Step} (asks : step.Asks image) :
    Asked image session.machine (session.step step).2.machine := by
  cases step with
  | setFormat target format =>
      obtain rfl : target = image := asks
      exact asked_keepFormat fun _ => id
  | probe target format =>
      obtain rfl : target = image := asks
      exact asked_keepFormat fun _ => Catalog.setFormat_of_probe
  | classify target =>
      obtain rfl : target = image := asks
      simp only [step, snd_carryOut]
      exact Execution.asked_classify session.formats target session.machine
  | _ => exact asks.elim

/-- A format is given at most once and for good, whatever a session does and whatever the
runs in it do, and it alone decides how its image answers. -/
theorem gives_format_once (session : Session) (steps : List Step) (image : Handle) :
    ∃ recent, (session.after steps).machine.journal = recent ++ session.machine.journal ∧
      (formatsGiven image recent).length ≤ 1 ∧
      Tagged session.catalog image recent (session.after steps).catalog ∧
      AtCalls (Tagged session.catalog image) recent ∧
      (∀ step : Step, step.Asks image →
        Asked image (session.after steps).machine
          ((session.after steps).step step).2.machine) ∧
      (∀ formats, ∀ machine : Machine Shells,
        Asked image machine (Execution.classify formats image machine).2) ∧
      ∀ machine : Machine Shells, Answers machine image := by
  have course := course_after (Conduct.admitsSession fun _ _ _ => trivial) session steps
    (fun _ _ _ _ => trivial) (fun _ _ _ _ => trivial)
  obtain ⟨recent, added, tagged, calls⟩ := course.tagged image
  exact ⟨recent, added, FormatOf.length_le tagged, tagged, calls, fun _ => asked_step,
    fun formats machine => Execution.asked_classify formats image machine,
    fun machine => answers machine image⟩

end Session

end BootScript
