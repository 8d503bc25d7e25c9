import BootScript.Proofs.Logic
import BootScript.Proofs.Ways

/-!
# What a shell recounts

What a shell adds to the journal is made up of lines that have ended, one within another, and
of single events in between.  The complaint of a line comes right before its end.  So a
property that every line has of what it found, what happened within it and what it came to
is told of all of them, however deep they are.
-/

namespace BootScript

namespace Event

/-- Neither the beginning nor the end of a line, nor a complaint. -/
def Aside : Event → Prop
  | lineBegan _ _ _ | lineEnded _ _ => False
  | wrote _ purpose _ => purpose ≠ .complaint
  | _ => True

theorem Quiet.aside {event : Event} (quiet : event.Quiet) : event.Aside := by
  cases event with
  | dispatched | runRefused => trivial
  | _ => exact quiet.elim

end Event

/-- A property of a line, the catalog that it found, what happened within it and its answer. -/
abbrev LineProperty : Type :=
  String → Catalog → List Event → Except ShellError Status → Prop

/-- Events of lines that have ended, each with a property. -/
inductive Recounts (id : ShellId) (property : LineProperty) : List Event → Prop
  | nil : Recounts id property []
  | aside {event : Event} {earlier : List Event} (before : Recounts id property earlier)
      (single : event.Aside) : Recounts id property (event :: earlier)
  | line {line : String} {seen : Catalog} {within earlier : List Event}
      {answer : Except ShellError Status} (before : Recounts id property earlier)
      (inner : Recounts id property within) (holds : property line seen within answer) :
      Recounts id property (.lineEnded id (Ending.status answer) ::
        (Shell.complaint id answer ++ within ++ .lineBegan id line seen :: earlier))

namespace Recounts

variable {id : ShellId} {property : LineProperty} {recent earlier later : List Event}

theorem append (before : Recounts id property earlier) (after : Recounts id property later) :
    Recounts id property (later ++ earlier) := by
  induction after with
  | nil => exact before
  | aside _ single ih => exact .aside ih single
  | line _ inner holds ih _ =>
      rw [List.cons_append, List.append_assoc, List.cons_append]
      exact .line ih inner holds

theorem single {event : Event} (aside : event.Aside) : Recounts id property [event] :=
  .aside .nil aside

/-- A property that follows from another of lines that found a catalog of some kind, if every
line did. -/
theorem mono {stronger : LineProperty} {kind : Catalog → Prop}
    (recounts : Recounts id property recent)
    (finds : ∀ shell line seen, .lineBegan shell line seen ∈ recent → kind seen)
    (follows : ∀ line seen within answer, kind seen → property line seen within answer →
      stronger line seen within answer) : Recounts id stronger recent := by
  induction recounts with
  | nil => exact .nil
  | aside _ single ih =>
      refine .aside (ih fun shell line seen member => ?_) single
      exact finds shell line seen (List.mem_cons_of_mem _ member)
  | @line line seen within earlier answer _ _ holds ih ih' =>
      refine .line (ih ?_) (ih' ?_) (follows line seen within answer ?_ holds)
      · intro shell line seen member
        exact finds shell line seen (by simp [member])
      · intro shell line seen member
        exact finds shell line seen (by simp [member])
      · exact finds id line seen (by simp)

/-- Every complaint is one of a line. -/
theorem complaint_mem (recounts : Recounts id property recent) {shell : ShellId} {text : String}
    (member : .wrote shell .complaint text ∈ recent) :
    ∃ line seen within failure, property line seen within (.error failure) ∧
      text = failure.message ++ "\n" := by
  induction recounts with
  | nil => exact absurd member List.not_mem_nil
  | aside _ single ih =>
      rcases List.mem_cons.mp member with rfl | member
      · exact absurd rfl single
      · exact ih member
  | @line line seen within earlier answer _ _ holds ih ih' =>
      simp only [List.mem_cons, List.mem_append, reduceCtorEq, false_or] at member
      rcases member with (complained | member) | member
      · cases answer with
        | ok status => exact absurd complained List.not_mem_nil
        | error failure =>
            obtain ⟨-, -, rfl⟩ : shell = id ∧ True ∧ text = failure.message ++ "\n" := by
              simpa [Shell.complaint] using complained
            exact ⟨line, seen, within, failure, holds, rfl⟩
      · exact ih' member
      · exact ih member

end Recounts

namespace Shell

variable {id : ShellId} {registry : RegistryId} {property : LineProperty}
  {machine between after : Machine Shells} {recent earlier : List Event}

/-- A shell over a registry, on a sink without a limit. -/
structure Unbounded (id : ShellId) (registry : RegistryId) (machine : Machine Shells) : Prop where
  serves : (machine.world.get id).registry = registry
  unlimited : (machine.world.get id).sink.room = none

/-- What a shell over a registry has recorded, with a property of all the lines in it. -/
structure Leaves (id : ShellId) (registry : RegistryId) (property : LineProperty)
    (before after : Machine Shells) (recent : List Event) : Prop where
  serves : (after.world.get id).registry = registry
  recorded : Recorded id before after recent
  recounts : Recounts id property recent

namespace Leaves

theorem unbounded (leaves : Leaves id registry property machine after recent) :
    Unbounded id registry after :=
  ⟨leaves.serves, leaves.recorded.unlimited⟩

theorem refl (unbounded : Unbounded id registry machine) :
    Leaves id registry property machine machine [] :=
  ⟨unbounded.serves, .refl unbounded.unlimited, .nil⟩

theorem trans (first : Leaves id registry property machine between earlier)
    (second : Leaves id registry property between after recent) :
    Leaves id registry property machine after (recent ++ earlier) :=
  ⟨second.serves, first.recorded.trans second.recorded, first.recounts.append second.recounts⟩

/-- A single event that writes nothing. -/
theorem of_silent {event : Event} (unbounded : Unbounded id registry machine)
    (world : after.world = machine.world) (added : after.journal = event :: machine.journal)
    (silent : event.bytes id = []) (single : event.Aside) :
    Leaves id registry property machine after [event] :=
  ⟨world ▸ unbounded.serves, .of_silent unbounded.unlimited world added silent, .single single⟩

end Leaves

theorem Unbounded.leaves_write (unbounded : Unbounded id registry machine) {purpose : Purpose}
    (calm : purpose ≠ .complaint) (text : String) :
    Leaves id registry property machine (write id purpose text machine).2
      [.wrote id purpose text] := by
  obtain ⟨recorded, -⟩ := Recorded.of_write unbounded.unlimited purpose text
  refine ⟨?_, recorded, .single calm⟩
  simpa [write] using unbounded.serves

/-- The way of a shell that leaves a record of all that it does. -/
def Way.recounting (id : ShellId) (registry : RegistryId) (property : LineProperty) : Way where
  Stands := Unbounded id registry
  Leads before after := ∃ recent, Leaves id registry property before after recent
  refl unbounded := ⟨[], .refl unbounded⟩
  trans := fun ⟨_, first⟩ ⟨_, second⟩ => ⟨_, first.trans second⟩
  ends := fun ⟨_, leaves⟩ => leaves.unbounded

def Practice.recounting (id : ShellId) (registry : RegistryId) (property : LineProperty) :
    Practice id where
  Serves served := served = registry
  Reaches _ := True
  Holds execution := (Way.recounting id registry property).Takes execution
  ofTooDeep _ _ _ _ returned := by simp [Execution.abandon] at returned
  ofPure := (Way.recounting id registry property).takes_pure
  ofBind := Way.Takes.bind
  ofWrite text := by
    intro machine answer after unbounded returned
    have leaves : Leaves id registry property machine (write id .result text machine).2 _ :=
      unbounded.leaves_write (by decide) text
    rw [returned] at leaves
    exact ⟨_, leaves⟩
  ofRegistry next holds := by
    intro machine answer after unbounded returned
    exact holds _ unbounded.serves machine answer after unbounded returned
  ofListing _ holds := by
    intro machine answer after unbounded returned
    exact holds _ machine answer after unbounded returned
  ofBootTarget {served} arguments _ _ refused chosen :=
    Way.takes_target _ (bootTarget · served arguments) refused fun image => chosen image trivial
  ofFreeTarget {served} arguments _ _ refused chosen :=
    Way.takes_target _ (freeTarget · served arguments) refused fun image => chosen image trivial
  ofUnregister := by
    rintro served image - - machine answer after unbounded returned
    rw [Execution.unregister_apply] at returned
    cases outcome : machine.catalog.unregister served image with
    | error failure =>
        simp only [outcome] at returned
        obtain ⟨-, rfl⟩ := Prod.mk.inj returned
        exact ⟨[], .refl unbounded⟩
    | ok catalog =>
        simp only [outcome] at returned
        obtain ⟨-, rfl⟩ := Prod.mk.inj returned
        exact ⟨_, .of_silent unbounded rfl rfl rfl trivial⟩
  ofImage next _ holds := by
    intro machine answer after unbounded returned
    exact holds _ machine answer after unbounded returned
  ofNote {_ _ event _} quiet takes := by
    have silent : event.bytes id = [] := by cases event <;> simp_all [Event.Quiet, Event.bytes]
    exact takes.note fun machine unbounded => ⟨_, .of_silent unbounded rfl rfl silent quiet.aside⟩
  ofHidden _ _ takes := by
    refine takes.whileHidden ?_ ?_
    · exact fun machine unbounded =>
        ⟨_, .of_silent unbounded (Script.world_begin ..) rfl rfl trivial⟩
    · exact fun machine left _ unbounded =>
        ⟨_, .of_silent unbounded (Script.world_finish ..) (Script.journal_finish ..) rfl trivial⟩

/-! ## A line -/

/-- What a shell writes when it traces a command. -/
def trace (id : ShellId) (line : String) (machine : Machine Shells) : List Event :=
  if (machine.world.get id).traceCommands then [.wrote id .trace ("$ " ++ line ++ "\n")] else []

theorem Unbounded.leaves_traceLine (unbounded : Unbounded id registry machine) (line : String) :
    Leaves id registry property machine (traceLine id line machine) (trace id line machine) := by
  unfold traceLine trace
  split
  · exact unbounded.leaves_write (by decide) _
  · exact .refl unbounded

/-- A property that every line has, of what it found, recorded and came to. -/
def LinesHave (id : ShellId) (registry : RegistryId) (property : LineProperty) : Prop :=
  ∀ depth line machine answer after within, Unbounded id registry machine →
    attemptLine (booterWithin id depth) id line (beginLine id line machine) =
      (.ok answer, after) →
    Recorded id (beginLine id line machine) after within →
      property line machine.catalog within answer

theorem recounting_runLineWithin (lines : LinesHave id registry property) (depth : Nat)
    (line : String) :
    (Way.recounting id registry property).Takes (runLineWithin id depth line) := by
  refine (Practice.recounting id registry property).runLineWithin ?_ depth line
  intro depth line performs machine status after unbounded returned
  rw [runLineWithin_succ] at returned
  obtain ⟨answer, between, attempted, rfl, rfl⟩ := asLine_eq_ok returned
  have begun : Unbounded id registry (beginLine id line machine) :=
    ⟨unbounded.serves, unbounded.unlimited⟩
  have attempts : (Way.recounting id registry property).Takes
      (attemptLine (booterWithin id depth) id line) :=
    Way.takes_attemptLine _ line (fun _ unbounded => unbounded.unlimited)
      (fun _ unbounded => ⟨_, unbounded.leaves_traceLine line⟩) performs
  obtain ⟨within, inner⟩ := attempts _ answer between begun attempted
  have holds := lines depth line machine answer between within unbounded attempted inner.recorded
  have complained := inner.recorded.trans (recorded_complain answer inner.recorded.unlimited)
  have serves : ((complain id answer between).world.get id).registry = registry := by
    cases answer with
    | ok status => exact inner.serves
    | error failure => simpa [complain, write] using inner.serves
  exact ⟨_, serves, complained.around_line (Ending.status answer),
    .line .nil inner.recounts holds⟩

end Shell

end BootScript
