import BootScript.Proofs.Logic
import BootScript.Proofs.Sessions
import BootScript.Proofs.Transcript

/-!
# Tracing

A shell that traces its commands writes each of them down as soon as it begins, and does
nothing else that it would not do without.  So its journal is that of the same shell without
tracing, with one record after the beginning of every command, at every depth.
-/

namespace BootScript

/-- An event as a shell tells it that traces its commands.  The latest comes first: the
record of a command follows its beginning. -/
def Event.traced (id : ShellId) : Event → List Event
  | lineBegan shell line seen =>
      if shell = id ∧ (Command.ofLine? line).isSome then
        [wrote id .trace ("$ " ++ line ++ "\n"), lineBegan shell line seen]
      else [lineBegan shell line seen]
  | event => [event]

/-- A journal with a record of every command. -/
def withTraces (id : ShellId) (recent : List Event) : List Event :=
  recent.flatMap (Event.traced id)

theorem Event.Quiet.traced_eq {event : Event} (quiet : event.Quiet) (id : ShellId) :
    event.traced id = [event] ∧ event.bytes id = [] := by
  cases event with
  | dispatched | runRefused => exact ⟨rfl, rfl⟩
  | _ => exact quiet.elim

namespace Shell

variable {id : ShellId} {plain traced left right : Machine Shells}

/-- A machine on which a shell traces its commands, or does not. -/
def withTracing (id : ShellId) (traces : Bool) (machine : Machine Shells) : Machine Shells :=
  { machine with
    world := machine.world.modify id fun shell => { shell with traceCommands := traces } }

theorem sink_withTracing (traces : Bool) (machine : Machine Shells) :
    ((withTracing id traces machine).world.get id).sink = (machine.world.get id).sink := by
  simp [withTracing]

/-- Where two machines stand that differ in tracing, seen from where they started. -/
structure Beside (id : ShellId) (plain traced left right : Machine Shells) : Prop where
  catalog_eq : right.catalog = left.catalog
  registry_eq : (right.world.get id).registry = (left.world.get id).registry
  untraced : (left.world.get id).traceCommands = false
  traces : (right.world.get id).traceCommands = true
  told : ∃ recent, Recorded id plain left recent ∧ Recorded id traced right (withTraces id recent)

/-! ## What keeps machines beside each other -/

namespace Beside

theorem unlimited (beside : Beside id plain traced left right) :
    (left.world.get id).sink.room = none ∧ (right.world.get id).sink.room = none := by
  obtain ⟨recent, recorded, recorded'⟩ := beside.told
  exact ⟨recorded.unlimited, recorded'.unlimited⟩

theorem tell {left' right' : Machine Shells} {recent : List Event}
    (beside : Beside id plain traced left right) (recorded : Recorded id left left' recent)
    (recorded' : Recorded id right right' (withTraces id recent)) :
    ∃ whole, Recorded id plain left' whole ∧ Recorded id traced right' (withTraces id whole) := by
  obtain ⟨earlier, first, first'⟩ := beside.told
  refine ⟨recent ++ earlier, first.trans recorded, ?_⟩
  have whole := first'.trans recorded'
  rwa [withTraces, withTraces, ← List.flatMap_append] at whole

/-- Both come to the same catalog, and of that nothing is written. -/
theorem note (beside : Beside id plain traced left right) {event : Event}
    {catalog catalog' : Catalog} (unwritten : event.bytes id = [])
    (same : event.traced id = [event]) (agree : catalog' = catalog) :
    Beside id plain traced { left with catalog, journal := event :: left.journal }
      { right with catalog := catalog', journal := event :: right.journal } := by
  refine ⟨agree, beside.registry_eq, beside.untraced, beside.traces, ?_⟩
  have recorded : Recorded id left { left with catalog, journal := event :: left.journal }
      [event] := .of_silent beside.unlimited.1 rfl rfl unwritten
  refine beside.tell recorded ?_
  rw [withTraces, List.flatMap_singleton, same]
  exact .of_silent beside.unlimited.2 rfl rfl unwritten

theorem write (beside : Beside id plain traced left right) (purpose : Purpose) (text : String) :
    Beside id plain traced (write id purpose text left).2 (write id purpose text right).2 := by
  refine ⟨beside.catalog_eq, ?_, ?_, ?_, ?_⟩
  · simpa [Shell.write] using beside.registry_eq
  · simpa [Shell.write] using beside.untraced
  · simpa [Shell.write] using beside.traces
  · exact beside.tell (Recorded.of_write beside.unlimited.1 purpose text).1
      (Recorded.of_write beside.unlimited.2 purpose text).1

theorem complain (beside : Beside id plain traced left right)
    (answer : Except ShellError Status) :
    Beside id plain traced (complain id answer left) (complain id answer right) := by
  cases answer with
  | ok status => exact beside
  | error failure => exact beside.write .complaint _

theorem endLine (beside : Beside id plain traced left right) (status : Status) :
    Beside id plain traced (endLine id status left) (endLine id status right) :=
  beside.note rfl rfl beside.catalog_eq

theorem begin (beside : Beside id plain traced left right) (registry : RegistryId)
    (image : Handle) :
    Beside id plain traced (Script.begin registry image left)
      (Script.begin registry image right) := by
  unfold Script.begin
  rw [beside.catalog_eq]
  exact beside.note rfl rfl rfl

theorem finish (beside : Beside id plain traced left right) (registry : RegistryId)
    (image : Handle) (hidden : Bool) :
    Beside id plain traced (Script.finish registry image hidden left)
      (Script.finish registry image hidden right) := by
  unfold Script.finish
  rw [beside.catalog_eq]
  exact beside.note rfl rfl rfl

/-- A line that is no command begins in the same way. -/
theorem beginLine (beside : Beside id plain traced left right) {line : String}
    (idle : Command.ofLine? line = none) :
    Beside id plain traced (beginLine id line left) (beginLine id line right) := by
  unfold Shell.beginLine
  rw [beside.catalog_eq]
  exact beside.note rfl (by simp [Event.traced, idle]) rfl

/-- A command is written down on one of the machines. -/
theorem traceLine (beside : Beside id plain traced left right) {line : String}
    {command : Command} (asks : Command.ofLine? line = some command) :
    Beside id plain traced (traceLine id line (Shell.beginLine id line left))
      (traceLine id line (Shell.beginLine id line right)) := by
  have begun : Recorded id right (Shell.beginLine id line right)
      [.lineBegan id line right.catalog] := .of_silent beside.unlimited.2 rfl rfl rfl
  have wrote := begun.trans
    (Recorded.of_write begun.unlimited .trace ("$ " ++ line ++ "\n")).1
  have still : Shell.traceLine id line (Shell.beginLine id line left) =
      Shell.beginLine id line left := if_neg (by simp [Shell.beginLine, beside.untraced])
  have written : Shell.traceLine id line (Shell.beginLine id line right) =
      (Shell.write id .trace ("$ " ++ line ++ "\n") (Shell.beginLine id line right)).2 :=
    if_pos beside.traces
  have silent : Recorded id left (Shell.beginLine id line left)
      [.lineBegan id line left.catalog] := .of_silent beside.unlimited.1 rfl rfl rfl
  rw [still, written]
  refine ⟨beside.catalog_eq, ?_, beside.untraced, ?_, ?_⟩
  · simpa [Shell.write, Shell.beginLine] using beside.registry_eq
  · simpa [Shell.write, Shell.beginLine] using beside.traces
  · refine beside.tell silent ?_
    rw [beside.catalog_eq] at wrote
    simpa [withTraces, Event.traced, asks] using wrote

end Beside

/-! ## Lines with and without tracing -/

/-- Commands do the same on both machines. -/
def Practice.tracing (id : ShellId) (plain traced : Machine Shells) : Practice id where
  Serves _ := True
  Reaches _ := True
  Holds execution := Respects (Beside id plain traced) execution
  ofTooDeep _ _ beside := ⟨rfl, beside⟩
  ofPure := respects_pure
  ofBind begins continues passes := begins.bind (passes.forall_next respects_pure continues)
  ofWrite text left right beside := by
    obtain ⟨-, taken⟩ := Recorded.of_write beside.unlimited.1 .result text
    obtain ⟨-, taken'⟩ := Recorded.of_write beside.unlimited.2 .result text
    exact ⟨taken'.trans taken.symm, beside.write .result text⟩
  ofRegistry next holds left right beside := by
    simp only [current, Execution.bind_apply, beside.registry_eq]
    exact holds _ trivial left right beside
  ofListing _ holds left right beside := by
    simp only [listing, Execution.catalog, Execution.bind_apply, beside.catalog_eq]
    exact holds _ left right beside
  ofBootTarget {registry} arguments next _ refused chosen left right beside := by
    simp only [Execution.catalog, Execution.bind_apply, beside.catalog_eq]
    cases bootTarget left.catalog registry arguments with
    | error failure => exact refused failure left right beside
    | ok image => exact chosen image trivial left right beside
  ofFreeTarget {registry} arguments next _ refused chosen left right beside := by
    simp only [Execution.catalog, Execution.bind_apply, beside.catalog_eq]
    cases freeTarget left.catalog registry arguments with
    | error failure => exact refused failure left right beside
    | ok image => exact chosen image trivial left right beside
  ofUnregister {registry image} _ _ left right beside := by
    rw [Execution.unregister_apply, Execution.unregister_apply, beside.catalog_eq]
    cases left.catalog.unregister registry image with
    | error failure => exact ⟨rfl, beside⟩
    | ok catalog => exact ⟨rfl, beside.note rfl rfl rfl⟩
  ofImage next _ holds left right beside := by
    simp only [Execution.catalog, Execution.bind_apply, beside.catalog_eq]
    exact holds _ left right beside
  ofNote {_ _ event _} quiet holds left right beside := by
    obtain ⟨same, unwritten⟩ := quiet.traced_eq id
    exact holds _ _ (beside.note unwritten same beside.catalog_eq)
  ofHidden {_ _ registry image body} _ _ holds left right beside := by
    obtain ⟨outcome, ended⟩ := holds _ _ (beside.begin registry image)
    rw [Script.whileHidden_apply, Script.whileHidden_apply, beside.catalog_eq]
    exact ⟨outcome, ended.finish registry image _⟩

theorem respects_runLineWithin (depth : Nat) (line : String) :
    Respects (Beside id plain traced) (runLineWithin id depth line) := by
  refine (Practice.tracing id plain traced).runLineWithin ?_ depth line
  intro depth line performs left right beside
  rw [runLineWithin_succ]
  refine asLine_side_by_side ?_ (fun answer _ _ holds => holds.complain answer)
    (fun status _ _ holds => holds.endLine status)
  cases asks : Command.ofLine? line with
  | none =>
      simp only [attemptLine, asks]
      exact ⟨rfl, beside.beginLine asks⟩
  | some command =>
      have attempts (machine : Machine Shells)
          (unlimited : (machine.world.get id).sink.room = none) :
          attemptLine (booterWithin id depth) id line (beginLine id line machine) = _ :=
        attemptLine_of_command unlimited asks
      rw [attempts left beside.unlimited.1, attempts right beside.unlimited.2]
      exact performs command _ _ (beside.traceLine asks)

theorem respects_runLine (line : String) :
    Respects (Beside id plain traced) (runLine id line) := by
  intro left right beside
  rw [runLine_apply, runLine_apply, beside.catalog_eq]
  exact respects_runLineWithin _ line left right beside

theorem beside_afterLines (machine : Machine Shells)
    (unlimited : (machine.world.get id).sink.room = none) (lines : List String) :
    Beside id (withTracing id false machine) (withTracing id true machine)
      (afterLines id lines (withTracing id false machine))
      (afterLines id lines (withTracing id true machine)) := by
  induction lines using List.reverseRecOn with
  | nil =>
      refine ⟨rfl, by simp [afterLines, withTracing], by simp [afterLines, withTracing],
        by simp [afterLines, withTracing], [], .refl ?_, .refl ?_⟩
      · rwa [sink_withTracing]
      · rwa [sink_withTracing]
  | append_singleton lines line ih =>
      rw [afterLines_concat, afterLines_concat]
      exact (respects_runLine line _ _ ih).2

/-- Tracing makes no difference to statuses and catalogs, nor to what lines are run.  The
journal of a shell that traces, and with it what the shell writes, is that of the shell
without tracing, with one record inserted right after each command has begun. -/
theorem afterLines_traced (id : ShellId) (machine : Machine Shells)
    (unlimited : (machine.world.get id).sink.room = none) (lines : List String) :
    let plain := withTracing id false machine
    let traced := withTracing id true machine
    (afterLines id lines traced).catalog = (afterLines id lines plain).catalog ∧
      (∃ recent, Recorded id plain (afterLines id lines plain) recent ∧
        Recorded id traced (afterLines id lines traced) (withTraces id recent)) ∧
      ∀ line, ∃ status left right,
        runLine id line (afterLines id lines plain) = (.ok status, left) ∧
        runLine id line (afterLines id lines traced) = (.ok status, right) := by
  intro plain traced
  have beside : Beside id plain traced (afterLines id lines plain) (afterLines id lines traced) :=
    beside_afterLines machine unlimited lines
  refine ⟨beside.catalog_eq, beside.told, fun line => ?_⟩
  obtain ⟨same, -⟩ := respects_runLine line _ _ beside
  obtain ⟨status, left, returned⟩ := runLine_returns id line (afterLines id lines plain)
  rw [returned] at same
  exact ⟨status, left, (runLine id line _).2, returned, Prod.ext same rfl⟩

theorem afterLines_traced_script :
    let commented : Buffer :=
      { contents := ⟨#[35, 32, 99, 10, 101, 99, 104, 111, 32, 121, 10, 110, 111], by decide⟩ }
    let machine := ((Session.start [{}] [{}] {}).after
      [.create "a" commented, .setFormat 0 Script.format, .register 0 0]).machine
    ∃ recent,
      Recorded 0 (withTracing 0 false machine)
        (afterLines 0 ["boot a"] (withTracing 0 false machine)) recent ∧
      Recorded 0 (withTracing 0 true machine)
        (afterLines 0 ["boot a"] (withTracing 0 true machine)) (withTraces 0 recent) ∧
      transcript 0 recent = Text.encode "y\nno: command not found\n" ∧
      transcript 0 (withTraces 0 recent) =
        Text.encode "$ boot a\n$ echo y\ny\n$ no\nno: command not found\n" := by
  intro commented machine
  have unlimited : (machine.world.get 0).sink.room = none := by decide
  have empty : (machine.world.get 0).sink.written.toList = [] := by decide
  have plain : ((afterLines 0 ["boot a"] (withTracing 0 false machine)).world.get
      0).sink.written.toList = Text.encode "y\nno: command not found\n" := by decide +kernel
  have traced : ((afterLines 0 ["boot a"] (withTracing 0 true machine)).world.get
      0).sink.written.toList =
        Text.encode "$ boot a\n$ echo y\ny\n$ no\nno: command not found\n" := by decide +kernel
  clear_value machine
  obtain ⟨-, ⟨recent, recorded, recorded'⟩, -⟩ := afterLines_traced 0 machine unlimited ["boot a"]
  have written := recorded.written
  have written' := recorded'.written
  rw [sink_withTracing, empty, List.nil_append] at written written'
  refine ⟨recent, recorded, recorded', ?_, ?_⟩
  · rw [← written, plain]
  · rw [← written', traced]

end Shell

end BootScript
