import BootScript.Proofs.Failures
import BootScript.Proofs.Handing
import BootScript.Proofs.PlainLoop
import Mathlib.Data.Fintype.EquivFin

/-!
# Booting an image

An image can be executed with a shell as its interpreter, or the shell can be given a line
that boots it.  Either way the shell runs the same lines, writes the same and comes to the
same status, and that status is a success if and only if every line was one.
-/

namespace BootScript.Shell

variable {id : ShellId} {registry : RegistryId} {image : Handle} {format : Format}
  {line : String} {arguments : List String} {machine after : Machine Shells} {status : Status}

/-! ## By a line -/

/-- A shell does not look at the journal. -/
theorem alike_beginLine (line : String) {unlisted : Handle}
    (serves : (machine.world.get id).registry = registry)
    (apart : unlisted ∉ machine.catalog.listed registry) :
    Alike id registry unlisted (machine.catalog.image unlisted) (machine.catalog.image unlisted)
      machine (beginLine id line machine) where
  serves := serves
  world_eq := rfl
  apart := ⟨rfl, rfl, apart, fun _ _ => rfl, fun _ => rfl, fun _ => rfl⟩

/-- A line that boots an image does what executing the image does. -/
theorem runLine_of_dispatch (serves : (machine.world.get id).registry = registry)
    (untraced : (machine.world.get id).traceCommands = false)
    (command : Command.ofLine? line = some (.boot arguments))
    (selects : bootTarget machine.catalog registry arguments = .ok image)
    (executed : dispatch (interpretWithin id (nestingBound machine.catalog)) registry image
      machine = (.ok (.ok status), after)) :
    ∃ left, runLine id line machine = (.ok status, left) ∧ left.world = after.world := by
  -- An image that no list shows stands for the difference that there is none.
  obtain ⟨unlisted, apart⟩ :=
    Infinite.exists_notMem_finset (machine.catalog.listed registry).toFinset
  rw [List.mem_toFinset] at apart
  have reached : image ≠ unlisted := by
    rintro rfl
    exact apart (mem_listed_of_bootTarget selects)
  have treats := (Discipline.unlisted id registry unlisted (machine.catalog.image unlisted)
    (machine.catalog.image unlisted)).booterWithin (nestingBound machine.catalog) registry image
      rfl reached
  obtain ⟨answer, alike⟩ := treats machine (beginLine id line machine)
    (alike_beginLine line serves apart)
  have booted : booterWithin id (nestingBound machine.catalog) registry image machine = _ :=
    executed
  rw [booted] at answer alike
  generalize ran : booterWithin id (nestingBound machine.catalog) registry image
    (beginLine id line machine) = within at answer alike
  obtain ⟨outcome, left⟩ := within
  obtain rfl : outcome = .ok (.ok status) := answer
  have attempted : attemptLine (booterWithin id (nestingBound machine.catalog)) id line
      (beginLine id line machine) = (.ok (.ok status), left) :=
    attemptLine_of_booter serves untraced command selects ran
  have enough : machine.catalog.waiting.card < nestingBound machine.catalog + 1 :=
    Nat.lt_succ_of_lt machine.catalog.card_waiting_lt
  have deeper : runLineWithin id (nestingBound machine.catalog + 1) line machine =
      runLine id line machine := (agreesAt_runLine line enough).1
  rw [← deeper, runLineWithin_of_attempt attempted]
  exact ⟨_, rfl, alike.world_eq⟩

/-! ## Its status -/

theorem lineStatuses_of_stops {depth : Nat} {between left : Machine Shells}
    {rest : List (Except ImageError Bytes)} {command : Bytes}
    (stops : Script.Stops (interpretWithin id depth) between rest
      (.ok (.error (.commandFailed command status)), left)) :
    status ∈ lineStatuses left.journal := by
  cases stops with
  | failed fails failure rest =>
      cases depth with
      | zero => simp [interpretWithin, runLineWithin, Execution.abandon] at fails
      | succ depth =>
          have returned : asLine id (Text.lossy command)
              (attemptLine (booterWithin id depth) id (Text.lossy command)) between =
                (.ok status, left) := fails
          obtain ⟨answer, within, -, -, rfl⟩ := asLine_eq_ok returned
          exact List.mem_filterMap.mpr ⟨_, List.mem_cons_self, rfl⟩

/-- A script that can be read and is not running fails through a line of its own. -/
theorem mem_lineStatuses_of_execute {depth : Nat}
    (idle : (machine.catalog.image image).executing = false)
    (readable : (machine.catalog.image image).buffer.readable = none)
    (failed : status ≠ Status.success)
    (executed : Script.execute (interpretWithin id depth) registry image machine =
      (.ok status, after)) :
    status ∈ lineStatuses after.journal := by
  obtain ⟨handed, rest, between, outcome, left, split, hands, stops, whole⟩ :=
    Script.run_stops (interpretWithin id depth) registry idle
  rw [Script.execute_apply, whole] at executed
  obtain ⟨answered, rfl⟩ := Prod.mk.inj executed
  dsimp only at answered ⊢
  rw [Script.journal_finish, lineStatuses, List.filterMap_cons_none rfl, ← lineStatuses]
  match outcome, stops with
  | .ok (.ok ()), _ => exact absurd (Except.ok.inj answered).symm failed
  | .ok (.error (.commandFailed command other)), stops =>
      obtain rfl : other = status := Except.ok.inj answered
      exact lineStatuses_of_stops stops
  | .ok (.error (.unreadable cause)), .unreadable _ rest =>
      have unread : Except.error cause ∈ (machine.catalog.image image).buffer.lines := by
        rw [split]
        exact List.mem_append_right _ List.mem_cons_self
      rw [lines_eq_scriptCommands readable] at unread
      simp at unread
  | .error abort, _ => exact absurd answered nofun

/-- On a sink without a limit a script comes to a success if and only if every line in it,
and in the scripts that it boots, is one. -/
theorem dispatch_succeeds_iff (unlimited : (machine.world.get id).sink.room = none)
    (fresh : machine.journal = [])
    (script : (machine.catalog.image image).format = some Script.format)
    (idle : (machine.catalog.image image).executing = false)
    (readable : (machine.catalog.image image).buffer.readable = none)
    (executed : dispatch (interpretWithin id (nestingBound machine.catalog)) registry image
      machine = (.ok (.ok status), after)) :
    status = Status.success ↔ ∀ other ∈ lineStatuses after.journal, other = Status.success := by
  have accounted := (Logic.accounting id).discipline.booterWithin (nestingBound machine.catalog)
    registry image trivial trivial
  obtain ⟨recent, recorded, accounts⟩ := accounted machine (.ok status) after unlimited executed
  have journal : after.journal = recent := by rw [recorded.added, fresh, List.append_nil]
  constructor
  · intro succeeded
    rw [journal]
    exact (accounts.smooth succeeded).lineStatuses_eq
  · intro all
    by_contra failed
    let handed : Machine Shells := { machine with journal := .dispatched image :: machine.journal }
    have idle : (handed.catalog.image image).executing = false := idle
    have ran := execute_of_dispatch script rfl executed
    exact failed (all status (mem_lineStatuses_of_execute idle readable failed ran))

end BootScript.Shell
