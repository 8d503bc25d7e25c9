import BootScript.Proofs.Transcript

/-!
# Ways

A way tells where a shell may stand and where it may get to from there.  An execution takes
the way if it leads on whenever it returns, whatever its value.  Steps that only read lead
nowhere, and one step after another takes the way if each of them does.
-/

namespace BootScript.Shell

/-- Where a shell may stand, and where it may get to from there. -/
structure Way where
  Stands : Machine Shells → Prop
  Leads : Machine Shells → Machine Shells → Prop
  refl {machine : Machine Shells} : Stands machine → Leads machine machine
  trans {before between after : Machine Shells} : Leads before between → Leads between after →
    Leads before after
  ends {before after : Machine Shells} : Leads before after → Stands after

namespace Way

variable (way : Way) {Value Result : Type}

/-- An execution that is abandoned may end anywhere. -/
def Takes (execution : Execution Shells Value) : Prop :=
  ∀ machine value after, way.Stands machine → execution machine = (.ok value, after) →
    way.Leads machine after

theorem takes_pure (value : Value) : way.Takes (pure value : Execution Shells Value) := by
  rintro machine value' after stands returned
  obtain ⟨-, rfl⟩ : value = value' ∧ machine = after := by simpa using returned
  exact way.refl stands

variable {way} in
theorem Takes.bind [Ending Value] [Ending Result] {first : Execution Shells Value}
    {next : Value → Execution Shells Result} (begins : way.Takes first)
    (continues : ∀ value, Ending.status value = Status.success → way.Takes (next value))
    (passes : PassesFailures next) : way.Takes (first >>= next) := by
  intro machine result after stands returned
  obtain ⟨value, between, earlier, later⟩ := Execution.bind_eq_ok returned
  have leads := begins machine value between stands earlier
  have follows : way.Takes (next value) := passes.forall_next way.takes_pure continues value
  exact way.trans leads (follows between result after (way.ends leads) later)

theorem takes_target {next : Except ShellError Handle → Attempt}
    (target : Catalog → Except ShellError Handle)
    (refused : ∀ failure, way.Takes (next (.error failure)))
    (chosen : ∀ image, way.Takes (next (.ok image))) :
    way.Takes (Execution.catalog >>= fun catalog => next (target catalog)) := by
  intro machine answer after stands returned
  have follows : way.Takes (next (target machine.catalog)) := by
    cases target machine.catalog with
    | error failure => exact refused failure
    | ok image => exact chosen image
  exact follows machine answer after stands returned

variable {way} in
/-- An event that is noted first. -/
theorem Takes.note {event : Event} {action : Execution Shells Value} (takes : way.Takes action)
    (notes : ∀ machine, way.Stands machine →
      way.Leads machine { machine with journal := event :: machine.journal }) :
    way.Takes (Execution.note event >>= fun _ => action) := by
  intro machine answer after stands returned
  have noted := notes machine stands
  exact way.trans noted (takes _ answer after (way.ends noted) returned)

variable {way} in
theorem Takes.whileHidden {registry : RegistryId} {image : Handle}
    {body : Execution Shells Value} (takes : way.Takes body)
    (begins : ∀ machine, way.Stands machine →
      way.Leads machine (Script.begin registry image machine))
    (finishes : ∀ machine left, way.Stands machine → way.Stands left →
      way.Leads left
        (Script.finish registry image (Script.hide machine.catalog registry image).1 left)) :
    way.Takes (Script.whileHidden registry image body) := by
  intro machine value after stands returned
  obtain ⟨between, within, rfl⟩ := Script.whileHidden_eq_ok returned
  have begun := begins machine stands
  have inner := takes _ value between (way.ends begun) within
  exact way.trans (way.trans begun inner) (finishes machine between stands (way.ends inner))

/-- A line leads on if its trace and its command do. -/
theorem takes_attemptLine {id : ShellId} {booter : Booter} (line : String)
    (unlimited : ∀ machine, way.Stands machine → (machine.world.get id).sink.room = none)
    (traces : ∀ machine, way.Stands machine → way.Leads machine (traceLine id line machine))
    (performs : ∀ command, way.Takes (perform booter id command)) :
    way.Takes (attemptLine booter id line) := by
  intro machine answer after stands returned
  cases asks : Command.ofLine? line with
  | none =>
      rw [attemptLine, asks] at returned
      exact way.takes_pure _ machine answer after stands returned
  | some command =>
      rw [attemptLine_of_command (unlimited machine stands) asks] at returned
      have traced := traces machine stands
      exact way.trans traced (performs command _ answer after (way.ends traced) returned)

end Way

end BootScript.Shell
