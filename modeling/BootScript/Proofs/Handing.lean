import BootScript.Proofs.BufferLines
import BootScript.Proofs.Sessions

/-!
# Commands handed over

A run hands the lines of its image to an interpreter in order, each once, from the first
line on.  It stops after the first command that fails and before the first line that cannot
be read, whichever comes first, and whatever the interpreter does to the machine meanwhile.
-/

namespace BootScript.Script

variable {World : Type}

/-- Commands are handed over one after another and each of them succeeds.  The machine that
one leaves behind is the machine on which the next is interpreted. -/
inductive Hands (interpret : Interpreter World) :
    Machine World → List Bytes → Machine World → Prop
  | none (machine : Machine World) : Hands interpret machine [] machine
  | next {command : Bytes} {rest : List Bytes} {before between after : Machine World}
      (succeeds : interpret command before = (.ok Status.success, between))
      (later : Hands interpret between rest after) :
      Hands interpret before (command :: rest) after

/-- How a run stops in front of the lines that are left, with what it comes to. -/
inductive Stops (interpret : Interpreter World) (machine : Machine World) :
    List (Except ImageError Bytes) →
      Except Abort (Except ScriptError Unit) × Machine World → Prop
  | complete : Stops interpret machine [] (.ok (.ok ()), machine)
  | unreadable (cause : ImageError) (rest : List (Except ImageError Bytes)) :
      Stops interpret machine (.error cause :: rest) (.ok (.error (.unreadable cause)), machine)
  | failed {command : Bytes} {status : Status} {after : Machine World}
      (fails : interpret command machine = (.ok status, after))
      (failure : status ≠ Status.success) (rest : List (Except ImageError Bytes)) :
      Stops interpret machine (.ok command :: rest)
        (.ok (.error (.commandFailed command status)), after)
  | abandoned {command : Bytes} {abort : Abort} {after : Machine World}
      (abandons : interpret command machine = (.error abort, after))
      (rest : List (Except ImageError Bytes)) :
      Stops interpret machine (.ok command :: rest) (.error abort, after)

theorem hands_runLines (interpret : Interpreter World) (lines : List (Except ImageError Bytes))
    (machine : Machine World) :
    ∃ handed rest between, lines = handed.map .ok ++ rest ∧
      Hands interpret machine handed between ∧
      Stops interpret between rest (runLines interpret lines machine) := by
  induction lines generalizing machine with
  | nil => exact ⟨[], [], machine, rfl, .none machine, .complete⟩
  | cons line rest ih =>
      cases line with
      | error cause =>
          exact ⟨[], .error cause :: rest, machine, rfl, .none machine, .unreadable cause rest⟩
      | ok command =>
          have step := Execution.bind_apply (interpret command)
            (fun status => if status = Status.success then runLines interpret rest
              else pure (.error (.commandFailed command status))) machine
          rw [runLines, step]
          rcases answered : interpret command machine with ⟨abort | status, after⟩
          · exact ⟨[], .ok command :: rest, machine, rfl, .none machine, .abandoned answered rest⟩
          · by_cases succeeded : status = Status.success
            · subst succeeded
              obtain ⟨handed, left, between, split, hands, stops⟩ := ih after
              refine ⟨command :: handed, left, between, ?_, .next answered hands, ?_⟩
              · rw [split, List.map_cons, List.cons_append]
              · simpa only [if_true] using stops
            · simp only [if_neg succeeded]
              exact ⟨[], .ok command :: rest, machine, rfl, .none machine,
                .failed answered succeeded rest⟩

theorem run_stops (interpret : Interpreter World) (registry : RegistryId) {image : Handle}
    {machine : Machine World} (idle : (machine.catalog.image image).executing = false) :
    ∃ handed rest between outcome left,
      (machine.catalog.image image).buffer.lines = handed.map .ok ++ rest ∧
      Hands interpret (begin registry image machine) handed between ∧
      Stops interpret between rest (outcome, left) ∧
      run interpret registry image machine =
        (outcome, finish registry image (hide machine.catalog registry image).1 left) := by
  obtain ⟨handed, rest, between, split, hands, stops⟩ :=
    hands_runLines interpret (machine.catalog.image image).buffer.lines
      (begin registry image machine)
  have whole := run_apply interpret registry image machine
  rw [idle, if_neg Bool.false_ne_true, whileHidden_apply] at whole
  exact ⟨handed, rest, between, _, _, split, hands, stops, whole⟩

/-! ## Statuses -/

theorem execute_apply (interpret : Interpreter World) (registry : RegistryId) (image : Handle)
    (machine : Machine World) :
    execute interpret registry image machine =
      let ran := run interpret registry image machine
      (ran.1.map fun
        | .ok () => Status.success
        | .error failure => failure.status, ran.2) := by
  rw [execute, Execution.bind_apply]
  generalize run interpret registry image machine = ran
  obtain ⟨outcome, after⟩ := ran
  match outcome with
  | .ok (.ok ()) => rfl
  | .ok (.error failure) => rfl
  | .error abort => rfl

/-- What an execution answers when its run came to an outcome. -/
structure Concludes (outcome : Except Abort (Except ScriptError Unit))
    (answer : Except Abort Status) : Prop where
  success : answer = .ok Status.success ↔ outcome = .ok (.ok ())
  failed : ∀ command status, outcome = .ok (.error (.commandFailed command status)) →
    answer = .ok status
  unreadable : ∀ cause, outcome = .ok (.error (.unreadable cause)) →
    answer = .ok Status.inputOutput
  abandoned : ∀ abort, outcome = .error abort → answer = .error abort

/-- A run of an image that is not running is never refused, so only a success has the
status of one. -/
theorem Stops.concludes {interpret : Interpreter World} {machine left : Machine World}
    {rest : List (Except ImageError Bytes)} {outcome : Except Abort (Except ScriptError Unit)}
    (stops : Stops interpret machine rest (outcome, left)) :
    Concludes outcome (outcome.map fun
      | .ok () => Status.success
      | .error failure => failure.status) where
  success := by
    cases stops with
    | complete => simp [Except.map]
    | unreadable cause =>
        have differs : (ScriptError.unreadable cause).status ≠ Status.success :=
          ne_of_beq_false rfl
        simpa [Except.map] using differs
    | failed _ failure => simpa [Except.map, ScriptError.status] using failure
    | abandoned => simp [Except.map]
  failed command status same := by rw [same]; rfl
  unreadable cause same := by rw [same]; rfl
  abandoned abort same := by rw [same]; rfl

/-- A run hands over the lines that copies from the start of the buffer give, up to where it
stops, and its execution answers accordingly. -/
theorem run_hands_lines (interpret : Interpreter World) (registry : RegistryId)
    (image : Handle) (machine : Machine World)
    (idle : (machine.catalog.image image).executing = false) :
    let lines := (machine.catalog.image image).buffer.lines
    let ran := run interpret registry image machine
    let executed := execute interpret registry image machine
    (machine.catalog.image image).buffer.Gives 0 lines ∧
      (∃ handed rest between left, lines = handed.map .ok ++ rest ∧
        Hands interpret (begin registry image machine) handed between ∧
        Stops interpret between rest (ran.1, left) ∧
        ran.2 = finish registry image (hide machine.catalog registry image).1 left) ∧
      executed.2 = ran.2 ∧ Concludes ran.1 executed.1 := by
  intro lines ran executed
  obtain ⟨handed, rest, between, outcome, left, split, hands, stops, whole⟩ :=
    run_stops interpret registry idle
  have answered : executed = _ := execute_apply interpret registry image machine
  have same : ran = _ := whole
  rw [answered, whole, same]
  exact ⟨Buffer.gives_lines _, ⟨handed, rest, between, left, split, hands, stops, rfl⟩, rfl,
    stops.concludes⟩

/-- Of three lines the second fails, so the third is never handed over. -/
theorem run_hands_lines_failing :
    let catalog := ((Session.start [{}] [] {}).after
      [.create "lines" { contents := ⟨#[97, 10, 98, 10, 99], by decide⟩ },
        .register 0 0]).catalog
    let interpret : Interpreter (List Bytes) := fun command machine =>
      (.ok (if command = [98] then 3 else Status.success),
        { machine with world := machine.world ++ [command] })
    let machine : Machine (List Bytes) := { catalog, world := [] }
    (machine.catalog.image 0).executing = false ∧
      (run interpret 0 0 machine).1 = .ok (.error (.commandFailed [98] 3)) ∧
      (run interpret 0 0 machine).2.world = [[97], [98]] ∧
      (execute interpret 0 0 machine).1 = .ok 3 := by
  intro catalog interpret machine
  have idle : (machine.catalog.image 0).executing = false := by decide
  have fails : (run interpret 0 0 machine).1 = .ok (.error (.commandFailed [98] 3)) := by
    decide +kernel
  have recorded : (run interpret 0 0 machine).2.world = [[97], [98]] := by decide +kernel
  obtain ⟨-, -, -, concludes⟩ := run_hands_lines interpret 0 0 machine idle
  exact ⟨idle, fails, recorded, concludes.failed [98] 3 fails⟩

end BootScript.Script
