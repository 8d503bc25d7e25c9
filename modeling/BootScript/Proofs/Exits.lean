import BootScript.Proofs.Decoding
import BootScript.Proofs.Handing
import BootScript.Proofs.Numerals
import BootScript.Proofs.SinkRoom
import BootScript.Proofs.Transcript
import BootScript.Proofs.Words

/-!
# Exits

A line that asks for a status by a numeral ends with the number and writes nothing, if 32 bits
can hold it.  Any other word is quoted in a complaint.  A script ends at the first of its
commands if that is an exit other than to success, and passes over one to success.
-/

namespace BootScript

namespace Script

variable {World : Type} {interpret : Interpreter World} {registry : RegistryId} {image : Handle}
  {machine before between after : Machine World} {commands : List Bytes}
  {rest : List (Except ImageError Bytes)}

theorem Hands.concat {command : Bytes} (hands : Hands interpret before commands between)
    (succeeds : interpret command between = (.ok Status.success, after)) :
    Hands interpret before (commands ++ [command]) after := by
  induction hands with
  | none => exact .next succeeds (.none after)
  | next first _ ih => exact .next first (ih succeeds)

/-- Commands that succeed hand on to the lines after them. -/
theorem runLines_of_hands (hands : Hands interpret before commands between) :
    runLines interpret (commands.map .ok ++ rest) before = runLines interpret rest between := by
  induction hands with
  | none => rfl
  | next succeeds _ ih =>
      rw [List.map_cons, List.cons_append, runLines, Execution.bind_apply, succeeds]
      exact ih

theorem run_of_hands (idle : (machine.catalog.image image).executing = false)
    (lines : (machine.catalog.image image).buffer.lines = commands.map .ok ++ rest)
    (hands : Hands interpret (begin registry image machine) commands between) :
    run interpret registry image machine =
      ((runLines interpret rest between).1,
        finish registry image (hide machine.catalog registry image).1
          (runLines interpret rest between).2) := by
  rw [run_apply, idle, if_neg Bool.false_ne_true, whileHidden_apply, lines,
    runLines_of_hands hands]

/-- A command that fails is the last of its script. -/
theorem runLines_of_failure {command : Bytes} {status : Status}
    (fails : interpret command between = (.ok status, after)) (failure : status ≠ Status.success) :
    runLines interpret (.ok command :: rest) between =
      (.ok (.error (.commandFailed command status)), after) := by
  rw [runLines, Execution.bind_apply, fails]
  dsimp only
  rw [if_neg failure]
  rfl

end Script

namespace Shell

variable {id : ShellId} {line word : String} {machine : Machine Shells} {depth : Nat}

/-! ## Lines that ask for a status -/

theorem runLineWithin_of_exit (words : Text.words line = ["exit", word])
    (untraced : (machine.world.get id).traceCommands = false) :
    let answer := exitStatus [word]
    runLineWithin id (depth + 1) line machine =
      (.ok (Ending.status answer),
        endLine id (Ending.status answer) (complain id answer (beginLine id line machine))) := by
  have command : Command.ofLine? line = some (.exit [word]) := by
    rw [Command.ofLine?, words]
    rfl
  have attempted : attemptLine (booterWithin id depth) id line (beginLine id line machine) =
      (.ok (exitStatus [word]), beginLine id line machine) := by
    have quiet : ((beginLine id line machine).world.get id).traceCommands = false := untraced
    simp only [attemptLine, command, traceAndPerform, current, Execution.bind_apply, quiet]
    rfl
  exact runLineWithin_of_attempt attempted

theorem words_exit (some : word ≠ "")
    (whole : ∀ character ∈ word.toList, Text.isBlank character = false) :
    Text.words ("exit " ++ word) = ["exit", word] := by
  have parted : "exit " ++ word = "exit" ++ " " ++ word := rfl
  have name : Text.words "exit" = ["exit"] := by decide
  rw [parted, Text.words_append, name, Text.words_of_word some whole]
  rfl

theorem exitStatus_of_numeral {status : Status} (numeral : Text.Numeral word.toList status.toInt) :
    exitStatus [word] = .ok status := by
  simp only [exitStatus, Text.int32?_eq_some_iff.mpr numeral]

theorem exitStatus_of_other
    (other : ∀ number, Text.Numeral word.toList number → ¬Text.Fits32 number) :
    exitStatus [word] = .error (.invalidArgument "exit" ("invalid status '" ++ word ++ "'")) := by
  simp only [exitStatus, Text.int32?_eq_none_iff.mpr other]

/-! ## Scripts with an exit -/

/-- Lines that are no commands are handed over and change nothing but the journal. -/
theorem hands_of_no_commands {commands : List Bytes}
    (idle : ∀ command ∈ commands, Command.ofLine? (Text.lossy command) = none)
    (machine : Machine Shells) :
    ∃ between, Script.Hands (interpretWithin id (depth + 1)) machine commands between ∧
      between.world = machine.world ∧ between.catalog = machine.catalog := by
  induction commands generalizing machine with
  | nil => exact ⟨machine, .none machine, rfl, rfl⟩
  | cons command rest ih =>
      obtain ⟨first, later⟩ := List.forall_mem_cons.mp idle
      let line := Text.lossy command
      obtain ⟨between, hands, world, catalog⟩ :=
        ih later (endLine id Status.success (beginLine id line machine))
      exact ⟨between, .next (runLineWithin_of_no_command first id depth machine) hands, world, catalog⟩

/-! ## Statuses asked for -/

section Exits

variable (untraced : (machine.world.get id).traceCommands = false)
  (unlimited : (machine.world.get id).sink.room = none)

include untraced

theorem runLineWithin_of_numeral {status : Status} (words : Text.words line = ["exit", word])
    (numeral : Text.Numeral word.toList status.toInt) :
    runLineWithin id (depth + 1) line machine =
      (.ok status, endLine id status (beginLine id line machine)) := by
  have returned := @runLineWithin_of_exit id line word machine depth words untraced
  rw [exitStatus_of_numeral numeral] at returned
  exact returned

include unlimited

/-- The complaint about a word is one line, and nothing else is written. -/
theorem runLine_of_other (words : Text.words line = ["exit", word])
    (other : ∀ number, Text.Numeral word.toList number → ¬Text.Fits32 number) :
    ∃ after, runLine id line machine = (.ok Status.failure, after) ∧
      after.catalog = machine.catalog ∧
      output id after =
        output id machine ++ Text.encode ("exit: invalid status '" ++ word ++ "'\n") := by
  have returned := @runLineWithin_of_exit id line word machine machine.catalog.images.size words
    untraced
  rw [exitStatus_of_other other] at returned
  refine ⟨_, returned, rfl, ?_⟩
  have written := (@recorded_complain id (beginLine id line machine)
    (.error (.invalidArgument "exit" ("invalid status '" ++ word ++ "'"))) unlimited).written
  have message : ShellError.message (.invalidArgument "exit" ("invalid status '" ++ word ++ "'")) =
      "exit" ++ ": " ++ ("invalid status '" ++ word ++ "'") := rfl
  have start : "exit" ++ ": " ++ "invalid status '" = "exit: invalid status '" := rfl
  have stop : "'" ++ "\n" = "'\n" := rfl
  rw [transcript_complaint, message] at written
  rw [← start, ← stop]
  simp only [String.append_assoc] at written ⊢
  exact written

/-- A line that asks for a status ends with it and writes nothing if it gives a numeral that
32 bits can hold, and fails with one line about the word if it does not.  A script whose first
command is such a line ends there, unless the status is a success: then it goes on. -/
theorem runLine_exits :
    (∀ word : String, word ≠ "" → (∀ character ∈ word.toList, Text.isBlank character = false) →
      ∃ status after, runLine id ("exit " ++ word) machine = (.ok status, after) ∧
        after.catalog = machine.catalog ∧
        (∀ number, status.toInt = number ∧ output id after = output id machine ↔
          Text.Numeral word.toList number ∧ Text.Fits32 number) ∧
        ((∀ number, Text.Numeral word.toList number → ¬Text.Fits32 number) →
          status = Status.failure ∧ output id after = output id machine ++
            Text.encode ("exit: invalid status '" ++ word ++ "'\n"))) ∧
      (∀ status : Status, Text.Numeral (toString status.toInt).toList status.toInt) ∧
      ∀ (depth : Nat) (registry : RegistryId) (image : Handle) (comments : List Bytes)
        (command : Bytes) (rest : List (Except ImageError Bytes)) (word : String)
        (status : Status),
        (machine.catalog.image image).executing = false →
        (machine.catalog.image image).buffer.lines = comments.map .ok ++ .ok command :: rest →
        (∀ comment ∈ comments, Command.ofLine? (Text.lossy comment) = none) →
        Text.lossy command = "exit " ++ word → Text.Numeral word.toList status.toInt →
        let interpret := interpretWithin id (depth + 1)
        let finish := Script.finish registry image (Script.hide machine.catalog registry image).1
        ∃ between after,
          Script.Hands interpret (Script.begin registry image machine) comments between ∧
          interpret command between = (.ok status, after) ∧
          after.world = machine.world ∧
          (status ≠ Status.success →
            Script.run interpret registry image machine =
                (.ok (.error (.commandFailed command status)), finish after) ∧
              Script.execute interpret registry image machine = (.ok status, finish after)) ∧
          (status = Status.success →
            Script.run interpret registry image machine =
              ((Script.runLines interpret rest after).1,
                finish (Script.runLines interpret rest after).2)) := by
  refine ⟨?_, fun status => Text.numeral_toString status.toInt, ?_⟩
  · intro word some whole
    have words := words_exit some whole
    by_cases fits : ∃ number, Text.Numeral word.toList number ∧ Text.Fits32 number
    · obtain ⟨number, numeral, fits⟩ := fits
      rw [← Text.toInt_ofInt_of_fits fits] at numeral
      refine ⟨Int32.ofInt number, _, runLineWithin_of_numeral untraced words numeral, rfl, ?_, ?_⟩
      · intro other
        rw [Text.toInt_ofInt_of_fits fits] at numeral ⊢
        constructor
        · rintro ⟨rfl, -⟩
          exact ⟨numeral, fits⟩
        · rintro ⟨same, -⟩
          exact ⟨numeral.unique same, rfl⟩
      · intro none
        exact absurd (Text.fits_toInt _) (none _ numeral)
    · have other (number : Int) (numeral : Text.Numeral word.toList number) :
          ¬Text.Fits32 number := fun within => fits ⟨number, numeral, within⟩
      obtain ⟨after, returned, catalog, written⟩ :=
        runLine_of_other untraced unlimited words other
      refine ⟨Status.failure, after, returned, catalog, ?_, fun _ => ⟨rfl, written⟩⟩
      intro number
      constructor
      · rintro ⟨-, silent⟩
        rw [silent, List.self_eq_append_right] at written
        exact absurd written (Text.encode_ne_nil (by simp [← String.toList_eq_nil_iff]))
      · rintro ⟨numeral, within⟩
        exact absurd ⟨number, numeral, within⟩ fits
  · intro depth registry image comments command rest word status idle lines quiet asks numeral
      interpret finish
    obtain ⟨between, hands, world, catalog⟩ :=
      @hands_of_no_commands id depth comments quiet (Script.begin registry image machine)
    rw [Script.world_begin] at world
    have whole := numeral.solid
    have words : Text.words (Text.lossy command) = ["exit", word] := by
      rw [asks]
      exact words_exit (mt (fun empty => by rw [empty]; rfl) whole.1) whole.2
    have still : (between.world.get id).traceCommands = false := world ▸ untraced
    have returned : interpret command between = _ := runLineWithin_of_numeral still words numeral
    refine ⟨between, _, hands, returned, world, ?_, ?_⟩
    · intro failure
      have ran := Script.run_of_hands idle lines hands
      rw [Script.runLines_of_failure returned failure] at ran
      refine ⟨ran, ?_⟩
      rw [Script.execute_apply, ran]
      rfl
    · rintro rfl
      have further : Script.Hands interpret (Script.begin registry image machine)
          (comments ++ [command]) _ := hands.concat returned
      refine Script.run_of_hands idle ?_ further
      rw [lines, List.map_append, List.append_assoc]
      rfl

end Exits

/-- The greatest number is one short of the least, and zero may have a sign. -/
theorem runLine_exits_least :
    let leaves : Buffer :=
      { contents := ⟨#[35, 33, 115, 99, 114, 105, 112, 116, 10, 101, 120, 105, 116, 32, 45, 50, 49,
          52, 55, 52, 56, 51, 54, 52, 56, 10, 116, 114, 117, 101], by decide⟩ }
    let machine := ((Session.start [{}] [{}] {}).after
      [.create "a" leaves, .setFormat 0 Script.format, .register 0 0]).machine
    (∃ after, runLine 0 "exit -00" machine = (.ok Status.success, after) ∧
        output 0 after = output 0 machine) ∧
      (∃ after, runLine 0 "exit 2147483648" machine = (.ok Status.failure, after) ∧
        output 0 after = output 0 machine ++
          Text.encode "exit: invalid status '2147483648'\n") ∧
      ∃ after, Script.execute (interpretWithin 0 2) 0 0 machine = (.ok (-2147483648), after) := by
  intro leaves machine
  have untraced : (machine.world.get 0).traceCommands = false := by decide
  have unlimited : (machine.world.get 0).sink.room = none := by decide
  have idle : (machine.catalog.image 0).executing = false := by decide
  have lines : (machine.catalog.image 0).buffer.lines =
      [Text.encode "#!script"].map .ok ++
        .ok (Text.encode "exit -2147483648") :: [.ok (Text.encode "true")] := by decide +kernel
  clear_value machine
  obtain ⟨words, decimal, scripts⟩ := runLine_exits untraced unlimited
  refine ⟨?_, ?_, ?_⟩
  · obtain ⟨status, after, returned, -, numerals, -⟩ := words "-00" (by decide)
      (Text.isBlank_of_all (by decide))
    have zero : Text.Numeral "-00".toList 0 := Text.integer?_eq_some_iff.mp (by decide)
    obtain ⟨same, silent⟩ := (numerals 0).mpr ⟨zero, by decide, by decide⟩
    obtain rfl : status = Status.success := Int32.toInt_inj.mp same
    exact ⟨after, returned, silent⟩
  · obtain ⟨status, after, returned, -, -, others⟩ := words "2147483648" (by decide)
      (Text.isBlank_of_all (by decide))
    have beyond : Text.Numeral "2147483648".toList 2147483648 :=
      Text.integer?_eq_some_iff.mp (by decide)
    obtain ⟨rfl, written⟩ := others fun number numeral fits => by
      rw [numeral.unique beyond] at fits
      exact absurd fits.2 (by decide)
    exact ⟨after, returned, written⟩
  · obtain ⟨between, after, -, -, -, ends, -⟩ :=
      scripts 1 0 0 [Text.encode "#!script"] (Text.encode "exit -2147483648")
        [.ok (Text.encode "true")] "-2147483648" (-2147483648) idle lines (by decide)
        (by decide +kernel) (decimal (-2147483648))
    exact ⟨_, (ends (by decide)).2⟩

end Shell

end BootScript
