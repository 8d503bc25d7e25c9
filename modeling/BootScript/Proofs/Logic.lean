import BootScript.Proofs.Discipline

/-!
# Logics of a shell

A logic is a discipline that is kept whatever the shell finds in the catalog, so it needs
no word on registries and images.  The simplest says what all writes keep and that
nothing panics; with the bound on nesting it follows that every line comes to its end.
-/

namespace BootScript

namespace Shell

variable {id : ShellId}

/-- A property of executions that is kept whatever a shell finds in the catalog. -/
structure Logic (id : ShellId) where
  Holds : {Value : Type} → [Ending Value] → Execution Shells Value → Prop
  ofTooDeep : Holds (Execution.abandon .tooDeep : Execution Shells Status)
  ofPure {Value : Type} [Ending Value] (value : Value) : Holds (pure value)
  ofBind {Value Result : Type} [Ending Value] [Ending Result] {first : Execution Shells Value}
    {next : Value → Execution Shells Result} : Holds first →
      (∀ value, Ending.status value = Status.success → Holds (next value)) →
      PassesFailures next → Holds (first >>= next)
  ofCatalog {Value : Type} [Ending Value] {next : Catalog → Execution Shells Value} :
    (∀ seen, Holds (next seen)) → Holds (Execution.catalog >>= next)
  ofShell {Value : Type} [Ending Value] (next : RegistryId → Bool → Execution Shells Value) :
    (∀ registry traces, Holds (next registry traces)) →
      Holds (current id >>= fun shell => next shell.registry shell.traceCommands)
  ofWrite (purpose : Purpose) (text : String) : purpose ≠ .complaint →
    Holds (write id purpose text)
  ofUnregister (registry : RegistryId) (image : Handle) :
    Holds (Execution.unregister registry image : Execution Shells (Except ImageError Unit))
  ofNote {Value : Type} [Ending Value] {event : Event} {action : Execution Shells Value} :
    event.Quiet → Holds action → Holds (Execution.note event >>= fun _ => action)
  ofHidden {Value : Type} [Ending Value] (registry : RegistryId) (image : Handle)
    {body : Execution Shells Value} : Holds body →
      Holds (Script.whileHidden registry image body)
  ofLine (line : String) {action : Attempt} : Holds action → Holds (asLine id line action)

theorem Logic.ofTraced (logic : Logic id) (line : String) {action : Attempt}
    (holds : logic.Holds action) : logic.Holds (traced id line action) := by
  refine logic.ofShell (fun _ traces =>
    if traces = true then write id .trace ("$ " ++ line ++ "\n") >>= afterTrace action
    else action) fun registry traces => ?_
  split
  · apply logic.ofBind (logic.ofWrite .trace _ (by decide))
    · intro answer _
      cases answer with
      | ok => exact holds
      | error failure => exact logic.ofPure _
    · intro answer failed
      cases answer with
      | ok => exact absurd rfl failed
      | error failure => exact ⟨.error failure, rfl, rfl, .rfl⟩
  · exact holds

def Logic.discipline (logic : Logic id) : Discipline id where
  Serves _ := True
  Reaches _ := True
  Holds := logic.Holds
  ofTooDeep := logic.ofTooDeep
  ofPure := logic.ofPure
  ofBind := logic.ofBind
  ofWrite text := logic.ofWrite .result text (by decide)
  ofTraced line _ := logic.ofTraced line
  ofRegistry next holds := logic.ofShell (fun registry _ => next registry)
    fun registry _ => holds registry trivial
  ofListing _ holds := logic.ofCatalog fun _ => holds _
  ofBootTarget {registry} arguments next _ refused chosen := by
    refine logic.ofCatalog fun seen => ?_
    cases bootTarget seen registry arguments with
    | error failure => exact refused failure
    | ok image => exact chosen image trivial
  ofFreeTarget {registry} arguments next _ refused chosen := by
    refine logic.ofCatalog fun seen => ?_
    cases freeTarget seen registry arguments with
    | error failure => exact refused failure
    | ok image => exact chosen image trivial
  ofUnregister _ _ := logic.ofUnregister _ _
  ofImage next _ holds := logic.ofCatalog fun seen => holds _
  ofNote := logic.ofNote
  ofHidden _ _ := logic.ofHidden _ _
  ofLine := logic.ofLine

/-! ## What all writes keep -/

/-- An execution that keeps a property of the shells, and does not panic. -/
def KeepsShells {Value : Type} (kept : Shells → Prop) (execution : Execution Shells Value) :
    Prop :=
  ∀ machine, kept machine.world →
    (execution machine).1 ≠ .error .panic ∧ kept (execution machine).2.world

section Keeping

variable {Value Result : Type} {kept : Shells → Prop}

theorem keepsShells_pure (value : Value) :
    KeepsShells kept (pure value : Execution Shells Value) :=
  fun _ holds => ⟨by simp, holds⟩

theorem KeepsShells.bind {first : Execution Shells Value}
    {next : Value → Execution Shells Result} (begins : KeepsShells kept first)
    (continues : ∀ value, KeepsShells kept (next value)) : KeepsShells kept (first >>= next) := by
  intro machine holds
  have between := begins machine holds
  rw [Execution.bind_apply]
  match outcome : first machine with
  | (.error abort, after) =>
      rw [outcome] at between
      refine ⟨?_, between.2⟩
      simpa using between.1
  | (.ok value, after) =>
      rw [outcome] at between
      exact continues value after between.2

/-- Only writes change a shell, and nothing that a shell does panics. -/
def Logic.keeping (kept : Shells → Prop)
    (writes : ∀ machine purpose text, kept machine.world →
      kept (write id purpose text machine).2.world) : Logic id where
  Holds execution := KeepsShells kept execution
  ofTooDeep _ holds := ⟨by simp [Execution.abandon], holds⟩
  ofPure := keepsShells_pure
  ofBind begins continues passes :=
    begins.bind (passes.forall_next keepsShells_pure continues)
  ofCatalog holds machine := holds machine.catalog machine
  ofShell _ holds machine := holds _ _ machine
  ofWrite purpose text _ machine holds := ⟨by simp [write], writes machine purpose text holds⟩
  ofUnregister registry image machine holds := by
    rw [Execution.unregister_apply]
    cases machine.catalog.unregister registry image <;> exact ⟨by simp, holds⟩
  ofNote {_ _ event _} _ holds machine start :=
    holds { machine with journal := event :: machine.journal } start
  ofHidden registry image _ holds machine start := by
    rw [← Script.world_begin registry image machine] at start
    have within := holds (Script.begin registry image machine) start
    rw [Script.whileHidden_apply, Script.world_finish]
    exact within
  ofLine line action holds machine start := by
    have within := holds (beginLine id line machine) start
    rw [asLine_apply]
    match outcome : action (beginLine id line machine) with
    | (.error abort, after) =>
        rw [outcome] at within
        exact ⟨by simpa using within.1, within.2⟩
    | (.ok answer, after) =>
        rw [outcome] at within
        refine ⟨by simp, ?_⟩
        cases answer with
        | ok status => exact within.2
        | error failure => exact writes after .complaint _ within.2

theorem keepsShells_runLine (writes : ∀ machine purpose text, kept machine.world →
      kept (write id purpose text machine).2.world) (line : String) :
    KeepsShells kept (runLine id line) := fun machine holds =>
  (Logic.keeping kept writes).discipline.runLineWithin (nestingBound machine.catalog) line
    machine holds

end Keeping

/-- Every line comes to its end. -/
theorem runLine_returns (id : ShellId) (line : String) (machine : Machine Shells) :
    ∃ status after, runLine id line machine = (.ok status, after) := by
  have kept : KeepsShells (fun _ => True) (runLine id line) :=
    keepsShells_runLine (fun _ _ _ _ => trivial) line
  have calm : (runLine id line machine).1 ≠ .error .panic := (kept machine trivial).1
  have shallow : (runLine id line machine).1 ≠ .error .tooDeep :=
    (agreesAt_runLineWithin (Nat.le_refl _) line machine.catalog.card_waiting_lt).2
  match outcome : runLine id line machine with
  | (.ok status, after) => exact ⟨status, after, rfl⟩
  | (.error .panic, after) => exact absurd (congrArg Prod.fst outcome) calm
  | (.error .tooDeep, after) => exact absurd (congrArg Prod.fst outcome) shallow

/-- Whoever is executed by its format with a shell as its interpreter comes to a status. -/
theorem dispatch_returns (id : ShellId) (registry : RegistryId) {image : Handle}
    {machine : Machine Shells} {format : Format}
    (tagged : (machine.catalog.image image).format = some format) :
    ∃ status after, dispatch (interpretWithin id (nestingBound machine.catalog)) registry image
      machine = (.ok (.ok status), after) := by
  have kept : KeepsShells (fun _ => True)
      (booterWithin id (nestingBound machine.catalog) registry image) :=
    (Logic.keeping (fun _ => True) fun _ _ _ _ => trivial).discipline.booterWithin _ registry image
      trivial trivial
  have calm := (kept machine trivial).1
  have shallow : (dispatch (interpretWithin id (nestingBound machine.catalog)) registry image
      machine).1 ≠ .error .tooDeep :=
    (agreesAt_dispatch (fun command _ => agreesAt_interpretWithin (Nat.le_refl _) command)
      (follows_interpretWithin (Conduct.settled_admitsPlaybook.shells id) _) registry image
      (Nat.lt_succ_of_lt machine.catalog.card_waiting_lt)).2
  rw [booterWithin] at calm
  rw [dispatch_of_some tagged] at calm shallow ⊢
  dsimp only at calm shallow ⊢
  generalize format.execute _ registry image _ = executed at calm shallow ⊢
  obtain ⟨outcome, after⟩ := executed
  match outcome with
  | .ok status => exact ⟨status, after, rfl⟩
  | .error .panic => exact absurd rfl calm
  | .error .tooDeep => exact absurd rfl shallow

/-! ## Lines one after another -/

/-- A machine after a shell ran lines, one after another. -/
def afterLines (id : ShellId) (lines : List String) (machine : Machine Shells) :
    Machine Shells :=
  lines.foldl (fun machine line => (runLine id line machine).2) machine

theorem afterLines_concat (lines : List String) (line : String) (machine : Machine Shells) :
    afterLines id (lines ++ [line]) machine =
      (runLine id line (afterLines id lines machine)).2 := by
  simp [afterLines]

end Shell

end BootScript
