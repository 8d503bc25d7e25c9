import BootScript.Host.Arguments

/-!
# Words on a command line

A command line takes no empty path in, whatever options stand around it.
-/

namespace BootScript.Arguments

theorem bind_eq_ok {Failure Value Result : Type} {first : Except Failure Value}
    {next : Value → Except Failure Result} {result : Result}
    (returned : (first >>= next) = .ok result) :
    ∃ value, first = .ok value ∧ next value = .ok result := by
  cases first with
  | error failure => exact absurd returned nofun
  | ok value => exact ⟨value, rfl, returned⟩

namespace Reading

variable {known : List OptionName} {limit : Option Nat} {reading after : Reading}
  {awaiting : Option OptionName}

theorem words_give {name : OptionName} {value : String}
    (given : reading.give name value = .ok after) : after.words = reading.words := by
  unfold give at given
  split at given
  · simp at given
  · split at given
    · simp at given
    · split at given
      · simp at given
      · split at given
        · simp at given
        · rw [← Except.ok.inj given]

theorem words_addWord {word : String} (taken : addWord limit reading word = .ok after) :
    word ≠ "" ∧ after.words = word :: reading.words := by
  unfold addWord at taken
  split at taken
  · simp at taken
  · next accepted =>
      rw [← Except.ok.inj taken]
      exact ⟨fun empty => accepted (.inl empty), rfl⟩

/-- An option that is given a value does not change the words. -/
theorem words_give_bind {name : OptionName} {value : String}
    (given : (do return (← reading.give name value, none) :
      Except Ending (Reading × Option OptionName)) = .ok (after, awaiting)) :
    after.words = reading.words := by
  obtain ⟨between, gives, returned⟩ := bind_eq_ok given
  obtain ⟨rfl, -⟩ := Prod.mk.inj (Except.ok.inj returned)
  exact words_give gives

theorem words_readLong {name : String} {value : Option String}
    (read : reading.readLong known name value = .ok (after, awaiting)) :
    after.words = reading.words := by
  unfold readLong at read
  split at read
  · simp at read
  · split at read
    · exact words_give_bind read
    · obtain ⟨rfl, -⟩ := Prod.mk.inj (Except.ok.inj read)
      rfl
    · simp at read
    · exact words_give_bind read

theorem words_readCluster {letters : List Char}
    (read : reading.readCluster known letters = .ok (after, awaiting)) :
    after.words = reading.words := by
  induction letters generalizing reading with
  | nil =>
      obtain ⟨rfl, -⟩ := Prod.mk.inj (Except.ok.inj read)
      rfl
  | cons letter rest ih =>
      unfold readCluster at read
      split at read
      · simp at read
      · split at read
        · split at read
          · obtain ⟨rfl, -⟩ := Prod.mk.inj (Except.ok.inj read)
            rfl
          · exact words_give_bind read
          · exact words_give_bind read
        · obtain ⟨between, gives, later⟩ := bind_eq_ok read
          exact (ih later).trans (words_give gives)

theorem empty_notMem_foldlM {words : List String} (whole : "" ∉ reading.words)
    (read : words.foldlM (addWord limit) reading = .ok after) : "" ∉ after.words := by
  induction words generalizing reading with
  | nil =>
      rw [← Except.ok.inj read]
      exact whole
  | cons word rest ih =>
      obtain ⟨between, taken, later⟩ := bind_eq_ok read
      obtain ⟨some, added⟩ := words_addWord taken
      refine ih ?_ later
      rw [added]
      exact List.not_mem_cons_of_ne_of_not_mem some.symm whole

theorem empty_notMem_readAll {arguments : List String} (whole : "" ∉ reading.words)
    (read : readAll known limit reading awaiting arguments = .ok after) : "" ∉ after.words := by
  induction arguments generalizing reading awaiting with
  | nil =>
      cases awaiting with
      | none =>
          rw [← Except.ok.inj read]
          exact whole
      | some name => simp [readAll] at read
  | cons argument rest ih =>
      cases awaiting with
      | some name =>
          unfold readAll at read
          split at read
          · obtain ⟨between, gives, later⟩ := bind_eq_ok read
            exact ih (words_give gives ▸ whole) later
          · simp at read
      | none =>
          unfold readAll at read
          split at read
          · obtain ⟨between, taken, later⟩ := bind_eq_ok read
            obtain ⟨some, added⟩ := words_addWord taken
            refine ih ?_ later
            rw [added]
            exact List.not_mem_cons_of_ne_of_not_mem some.symm whole
          · exact empty_notMem_foldlM whole read
          · obtain ⟨⟨between, awaits⟩, reads, later⟩ := bind_eq_ok read
            exact ih (words_readLong reads ▸ whole) later
          · obtain ⟨⟨between, awaits⟩, reads, later⟩ := bind_eq_ok read
            exact ih (words_readCluster reads ▸ whole) later

end Reading

theorem empty_notMem_readRun {arguments : List String} {request : RunRequest}
    (read : readRun arguments = .ok (.run request)) : "" ∉ request.given.images := by
  obtain ⟨reading, reads, returned⟩ := bind_eq_ok read
  obtain rfl := Request.run.inj (Except.ok.inj returned)
  have whole : "" ∉ reading.words := Reading.empty_notMem_readAll (by simp) reads
  simpa using whole

theorem readProbe_ne_run {arguments : List String} {request : RunRequest} :
    readProbe arguments ≠ .ok (.run request) := by
  intro read
  obtain ⟨reading, -, returned⟩ := bind_eq_ok read
  split at returned
  · exact absurd (Except.ok.inj returned) nofun
  · exact absurd returned nofun

theorem readHelp_ne_ok (topics : List String) (request : Request) :
    readHelp topics ≠ .ok request := by
  unfold readHelp
  split
  · exact nofun
  · split <;> exact nofun
  · exact nofun

theorem empty_notMem_readTop {arguments : List String} {reading : Reading} {request : RunRequest}
    (read : readTop reading arguments = .ok (.run request)) : "" ∉ request.given.images := by
  induction arguments generalizing reading with
  | nil => exact absurd read nofun
  | cons argument rest ih =>
      unfold readTop at read
      split at read
      · exact empty_notMem_readRun read
      · exact absurd read readProbe_ne_run
      · exact absurd read (readHelp_ne_ok rest _)
      · exact absurd read nofun
      · exact absurd read nofun
      · obtain ⟨⟨between, awaits⟩, -, later⟩ := bind_eq_ok read
        exact ih later
      · obtain ⟨⟨between, awaits⟩, -, later⟩ := bind_eq_ok read
        exact ih later

theorem empty_notMem_images {arguments : List String} {request : RunRequest}
    (asks : read arguments = .ok (.run request)) : "" ∉ request.given.images :=
  empty_notMem_readTop asks

end BootScript.Arguments
