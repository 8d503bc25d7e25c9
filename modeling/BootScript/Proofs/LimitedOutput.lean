import BootScript.Proofs.Confinement

/-!
# Output on limited sinks

A shell whose sink takes a limited number of bytes writes what it writes without the limit,
up to that number.  The lines before the limit is exceeded end in the same way.
-/

namespace BootScript

namespace Shell

variable {id : ShellId}

/-! ## Lines with and without the limit -/

theorem unlimited_runLine {machine : Machine Shells}
    (room : (machine.world.get id).sink.room = none) (line : String) :
    ∃ status after recent, Unlimited id (runLine id line) machine status after recent := by
  obtain ⟨status, after, returned⟩ := runLine_returns id line machine
  obtain ⟨recent, recorded, -⟩ :=
    (confined_runLine line).accounted machine status after room returned
  exact ⟨status, after, recent, room, returned, recorded⟩

/-- What a limit makes of the same lines: nothing until more is written, and then no more
output. -/
structure Cut (id : ShellId) (limit : Nat) (free tight : Machine Shells) : Prop where
  unlimited : (free.world.get id).sink.room = none
  fits : (output id free).length ≤ limit →
    tight = withRoom id (some (limit - (output id free).length)) free
  full : limit < (output id free).length → Full id ((output id free).take limit) tight.world

section Cutting

variable {limit : Nat} {free tight after : Machine Shells} {line : String} {status : Status}
  {recent : List Event}

theorem Cut.output_eq (cut : Cut id limit free tight) :
    output id tight = (output id free).take limit := by
  by_cases spills : limit < (output id free).length
  · rw [output, cut.full spills]
  · rw [cut.fits (by omega), output_withRoom, List.take_of_length_le (by omega)]

theorem Unlimited.output_eq (run : Unlimited id (runLine id line) free status after recent) :
    output id after = output id free ++ transcript id recent :=
  run.recorded.written

theorem Cut.runLine_of_le (cut : Cut id limit free tight)
    (run : Unlimited id (runLine id line) free status after recent)
    (within : (output id after).length ≤ limit) :
    runLine id line tight =
      (.ok status, withRoom id (some (limit - (output id after).length)) after) := by
  rw [run.output_eq, List.length_append] at within ⊢
  rw [cut.fits (by omega), (confined_runLine line).fits _ run (by omega), Nat.sub_sub]

/-- The line that exceeds the limit. -/
theorem Cut.runLine_of_lt (cut : Cut id limit free tight)
    (run : Unlimited id (runLine id line) free status after recent)
    (within : (output id free).length ≤ limit) (exceeds : limit < (output id after).length) :
    ∃ left, Full id ((output id after).take limit) left.world ∧
      runLine id line tight =
        (.ok (if (output id after).drop limit <:+ closing id recent then status
          else Status.inputOutput), left) := by
  obtain ⟨other, left, limited⟩ := runLine_returns id line tight
  have seen := limited
  rw [run.output_eq, List.length_append] at exceeds
  rw [cut.fits within] at seen
  have spilled := (confined_runLine line).spills run (by omega) seen
  have loses : (output id after).drop limit = lost id (limit - (output id free).length) recent := by
    rw [run.output_eq, List.drop_append, List.drop_of_length_le within, List.nil_append, lost]
  have keeps : (output id after).take limit =
      output id free ++ (transcript id recent).take (limit - (output id free).length) := by
    rw [run.output_eq, List.take_append, List.take_of_length_le within]
  refine ⟨left, keeps ▸ spilled.full, ?_⟩
  rw [limited, loses]
  exact congrArg (fun status => (Except.ok status, left)) spilled.status

theorem Cut.runLine (cut : Cut id limit free tight) (line : String) :
    Cut id limit (runLine id line free).2 (runLine id line tight).2 := by
  obtain ⟨status, after, recent, run⟩ := unlimited_runLine cut.unlimited line
  rw [run.returned]
  refine ⟨run.recorded.unlimited, ?_, ?_⟩
  · intro within
    rw [cut.runLine_of_le run within]
  · intro exceeds
    by_cases already : limit < (output id free).length
    · have kept := (keepsShells_runLine (fun _ _ _ => Full.write) line tight (cut.full already)).2
      rwa [run.output_eq, List.take_append_of_le_length already.le]
    · obtain ⟨left, full, limited⟩ := cut.runLine_of_lt run (by omega) exceeds
      rwa [limited]

end Cutting

theorem cut_afterLines (id : ShellId) (machine : Machine Shells) (room : Nat)
    (lines : List String) :
    Cut id ((output id machine).length + room) (afterLines id lines (withRoom id none machine))
      (afterLines id lines (withRoom id (some room) machine)) := by
  induction lines using List.reverseRecOn with
  | nil =>
      refine ⟨by simp [afterLines], ?_, ?_⟩
      · simp [afterLines]
      · simp [afterLines]
  | append_singleton lines line ih =>
      rw [afterLines_concat, afterLines_concat]
      exact ih.runLine line

/-- A shell whose sink takes so many more bytes writes just the first bytes of what it
writes without a limit.  Before the line that exceeds the limit all is the same.  That line
ends with an output error, unless it lost nothing but a part of its closing complaint. -/
theorem afterLines_limited (id : ShellId) (machine : Machine Shells) (room : Nat)
    (lines : List String) :
    let unlimited := withRoom id none machine
    let limited := withRoom id (some room) machine
    let limit := (output id machine).length + room
    output id (afterLines id lines limited) =
        (output id (afterLines id lines unlimited)).take limit ∧
      ∀ earlier line later, lines = earlier ++ line :: later →
        ∃ status after recent,
          runLine id line (afterLines id earlier unlimited) = (.ok status, after) ∧
          Recorded id (afterLines id earlier unlimited) after recent ∧
          ((output id after).length ≤ limit →
            runLine id line (afterLines id earlier limited) =
              (.ok status, withRoom id (some (limit - (output id after).length)) after)) ∧
          ((output id (afterLines id earlier unlimited)).length ≤ limit →
            limit < (output id after).length →
              ∃ left, runLine id line (afterLines id earlier limited) =
                (.ok (if (output id after).drop limit <:+ closing id recent then status
                  else Status.inputOutput), left)) := by
  intro unlimited limited limit
  have cut (lines : List String) : Cut id limit (afterLines id lines unlimited)
      (afterLines id lines limited) := cut_afterLines id machine room lines
  refine ⟨(cut lines).output_eq, ?_⟩
  rintro earlier line later -
  obtain ⟨status, after, recent, run⟩ := unlimited_runLine (cut earlier).unlimited line
  refine ⟨status, after, recent, run.returned, run.recorded, (cut earlier).runLine_of_le run, ?_⟩
  intro within exceeds
  obtain ⟨left, -, limited⟩ := (cut earlier).runLine_of_lt run within exceeds
  exact ⟨left, limited⟩

theorem afterLines_limited_complaint :
    let machine := (Session.start [{}] [{}] {}).machine
    output 0 (afterLines 0 ["echo ab", "nope"] (withRoom 0 (some 5) machine)) =
        Text.encode "ab\nno" ∧
      ∃ left, runLine 0 "nope" (afterLines 0 ["echo ab"] (withRoom 0 (some 5) machine)) =
        (.ok Status.unknownCommand, left) := by
  intro machine
  have empty : output 0 machine = [] := by decide
  have whole : output 0 (afterLines 0 ["echo ab", "nope"] (withRoom 0 none machine)) =
      Text.encode "ab\nnope: command not found\n" := by decide +kernel
  have sooner : output 0 (afterLines 0 ["echo ab"] (withRoom 0 none machine)) =
      Text.encode "ab\n" := by decide +kernel
  have closes : closing 0 (afterLines 0 ["echo ab", "nope"] (withRoom 0 none machine)).journal =
      Text.encode "nope: command not found\n" := by decide +kernel
  have fails : (runLine 0 "nope" (afterLines 0 ["echo ab"]
      (withRoom 0 none machine))).1.toOption = some Status.unknownCommand := by decide +kernel
  clear_value machine
  obtain ⟨taken, lines⟩ := afterLines_limited 0 machine 5 ["echo ab", "nope"]
  obtain ⟨status, after, recent, returned, recorded, -, cut⟩ := lines ["echo ab"] "nope" [] rfl
  have last : afterLines 0 ["echo ab", "nope"] (withRoom 0 none machine) = after := by
    rw [show ["echo ab", "nope"] = ["echo ab"] ++ ["nope"] from rfl, afterLines_concat, returned]
  rw [returned] at fails
  obtain rfl : status = Status.unknownCommand := Option.some.inj fails
  rw [last] at whole closes taken
  have audible : transcript 0 recent ≠ [] := by
    intro silent
    have written := recorded.written
    rw [silent, List.append_nil] at written
    exact absurd (whole.symm.trans (written.trans sooner)) (by decide +kernel)
  rw [recorded.added, closing_append, if_neg audible] at closes
  rw [empty, whole, sooner, closes] at cut
  refine ⟨?_, cut (by decide +kernel) (by decide +kernel)⟩
  rw [taken, whole, empty]
  decide +kernel

end Shell

end BootScript
