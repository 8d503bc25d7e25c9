import BootScript.Proofs.SinkRoom
import BootScript.Proofs.Transcript

/-!
# Spilling

A limit on a sink is exceeded when what a shell writes without a limit is longer.  What is
lost is the part beyond the limit.  As long as nothing is lost but a part of the complaint
that was written last, the shell ends as it does without the limit, and otherwise with an
output error.
-/

namespace BootScript

namespace Shell

variable {id : ShellId}

/-! ## Closing complaints -/

/-- What an event wrote to the sink of a shell as a complaint. -/
def complained (id : ShellId) : Event → Bytes
  | .wrote shell .complaint text => if shell = id then Text.encode text else []
  | _ => []

theorem complained_suffix (event : Event) : complained id event <:+ event.bytes id := by
  unfold complained
  split
  · exact List.suffix_refl _
  · exact List.nil_suffix

/-- The complaint that stands last in what was written to a shell, if one does. -/
def closing (id : ShellId) : List Event → Bytes
  | [] => []
  | event :: earlier =>
      if event.bytes id = [] then closing id earlier else complained id event

theorem closing_suffix (recent : List Event) : closing id recent <:+ transcript id recent := by
  induction recent with
  | nil => exact List.suffix_refl _
  | cons event earlier ih =>
      rw [closing, transcript]
      split
      · next silent => rwa [silent, List.append_nil]
      · exact (complained_suffix event).trans (List.suffix_append _ _)

/-- Only the last that was written counts. -/
theorem closing_append (recent earlier : List Event) :
    closing id (recent ++ earlier) =
      if transcript id recent = [] then closing id earlier else closing id recent := by
  induction recent with
  | nil => rfl
  | cons event rest ih =>
      rw [List.cons_append, closing, closing, transcript, ih]
      by_cases silent : event.bytes id = [] <;> simp [silent]

/-- The part of what was written for which a sink had no room. -/
def lost (id : ShellId) (room : Nat) (recent : List Event) : Bytes :=
  (transcript id recent).drop room

theorem lost_append_of_add (further : Nat) (recent earlier : List Event) :
    lost id ((transcript id earlier).length + further) (recent ++ earlier) =
      lost id further recent := by
  rw [lost, transcript_append, List.drop_append]
  simp [lost]

theorem lost_append_of_lt {room : Nat} {earlier : List Event}
    (spills : room < (transcript id earlier).length) (recent : List Event) :
    lost id room (recent ++ earlier) = lost id room earlier ++ transcript id recent := by
  have inside : room - (transcript id earlier).length = 0 := by omega
  rw [lost, transcript_append, List.drop_append, inside, List.drop_zero, lost]

theorem lost_ne_nil {room : Nat} {recent : List Event}
    (spills : room < (transcript id recent).length) : lost id room recent ≠ [] := by
  simpa [lost] using spills

/-- A loss that is more than a closing complaint stays one, whatever is written next. -/
theorem not_suffix_append {room : Nat} {earlier : List Event}
    (spills : room < (transcript id earlier).length)
    (beyond : ¬lost id room earlier <:+ closing id earlier) (recent : List Event) :
    ¬lost id room (recent ++ earlier) <:+ closing id (recent ++ earlier) := by
  rw [lost_append_of_lt spills, closing_append]
  split
  · next silent => rwa [silent, List.append_nil]
  · intro suffix
    have short := (suffix.trans (closing_suffix recent)).length_le
    have some := List.length_pos_of_ne_nil (lost_ne_nil spills)
    rw [List.length_append] at short
    omega

/-! ## Exceeding the limit -/

section Spilling

variable {Value Result : Type} [Ending Value] [Ending Result] {room : Nat}
  {before between left last : Machine Shells} {recent earlier : List Event}

/-- How an execution ends on a sink that has too little room for what it writes: `value`
is what it returns without a limit, `other` what it returns on that sink. -/
structure Spilled (id : ShellId) (room : Nat) (before : Machine Shells) (recent : List Event)
    (value other : Value) (left : Machine Shells) : Prop where
  failed : Ending.status other ≠ Status.success
  full : Full id (output id before ++ (transcript id recent).take room) left.world
  status : Ending.status other =
    if lost id room recent <:+ closing id recent then Ending.status value else Status.inputOutput
  reported : lost id room recent <:+ closing id recent → ¬Ending.unreported value

/-- A failure on the limited sink that is handed on while the other execution goes on. -/
theorem Spilled.surpassed {value other : Value} {result handed : Result}
    (spilled : Spilled id room before earlier value other left)
    (spills : room < (transcript id earlier).length)
    (unsettled : Ending.status value = Status.success ∨ Ending.unreported value)
    (same : Ending.status handed = Ending.status other)
    (full : ∀ written, Full id written left.world → Full id written last.world) :
    Spilled id room before (recent ++ earlier) result handed last := by
  have beyond : ¬lost id room earlier <:+ closing id earlier := by
    intro complaint
    have status := spilled.status
    rw [if_pos complaint] at status
    rcases unsettled with succeeded | unreported
    · exact spilled.failed (status.trans succeeded)
    · exact spilled.reported complaint unreported
  have still := not_suffix_append spills beyond recent
  have status := spilled.status
  rw [if_neg beyond] at status
  refine ⟨same ▸ spilled.failed, ?_, ?_, fun complaint => absurd complaint still⟩
  · rw [transcript_append, List.take_append_of_le_length spills.le]
    exact full _ spilled.full
  · rw [if_neg still, same, status]

/-- A failure on the limited sink that is handed on beside the one without the limit. -/
theorem Spilled.handedOn {value other : Value} {result handed : Result}
    (spilled : Spilled id room before earlier value other left)
    (silent : transcript id recent = [])
    (status : Ending.status result = Ending.status value)
    (unreported : Ending.unreported result → Ending.unreported value)
    (same : Ending.status handed = Ending.status other)
    (full : ∀ written, Full id written left.world → Full id written last.world) :
    Spilled id room before (recent ++ earlier) result handed last := by
  have written : transcript id (recent ++ earlier) = transcript id earlier := by
    rw [transcript_append, silent, List.append_nil]
  have closes : closing id (recent ++ earlier) = closing id earlier := by
    rw [closing_append, if_pos silent]
  have loses : lost id room (recent ++ earlier) = lost id room earlier := by
    rw [lost, written, lost]
  refine ⟨same ▸ spilled.failed, ?_, ?_, ?_⟩
  · rw [written]
    exact full _ spilled.full
  · rw [loses, closes, same, status, spilled.status]
  · rw [loses, closes]
    exact fun complaint still => spilled.reported complaint (unreported still)

/-- What fits first takes its part of the room. -/
theorem Spilled.afterwards {value other : Value} {further : Nat}
    (recorded : Recorded id before between earlier)
    (limit : (transcript id earlier).length + further = room)
    (spills : further < (transcript id recent).length)
    (spilled : Spilled id further between recent value other left) :
    Spilled id room before (recent ++ earlier) value other left := by
  subst limit
  have audible : transcript id recent ≠ [] := by
    rintro silent
    simp [silent] at spills
  have closes : closing id (recent ++ earlier) = closing id recent := by
    rw [closing_append, if_neg audible]
  have loses : lost id ((transcript id earlier).length + further) (recent ++ earlier) =
      lost id further recent := lost_append_of_add ..
  have taken : (transcript id (recent ++ earlier)).take ((transcript id earlier).length + further) =
      transcript id earlier ++ (transcript id recent).take further := by
    rw [transcript_append, List.take_append]
    simp
  refine ⟨spilled.failed, ?_, ?_, ?_⟩
  · have full := spilled.full
    rw [output, recorded.written] at full
    rwa [taken, ← List.append_assoc, output]
  · rw [loses, closes, spilled.status]
  · rw [loses, closes]
    exact spilled.reported

end Spilling

end Shell

end BootScript
