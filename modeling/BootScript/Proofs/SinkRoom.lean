import BootScript.Proofs.Discipline

/-!
# Room on a sink

A machine is the same with another room on the sink of a shell but for that room.  What fits
is written with and without a limit, and takes its part of the room.  A write that does not
fit fills the sink, and then nothing is written any more.
-/

namespace BootScript

namespace Store

variable {Value : Type} [Inhabited Value]

theorem modify_modify (store : Store Value) (number : Nat) (first second : Value → Value) :
    (store.modify number first).modify number second =
      store.modify number fun value => second (first value) := by
  have inside : number + 1 - (store.modify number first).size = 0 := by
    rw [size_modify]
    omega
  rw [modify, inside, Array.replicate_zero, Array.append_empty]
  simp only [modify, mk.injEq]
  ext place
  · simp
  · simp only [Array.getElem_modify]
    split <;> simp_all

end Store

namespace Shell

variable {id : ShellId}

/-- What a shell has written to its sink. -/
def output (id : ShellId) (machine : Machine Shells) : Bytes :=
  (machine.world.get id).sink.written.toList

/-- A machine on which the sink of a shell has so much room left, or has no limit. -/
def withRoom (id : ShellId) (room : Option Nat) (machine : Machine Shells) : Machine Shells :=
  { machine with
    world := machine.world.modify id fun shell =>
      { shell with sink := { written := shell.sink.written, room } } }

/-- The sink of a shell has taken its last byte. -/
def Full (id : ShellId) (output : Bytes) (shells : Shells) : Prop :=
  (shells.get id).sink = { written := output.toArray, room := some 0 }

@[simp] theorem withRoom_withRoom (room further : Option Nat) (machine : Machine Shells) :
    withRoom id further (withRoom id room machine) = withRoom id further machine := by
  simp only [withRoom, Store.modify_modify]

@[simp] theorem output_withRoom (room : Option Nat) (machine : Machine Shells) :
    output id (withRoom id room machine) = output id machine := by
  simp [output, withRoom]

@[simp] theorem sink_withRoom (room : Option Nat) (machine : Machine Shells) :
    ((withRoom id room machine).world.get id).sink =
      { written := (machine.world.get id).sink.written, room } := by
  simp [withRoom]

theorem begin_withRoom (registry : RegistryId) (image : Handle) (room : Option Nat)
    (machine : Machine Shells) :
    Script.begin registry image (withRoom id room machine) =
      withRoom id room (Script.begin registry image machine) := by
  simp only [Script.begin, withRoom]

theorem finish_withRoom (registry : RegistryId) (image : Handle) (hidden : Bool)
    (room : Option Nat) (machine : Machine Shells) :
    Script.finish registry image hidden (withRoom id room machine) =
      withRoom id room (Script.finish registry image hidden machine) := by
  simp only [Script.finish, withRoom]

section Writing

variable {machine : Machine Shells} {room : Nat} {purpose : Purpose} {text : String}

theorem write_withRoom_of_le (unlimited : (machine.world.get id).sink.room = none)
    (fits : (Text.encode text).length ≤ room) :
    write id purpose text (withRoom id (some room) machine) =
      (.ok (.ok ()), withRoom id (some (room - (Text.encode text).length))
        (write id purpose text machine).2) := by
  simp [write, Sink.write, unlimited, fits, withRoom, Store.modify_modify]

theorem write_withRoom_of_lt (spills : room < (Text.encode text).length) :
    (write id purpose text (withRoom id (some room) machine)).1 =
        .ok (.error (.inputOutput "sink full")) ∧
      Full id (output id machine ++ (Text.encode text).take room)
        (write id purpose text (withRoom id (some room) machine)).2.world := by
  have exceeds : ¬ (Text.encode text).length ≤ room := by omega
  simp only [write, Sink.write, sink_withRoom, exceeds, if_false]
  refine ⟨rfl, ?_⟩
  simp [Full, output, withRoom, ← Array.toList_inj]

theorem Full.write {written : Bytes} (full : Full id written machine.world) :
    Full id written (write id purpose text machine).2.world := by
  unfold Full at full ⊢
  simp only [Shell.write, Sink.write, full]
  split <;> simp_all

end Writing

end Shell

end BootScript
