import BootScript.Proofs.Interpreters
import BootScript.Session

/-!
# Sessions are courses

Every step of a session is a course from one position to another, in which the
references that the session has taken and not given back are its own.  So whatever
holds of all courses from a machine without images holds in every session.
-/

namespace BootScript

/-! ## References in a store -/

namespace Store

/-- How often a store of optional values holds a value. -/
def countSome (store : Store (Option Handle)) (value : Handle) : Nat :=
  store.entries.toList.count (some value)

theorem countSome_push (store : Store (Option Handle)) (added value : Handle) :
    (store.push (some added)).countSome value =
      if value = added then store.countSome value + 1 else store.countSome value := by
  by_cases same : value = added
  · subst same
    simp [countSome, push]
  · have other : added ≠ value := Ne.symm same
    simp [countSome, push, List.count_append, same, other]

theorem getElem?_of_get_eq_some {store : Store (Option Handle)} {number : Nat} {value : Handle}
    (held : store.get number = some value) : store.entries.toList[number]? = some (some value) := by
  simp only [get, Array.getD_eq_getD_getElem?] at held
  cases entry : store.entries[number]? with
  | none => simp [entry] at held
  | some found => simp_all

theorem countSome_clear {store : Store (Option Handle)} {number : Nat} {dropped : Handle}
    (held : store.get number = some dropped) (value : Handle) :
    (store.modify number fun _ => none).countSome value =
      if value = dropped then store.countSome value - 1 else store.countSome value := by
  have entry := getElem?_of_get_eq_some held
  obtain ⟨inside, entryAt⟩ := List.getElem?_eq_some_iff.mp entry
  have noGap : number + 1 - store.size = 0 := by
    simp only [size]
    simp only [Array.length_toList] at inside
    omega
  simp only [countSome, modify, noGap, Array.replicate_zero, Array.append_empty,
    Array.toList_modify, List.modify_eq_set]
  rw [List.count_set inside, entryAt]
  by_cases same : value = dropped
  · subst same
    simp
  · have other : dropped ≠ value := Ne.symm same
    simp [same, other]

theorem countSome_pos {store : Store (Option Handle)} {number : Nat} {value : Handle}
    (held : store.get number = some value) : 0 < store.countSome value :=
  List.count_pos_iff.mpr (List.mem_of_getElem? (getElem?_of_get_eq_some held))

end Store

/-! ## Steps -/

/-- What a conduct must admit for every session to follow it. -/
structure Conduct.AdmitsSession (conduct : Conduct Shells) : Prop
    extends conduct.AdmitsPlaybook where
  holds : ∀ catalog image, conduct.acts catalog (.hold image)
  releases : ∀ catalog image, conduct.acts catalog (.release image)
  everyWorld : ∀ shells, conduct.worlds shells
  noHoldings : ∀ shells image, conduct.holdings shells image = 0

theorem Conduct.admitsSession {acts : Catalog → Deed → Prop}
    (ordinary : ∀ catalog deed, deed.Ordinary → acts catalog deed) :
    ({ acts } : Conduct Shells).AdmitsSession where
  toAdmitsPlaybook := admitsPlaybook ordinary
  holds _ _ := ordinary _ _ trivial
  releases _ _ := ordinary _ _ trivial
  everyWorld _ := trivial
  noHoldings _ _ := rfl

namespace Session

variable {conduct : Conduct Shells}

/-- A session between two steps. -/
def position (session : Session) : Position Shells where
  machine := session.machine
  running := []
  owned := session.acquired.countSome

theorem snd_carryOut {Value : Type} (session : Session) (execution : Execution Shells Value)
    (answer : Value → Answer) :
    (session.carryOut execution answer).2 =
      { session with machine := (execution session.machine).2 } := by
  simp only [carryOut]
  cases (execution session.machine).1 <;> rfl

theorem course_carryOut {Value : Type} (admits : conduct.AdmitsSession) (session : Session)
    (execution : Execution Shells Value) (answer : Value → Answer)
    (follows : execution.FollowsAt conduct session.machine) :
    Course conduct session.position (session.carryOut execution answer).2.position := by
  obtain ⟨-, course⟩ := follows (admits.everyWorld _)
  have owning := course.above [] session.acquired.countSome
  simp only [Position.above, Conduct.outset, admits.noHoldings, Nat.zero_add,
    List.append_nil] at owning
  rw [snd_carryOut]
  exact owning

theorem course_keepFormat (admits : conduct.AdmitsSession) (session : Session) (image : Handle)
    (format : Format) (attempt : Except ImageError Catalog)
    (sets : ∀ catalog, attempt = .ok catalog →
      session.catalog.setFormat image format = .ok catalog) :
    Course conduct session.position (session.keepFormat image format attempt).2.position := by
  cases attempt with
  | error failure => exact .refl
  | ok catalog =>
      exact .single (.act session.position (.setFormat image format) catalog
        (admits.classifies _ _ _) trivial (sets catalog rfl))

theorem course_release (admits : conduct.AdmitsSession) (session : Session) (reference : Nat) :
    Course conduct session.position (session.step (.release reference)).2.position := by
  simp only [step]
  cases held : session.acquired.get reference with
  | none => exact .refl
  | some image =>
      have released : Move conduct session.position _ :=
        .act session.position (.release image) (session.catalog.release image)
          (admits.releases _ _) (Store.countSome_pos held) rfl
      have settled : (Deed.release image).settle session.acquired.countSome =
          (session.acquired.modify reference fun _ => none).countSome := by
        funext other
        rw [Store.countSome_clear held]
        rfl
      simp only [Position.act, position, settled] at released
      exact .single released

theorem course_acquire (admits : conduct.AdmitsSession) (session : Session) (image : Handle) :
    Course conduct session.position (session.step (.acquire image)).2.position := by
  have taken : Move conduct session.position _ :=
    .act session.position (.hold image) (session.catalog.hold image) (admits.holds _ _) trivial rfl
  have settled : (Deed.hold image).settle session.acquired.countSome =
      (session.acquired.push (some image)).countSome := by
    funext other
    rw [Store.countSome_push]
    rfl
  simp only [Position.act, position, settled] at taken
  exact .single taken

theorem follows_interpreter (admits : conduct.AdmitsSession) (session : Session)
    (registry : RegistryId) (choice : InterpreterChoice) (command : Bytes) :
    (session.interpreter registry choice command).Follows conduct := by
  cases choice with
  | shell id => exact Shell.follows_interpretWithin (admits.shells id) _ command
  | playbook => exact Playbook.follows_interpretWithin admits.toAdmitsPlaybook _ _ _ _ command

theorem course_execute (admits : conduct.AdmitsSession) (session : Session)
    (interpret : Interpreter Shells) (follows : ∀ command, (interpret command).Follows conduct)
    (registry : RegistryId) (image : Handle) (entry : Entry) :
    Course conduct session.position
      (session.execute interpret registry image entry).2.position := by
  have permitted := admits.runs session.machine.catalog registry image
  cases entry with
  | dispatch => exact course_carryOut admits session _ _ (followsAt_dispatch permitted follows)
  | run => exact course_carryOut admits session _ _ (Script.followsAt_run permitted follows)
  | format format =>
      exact course_carryOut admits session _ _ (format.followsAt_execute permitted follows)

/-- Every step is a course, if the conduct permits what only sessions do: to make images
and to overwrite registered flags. -/
theorem course_step (admits : conduct.AdmitsSession) (session : Session) (step : Step)
    (creates : ∀ name buffer, step = .create name buffer →
      ∀ catalog, conduct.acts catalog (.create name buffer))
    (overwrites : ∀ image value, step = .setRegistered image value →
      ∀ catalog, conduct.acts catalog (.setRegistered image value)) :
    Course conduct session.position (session.step step).2.position := by
  cases step with
  | create name buffer =>
      exact .single (.act session.position (.create name buffer) _ (creates name buffer rfl _)
        trivial rfl)
  | setFormat image format => exact course_keepFormat admits session _ _ _ fun _ => id
  | probe image format =>
      exact course_keepFormat admits session _ _ _ fun _ => Catalog.setFormat_of_probe
  | classify image =>
      have follows : (Execution.classify session.formats image).FollowsAt conduct
          session.machine := Execution.followsAt_classify (admits.classifies _ _)
      dsimp only [step]
      exact course_carryOut admits session _ ofClassification follows
  | register registry image =>
      have follows : (Execution.register registry image).FollowsAt conduct session.machine :=
        Execution.followsAt_register (admits.registers _ _ _)
      dsimp only [step]
      exact course_carryOut admits session _ ofAttempt follows
  | unregister registry image =>
      have follows : (Execution.unregister registry image).FollowsAt conduct session.machine :=
        Execution.followsAt_unregister (admits.unregisters _ _ _)
      dsimp only [step]
      exact course_carryOut admits session _ ofAttempt follows
  | setRegistered image value =>
      exact .single (.act session.position (.setRegistered image value) _
        (overwrites image value rfl _) trivial rfl)
  | acquire image => exact course_acquire admits session image
  | release reference => exact course_release admits session reference
  | line shell line =>
      have follows : (Shell.runLine shell (Text.lossy line)).FollowsAt conduct session.machine :=
        Shell.follows_runLine (admits.shells shell) _ session.machine
      dsimp only [step]
      exact course_carryOut admits session _ Answer.status follows
  | execute choice registry entry image =>
      exact course_execute admits session _ (follows_interpreter admits session registry choice)
        registry image entry
  | _ => exact .refl

/-- A session after further steps. -/
def after (session : Session) (steps : List Step) : Session :=
  steps.foldl (fun session step => (session.step step).2) session

theorem course_after (admits : conduct.AdmitsSession) (session : Session) (steps : List Step)
    (creates : ∀ name buffer, .create name buffer ∈ steps →
      ∀ catalog, conduct.acts catalog (.create name buffer))
    (overwrites : ∀ image value, .setRegistered image value ∈ steps →
      ∀ catalog, conduct.acts catalog (.setRegistered image value)) :
    Course conduct session.position (session.after steps).position := by
  induction steps generalizing session with
  | nil => exact .refl
  | cons step rest ih =>
      have first := course_step admits session step
        (fun name buffer same => creates name buffer (same ▸ List.mem_cons_self))
        (fun image value same => overwrites image value (same ▸ List.mem_cons_self))
      exact first.trans (ih (session.step step).2
        (fun name buffer member => creates name buffer (List.mem_cons_of_mem _ member))
        (fun image value member => overwrites image value (List.mem_cons_of_mem _ member)))

end Session

end BootScript
