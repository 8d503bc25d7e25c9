import BootScript.Shell

/-!
# Playbooks

A playbook is an interpreter given as a table: the first rule for a command tells
what to do about it.  Its acts reach everything that a command can do to a
catalog, also on images that are running, so it can rehearse any course of events.
-/

namespace BootScript

inductive Act
  | answer (status : Status)
  /-- Execute the first executable image, or the first image of a name. -/
  | bootFirst
  | boot (name : String)
  | execute (image : Handle)
  | register (image : Handle)
  | unregister (image : Handle)
  | classify (image : Handle)
  /-- Let a shell interpret the command, over its own registry. -/
  | askShell (shell : ShellId)
  | panic
  deriving DecidableEq, Repr

structure Rule where
  command : Bytes
  act : Act
  deriving DecidableEq, Repr

structure Playbook where
  rules : List Rule := []
  /-- The status of a command without a rule. -/
  otherwise : Status := Status.success
  deriving DecidableEq, Repr

namespace Playbook

def actFor (playbook : Playbook) (command : Bytes) : Act :=
  match playbook.rules.find? fun rule => rule.command = command with
  | some rule => rule.act
  | none => .answer playbook.otherwise

def succeeds {Value : Type} : Except ImageError Value → Status
  | .ok _ => Status.success
  | .error _ => Status.failure

/-- Execute an image if there is one; what keeps it from executing is a failure. -/
def executeIfAny (booter : Shell.Booter) (registry : RegistryId) :
    Option Handle → Execution Shells Status
  | none => pure Status.notFound
  | some image => do
      match ← booter registry image with
      | .ok status => pure status
      | .error _ => pure Status.failure

def perform (formats : Formats) (booter : Shell.Booter)
    (askShell : ShellId → Execution Shells Status) (registry : RegistryId) :
    Act → Execution Shells Status
  | .answer status => pure status
  | .bootFirst => do
      executeIfAny booter registry ((← Execution.catalog).firstClassified? registry)
  | .boot name => do
      executeIfAny booter registry ((← Execution.catalog).find? registry name)
  | .execute image => executeIfAny booter registry (some image)
  | .register image => do
      return succeeds (← Execution.register registry image)
  | .unregister image => do
      return succeeds (← Execution.unregister registry image)
  | .classify image => do
      return succeeds (← Execution.classify formats image)
  | .askShell shell => askShell shell
  | .panic => Execution.abandon .panic

/-- Interpret a command of a script over a registry, nested at most `depth` deep.  A
shell that is asked stays the interpreter of whatever it boots. -/
def interpretWithin (playbook : Playbook) (formats : Formats) (registry : RegistryId) :
    Nat → Interpreter Shells
  | 0, _ => Execution.abandon .tooDeep
  | depth + 1, command => do
      Execution.note (.commandBegan registry command (← Execution.catalog))
      perform formats
        (fun registry image =>
          dispatch (fun command => interpretWithin playbook formats registry depth command)
            registry image)
        (fun shell => Shell.interpretWithin shell (depth + 1) command)
        registry (playbook.actFor command)

end Playbook

end BootScript
