import BootScript.Catalog

/-!
# Machines and executions

A machine is a catalog together with the world of whoever interprets commands and
a journal of what happened.  An execution changes a machine and returns a value,
unless it is abandoned on the way; the changes made so far stay in either case.
-/

namespace BootScript

/-- What a shell writes for. -/
inductive Purpose
  | trace
  | result
  | complaint
  deriving DecidableEq, Repr

inductive Event
  /-- An image was handed to its format for execution. -/
  | dispatched (image : Handle)
  /-- A run was refused because the image was running. -/
  | runRefused (image : Handle)
  /-- A run began; `hidden` tells whether its image was taken off the registry's list. -/
  | runBegan (registry : RegistryId) (image : Handle) (hidden : Bool)
  /-- A run ended, with the catalog as it was left behind and as it became. -/
  | runEnded (registry : RegistryId) (image : Handle) (hidden : Bool) (before after : Catalog)
  /-- A playbook was given a command. -/
  | commandBegan (registry : RegistryId) (command : Bytes) (catalog : Catalog)
  /-- A shell was given a line. -/
  | lineBegan (shell : Nat) (line : String) (catalog : Catalog)
  | lineEnded (shell : Nat) (status : Status)
  | wrote (shell : Nat) (purpose : Purpose) (text : String)
  /-- A registry took an image in, or let it go, because it was asked to. -/
  | registered (registry : RegistryId) (image : Handle)
  | unregistered (registry : RegistryId) (image : Handle)
  | classified (image : Handle) (format : Format)

structure Machine (World : Type) where
  catalog : Catalog
  world : World
  /-- The latest event comes first. -/
  journal : List Event := []

/-- Why an execution was abandoned. -/
inductive Abort
  | panic
  /-- Executions were nested deeper than the bound. -/
  | tooDeep
  deriving DecidableEq, Repr

def Execution (World Value : Type) : Type :=
  Machine World → Except Abort Value × Machine World

/-- Whoever is handed the commands of a script. -/
abbrev Interpreter (World : Type) : Type :=
  Bytes → Execution World Status

namespace Execution

variable {World Value Result : Type}

instance : Monad (Execution World) where
  pure value := fun machine => (.ok value, machine)
  bind execution next := fun machine =>
    match execution machine with
    | (.ok value, machine) => next value machine
    | (.error abort, machine) => (.error abort, machine)

def abandon (abort : Abort) : Execution World Value :=
  fun machine => (.error abort, machine)

def catalog : Execution World Catalog :=
  fun machine => (.ok machine.catalog, machine)

def modify (change : Machine World → Machine World) : Execution World Unit :=
  fun machine => (.ok (), change machine)

def setCatalog (catalog : Catalog) : Execution World Unit :=
  modify fun machine => { machine with catalog }

def note (event : Event) : Execution World Unit :=
  modify fun machine => { machine with journal := event :: machine.journal }

/-- Keep the new catalog of an operation that succeeded, and nothing of one that failed. -/
def attempt (operation : Catalog → Except ImageError Catalog) :
    Execution World (Except ImageError Unit) := fun machine =>
  match operation machine.catalog with
  | .ok catalog => (.ok (.ok ()), { machine with catalog })
  | .error failure => (.ok (.error failure), machine)

def register (registry : RegistryId) (image : Handle) :
    Execution World (Except ImageError Unit) := do
  let result ← attempt fun catalog => catalog.register registry image
  if result.isOk then note (.registered registry image)
  pure result

def unregister (registry : RegistryId) (image : Handle) :
    Execution World (Except ImageError Unit) := do
  let result ← attempt fun catalog => catalog.unregister registry image
  if result.isOk then note (.unregistered registry image)
  pure result

def classify (formats : Formats) (image : Handle) :
    Execution World (Except ImageError Format) := do
  match (← catalog).classify image formats with
  | .error failure => pure (.error failure)
  | .ok (format, classified) =>
      setCatalog classified
      note (.classified image format)
      pure (.ok format)

@[simp] theorem pure_apply (value : Value) (machine : Machine World) :
    (pure value : Execution World Value) machine = (.ok value, machine) := rfl

theorem bind_apply (execution : Execution World Value) (next : Value → Execution World Result)
    (machine : Machine World) :
    (execution >>= next) machine =
      match execution machine with
      | (.ok value, machine) => next value machine
      | (.error abort, machine) => (.error abort, machine) := rfl

end Execution

end BootScript
