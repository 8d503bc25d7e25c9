/-!
# Numbered stores

A store keeps finitely many values under consecutive numbers and reads as the
default value at every other number.  Reading and changing are therefore total,
and what a change does to a read is one unconditional equation, `get_modify`.
-/

namespace BootScript

structure Store (Value : Type) where
  entries : Array Value

namespace Store

variable {Value : Type}

def empty : Store Value := ⟨#[]⟩

instance : Inhabited (Store Value) := ⟨empty⟩

/-- The number that the next pushed value receives. -/
def size (store : Store Value) : Nat :=
  store.entries.size

def push (store : Store Value) (value : Value) : Store Value :=
  ⟨store.entries.push value⟩

def ofList (values : List Value) : Store Value :=
  ⟨values.toArray⟩

variable [Inhabited Value]

def get (store : Store Value) (number : Nat) : Value :=
  store.entries.getD number default

/-- Change the value under a number.  A number beyond the end comes into use, and
the gap before it is filled with default values. -/
def modify (store : Store Value) (number : Nat) (change : Value → Value) : Store Value :=
  ⟨(store.entries ++ Array.replicate (number + 1 - store.size) default).modify number change⟩

theorem get_of_size_le {store : Store Value} {number : Nat} (beyond : store.size ≤ number) :
    store.get number = default := by
  simp only [get, size] at *
  rw [Array.getD_eq_getD_getElem?, Array.getElem?_eq_none beyond, Option.getD_none]

@[simp] theorem get_empty (number : Nat) : (empty : Store Value).get number = default :=
  get_of_size_le (Nat.zero_le number)

theorem get_push (store : Store Value) (value : Value) (number : Nat) :
    (store.push value).get number =
      if number = store.size then value else store.get number := by
  simp only [get, push, size, Array.getD_eq_getD_getElem?, Array.getElem?_push]
  split <;> rfl

/-- A change shows at its own number and nowhere else. -/
@[simp] theorem get_modify (store : Store Value) (number other : Nat)
    (change : Value → Value) :
    (store.modify number change).get other =
      if other = number then change (store.get number) else store.get other := by
  simp only [get, modify, size, Array.getD_eq_getD_getElem?, Array.getElem?_modify,
    Array.getElem?_append, Array.getElem?_replicate]
  by_cases same : other = number
  · subst same
    by_cases inside : other < store.entries.size
    · simp [inside]
    · simp [inside, show other - store.entries.size < other + 1 - store.entries.size by omega]
  · simp only [same, Ne.symm same, if_false]
    by_cases inside : other < store.entries.size
    · simp [inside]
    · simp only [inside, if_false]
      split <;> simp [inside]

theorem size_modify (store : Store Value) (number : Nat) (change : Value → Value) :
    (store.modify number change).size = max store.size (number + 1) := by
  simp only [modify, size, Array.size_modify, Array.size_append, Array.size_replicate]
  omega

end Store

end BootScript
