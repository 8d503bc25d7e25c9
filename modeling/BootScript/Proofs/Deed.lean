import BootScript.Proofs.Catalog

/-!
# Deeds

A deed changes a catalog without running anything.  It never touches the mark of a
running image, it never changes a buffer that is there, and it changes the
references to an image only by taking or giving back one of the doer's own.
-/

namespace BootScript

/-- What can be done to a catalog without running anything. -/
inductive Deed
  | create (name : String) (buffer : Buffer)
  | setFormat (image : Handle) (format : Format)
  | register (registry : RegistryId) (image : Handle)
  | unregister (registry : RegistryId) (image : Handle)
  /-- Overwrite the registered flag alone. -/
  | setRegistered (image : Handle) (value : Bool)
  | hold (image : Handle)
  | release (image : Handle)

namespace Deed

def perform (catalog : Catalog) : Deed → Except ImageError Catalog
  | create name buffer => .ok (catalog.addImage { name, buffer }).2
  | setFormat image format => catalog.setFormat image format
  | register registry image => catalog.register registry image
  | unregister registry image => catalog.unregister registry image
  | setRegistered image value => .ok (catalog.setRegistered image value)
  | hold image => .ok (catalog.hold image)
  | release image => .ok (catalog.release image)

/-- What a deed adds to the journal. -/
def record : Deed → List Event
  | setFormat image format => [.classified image format]
  | register registry image => [.registered registry image]
  | unregister registry image => [.unregistered registry image]
  | _ => []

/-- The references that outsiders own after a deed.  Outsiders are all but the runs. -/
def settle (owned : Handle → Nat) : Deed → Handle → Nat
  | hold image, other => if other = image then owned other + 1 else owned other
  | release image, other => if other = image then owned other - 1 else owned other
  | _, other => owned other

/-- Only a reference of one's own can be given back. -/
def Affordable (owned : Handle → Nat) : Deed → Prop
  | release image => 0 < owned image
  | _ => True

/-- Making images and overwriting flags is left to the host; no command does it. -/
def Ordinary : Deed → Prop
  | create _ _ => False
  | setRegistered _ _ => False
  | _ => True

theorem settle_add (deed : Deed) (owned kept : Handle → Nat)
    (affordable : deed.Affordable owned) :
    deed.settle (fun image => owned image + kept image) =
      fun image => deed.settle owned image + kept image := by
  funext other
  cases deed with
  | hold image =>
      simp only [settle]
      split <;> omega
  | release image =>
      simp only [settle]
      split
      · next same =>
          subst same
          have : 0 < owned other := affordable
          omega
      · rfl
  | _ => rfl

theorem Affordable.add {deed : Deed} {owned : Handle → Nat}
    (affordable : deed.Affordable owned) (kept : Handle → Nat) :
    deed.Affordable fun image => owned image + kept image := by
  cases deed with
  | release image => exact Nat.add_pos_left affordable _
  | _ => trivial

variable {catalog after : Catalog} {deed : Deed}

/-! ## What deeds do to images -/

/-- The images after a deed that was performed. -/
def imageAfter (catalog : Catalog) : Deed → Handle → Image
  | create name buffer, other =>
      if other = catalog.images.size then { name, buffer } else catalog.image other
  | setFormat image format, other =>
      if other = image then { catalog.image image with format := some format }
      else catalog.image other
  | register _ image, other =>
      if other = image then { catalog.image image with registered := true }
      else catalog.image other
  | unregister _ image, other =>
      if other = image then { catalog.image image with registered := false }
      else catalog.image other
  | setRegistered image value, other =>
      if other = image then { catalog.image image with registered := value }
      else catalog.image other
  | hold image, other =>
      if other = image then { catalog.image image with held := (catalog.image image).held + 1 }
      else catalog.image other
  | release image, other =>
      if other = image then { catalog.image image with held := (catalog.image image).held - 1 }
      else catalog.image other

theorem image_perform (performed : deed.perform catalog = .ok after) (other : Handle) :
    after.image other = deed.imageAfter catalog other := by
  cases deed with
  | create name buffer =>
      obtain rfl := Except.ok.inj performed
      exact Catalog.image_addImage ..
  | setFormat image format =>
      obtain ⟨-, rfl⟩ := Catalog.setFormat_eq_ok_iff.mp performed
      exact Catalog.image_modifyImage ..
  | register registry image =>
      obtain ⟨-, rfl⟩ := Catalog.register_eq_ok_iff.mp performed
      exact Catalog.image_setRegistered ..
  | unregister registry image =>
      obtain ⟨-, -, rfl⟩ := Catalog.unregister_eq_ok_iff.mp performed
      exact Catalog.image_setRegistered ..
  | setRegistered image value =>
      obtain rfl := Except.ok.inj performed
      exact Catalog.image_setRegistered ..
  | hold image =>
      obtain rfl := Except.ok.inj performed
      exact Catalog.image_hold ..
  | release image =>
      obtain rfl := Except.ok.inj performed
      exact Catalog.image_release ..

/-- The handle of the next image is not in use. -/
theorem image_next (catalog : Catalog) : catalog.image catalog.images.size = default :=
  Catalog.image_of_size_le (Nat.le_refl _)

theorem executing_perform (performed : deed.perform catalog = .ok after) (other : Handle) :
    (after.image other).executing = (catalog.image other).executing := by
  rw [image_perform performed]
  cases deed <;> simp only [imageAfter] <;> split <;> simp_all [image_next, default]

theorem held_perform (performed : deed.perform catalog = .ok after) (other : Handle) :
    (after.image other).held = deed.settle (fun image => (catalog.image image).held) other := by
  rw [image_perform performed]
  cases deed <;> simp only [imageAfter, settle] <;> split <;> simp_all [image_next, default]

theorem buffer_perform (performed : deed.perform catalog = .ok after)
    (creates : ∀ name buffer, deed ≠ .create name buffer) (other : Handle) :
    (after.image other).buffer = (catalog.image other).buffer := by
  rw [image_perform performed]
  cases deed with
  | create name buffer => exact absurd rfl (creates name buffer)
  | _ => simp only [imageAfter]; split <;> simp_all

/-! ## What deeds do to lists -/

/-- The lists after a deed that was performed. -/
def listedAfter (catalog : Catalog) : Deed → RegistryId → List Handle
  | register registry image, id =>
      if id = registry then catalog.listed registry ++ [image] else catalog.listed id
  | unregister registry image, id =>
      if id = registry then (catalog.listed registry).erase image else catalog.listed id
  | _, id => catalog.listed id

theorem listed_perform (performed : deed.perform catalog = .ok after) (id : RegistryId) :
    after.listed id = deed.listedAfter catalog id := by
  cases deed with
  | setFormat image format =>
      obtain ⟨-, rfl⟩ := Catalog.setFormat_eq_ok_iff.mp performed
      rfl
  | register registry image =>
      obtain ⟨-, rfl⟩ := Catalog.register_eq_ok_iff.mp performed
      exact Catalog.listed_setListed ..
  | unregister registry image =>
      obtain ⟨-, -, rfl⟩ := Catalog.unregister_eq_ok_iff.mp performed
      exact Catalog.listed_setListed ..
  | _ =>
      obtain rfl := Except.ok.inj performed
      rfl

theorem policy_perform (performed : deed.perform catalog = .ok after) (id : RegistryId) :
    (after.registry id).toPolicy = (catalog.registry id).toPolicy := by
  cases deed with
  | setFormat image format =>
      obtain ⟨-, rfl⟩ := Catalog.setFormat_eq_ok_iff.mp performed
      rfl
  | register registry image =>
      obtain ⟨-, rfl⟩ := Catalog.register_eq_ok_iff.mp performed
      rw [Catalog.registry_setListed]
      split <;> simp_all
  | unregister registry image =>
      obtain ⟨-, -, rfl⟩ := Catalog.unregister_eq_ok_iff.mp performed
      rw [Catalog.registry_setListed]
      split <;> simp_all
  | _ =>
      obtain rfl := Except.ok.inj performed
      rfl

end Deed

end BootScript
