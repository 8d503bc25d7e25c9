import BootScript.Proofs.Nesting

/-!
# The lists of registries

A registry takes in only what it does not list, so no move lists an image twice.
Whatever changes a list either enlists an image and sets its flag, or takes one off and
clears its flag.  The policy of a registry is settled from the start.
-/

namespace BootScript

/-- No registry lists an image twice. -/
def Catalog.ListsOnce (catalog : Catalog) : Prop :=
  ∀ id, (catalog.listed id).Nodup

theorem nodup_concat {images : List Handle} {image : Handle} (once : images.Nodup)
    (fresh : image ∉ images) : (images ++ [image]).Nodup := by
  have apart : images.Disjoint [image] := by simpa using fresh
  exact once.append (List.nodup_singleton image) apart

theorem Catalog.listed_ofList (registries : List Registry)
    (unlisted : ∀ registry ∈ registries, registry.listed = []) (images : Store Image)
    (id : RegistryId) :
    ({ images, registries := .ofList registries } : Catalog).listed id = [] := by
  unfold Catalog.listed Catalog.registry Store.get Store.ofList
  simp only [Array.getD_eq_getD_getElem?, List.getElem?_toArray]
  cases found : registries[id]? with
  | none => rfl
  | some registry => exact unlisted registry (List.mem_of_getElem? found)

/-! ## Enlisting and delisting -/

/-- The image comes onto the list of the registry and its flag is set. -/
structure Enlists (registry : RegistryId) (image : Handle) (before after : Catalog) : Prop where
  fresh : image ∉ before.listed registry
  flag : ∀ other, (after.image other).registered =
    if other = image then true else (before.image other).registered
  list : ∀ id, after.listed id =
    if id = registry then before.listed registry ++ [image] else before.listed id

/-- The image goes from the list of the registry and its flag is cleared. -/
structure Delists (registry : RegistryId) (image : Handle) (before after : Catalog) : Prop where
  member : image ∈ before.listed registry
  flag : ∀ other, (after.image other).registered =
    if other = image then false else (before.image other).registered
  list : ∀ id, after.listed id =
    if id = registry then (before.listed registry).erase image else before.listed id

/-- No flag and no list changes. -/
structure KeepsRegistration (before after : Catalog) : Prop where
  flag : ∀ other, (after.image other).registered = (before.image other).registered
  list : ∀ id, after.listed id = before.listed id

section Changes

variable {before after : Catalog} {registry : RegistryId} {image : Handle}

theorem Enlists.nodup (change : Enlists registry image before after) {id : RegistryId}
    (once : (before.listed id).Nodup) : (after.listed id).Nodup := by
  rw [change.list]
  split
  · next here =>
      subst here
      exact nodup_concat once change.fresh
  · exact once

theorem Delists.nodup (change : Delists registry image before after) {id : RegistryId}
    (once : (before.listed id).Nodup) : (after.listed id).Nodup := by
  rw [change.list]
  split
  · next here =>
      subst here
      exact once.erase image
  · exact once

theorem KeepsRegistration.nodup (change : KeepsRegistration before after) {id : RegistryId}
    (once : (before.listed id).Nodup) : (after.listed id).Nodup := by
  rwa [change.list]

theorem Enlists.mem_iff (change : Enlists registry image before after) (id : RegistryId)
    (other : Handle) :
    other ∈ after.listed id ↔ other ∈ before.listed id ∨ id = registry ∧ other = image := by
  rw [change.list]
  by_cases here : id = registry
  · subst here
    simp
  · simp [here]

theorem Delists.mem_iff (change : Delists registry image before after)
    (once : (before.listed registry).Nodup) (id : RegistryId) (other : Handle) :
    other ∈ after.listed id ↔ other ∈ before.listed id ∧ ¬(id = registry ∧ other = image) := by
  rw [change.list]
  by_cases here : id = registry
  · subst here
    simp [once.mem_erase_iff, and_comm]
  · simp [here]

theorem Script.delists_hide (hidden : (hide before registry image).1 = true) :
    Delists registry image before (hide before registry image).2 := by
  constructor
  · exact ((hide_fst before registry image).mp hidden).2
  · intro other
    rw [image_hide]
    by_cases same : other = image <;> simp [same, hidden]
  · intro id
    rw [listed_hide]
    simp [hidden]

theorem Script.keeps_hide (kept : (hide before registry image).1 = false) :
    KeepsRegistration before (hide before registry image).2 := by
  constructor
  · intro other
    rw [image_hide]
    by_cases same : other = image <;> simp [same, kept]
  · intro id
    rw [listed_hide]
    simp [kept]

theorem Script.enlists_unhide (missing : image ∉ before.listed registry) :
    Enlists registry image before (unhide before registry image true) := by
  refine ⟨missing, ?_, ?_⟩
  · intro other
    rw [image_unhide]
    by_cases same : other = image <;> simp [same, missing]
  · intro id
    rw [listed_unhide]
    simp [missing]

theorem Script.keeps_unhide {hidden : Bool}
    (settled : ¬(hidden = true ∧ image ∉ before.listed registry)) :
    KeepsRegistration before (unhide before registry image hidden) := by
  constructor
  · intro other
    rw [image_unhide]
    by_cases same : other = image <;> simp [same, settled]
  · intro id
    rw [listed_unhide, if_neg (fun again => settled again.1)]

/-- What a deed does to lists and flags, unless it overwrites a flag. -/
theorem Deed.registration_perform {deed : Deed} (performed : deed.perform before = .ok after)
    (honest : ∀ image value, deed ≠ .setRegistered image value) :
    (∃ registry image, deed = .register registry image ∧
        Enlists registry image before after) ∨
      (∃ registry image, Delists registry image before after) ∨
        KeepsRegistration before after := by
  have flag := image_perform performed
  have list := listed_perform performed
  cases deed with
  | register registry image =>
      have fresh := (Catalog.register_eq_ok_iff.mp performed).1
      refine .inl ⟨registry, image, rfl, fresh, ?_, list⟩
      intro other
      rw [flag, imageAfter]
      split <;> rfl
  | unregister registry image =>
      have member := (Catalog.unregister_eq_ok_iff.mp performed).2.1
      refine .inr (.inl ⟨registry, image, member, ?_, list⟩)
      intro other
      rw [flag, imageAfter]
      split <;> rfl
  | setRegistered image value => exact absurd rfl (honest image value)
  | _ =>
      refine .inr (.inr ⟨?_, list⟩)
      intro other
      rw [flag, imageAfter]
      split <;> simp_all [image_next, default]

end Changes

/-! ## Moves -/

theorem Deed.nodup_perform {catalog after : Catalog} {deed : Deed}
    (performed : deed.perform catalog = .ok after) {id : RegistryId}
    (once : (catalog.listed id).Nodup) : (after.listed id).Nodup := by
  rw [listed_perform performed]
  cases deed with
  | register registry image =>
      have fresh := (Catalog.register_eq_ok_iff.mp performed).1
      simp only [listedAfter]
      split
      · next here => exact nodup_concat (here ▸ once) fresh
      · exact once
  | unregister registry image =>
      simp only [listedAfter]
      split
      · next here => exact (here ▸ once : (catalog.listed registry).Nodup).erase image
      · exact once
  | _ => exact once

namespace Script

variable {catalog : Catalog} (registry : RegistryId) (image : Handle) {id : RegistryId}

theorem nodup_hide (once : (catalog.listed id).Nodup) :
    ((hide catalog registry image).2.listed id).Nodup := by
  cases hidden : (hide catalog registry image).1 with
  | true => exact (delists_hide hidden).nodup once
  | false => exact (keeps_hide hidden).nodup once

theorem nodup_unhide (hidden : Bool) (once : (catalog.listed id).Nodup) :
    ((unhide catalog registry image hidden).listed id).Nodup := by
  by_cases again : hidden = true ∧ image ∉ catalog.listed registry
  · rw [again.1]
    exact (enlists_unhide again.2).nodup once
  · exact (keeps_unhide again).nodup once

end Script

section Moves

variable {World : Type} {conduct : Conduct World} {before after : Position World}
  {id : RegistryId}

theorem Position.nodup_enter {position : Position World} (registry : RegistryId)
    (image : Handle) (once : (position.catalog.listed id).Nodup) :
    ((position.enter registry image).catalog.listed id).Nodup := by
  rw [Position.catalog_enter]
  exact Script.nodup_hide registry image once

theorem Position.nodup_leave {position : Position World}
    (once : (position.catalog.listed id).Nodup) :
    (position.leave.catalog.listed id).Nodup := by
  cases running : position.running with
  | nil => rwa [Position.leave_eq_self running]
  | cons frame rest =>
      rw [Position.catalog_leave running]
      exact Script.nodup_unhide _ _ _ once

theorem Move.nodup (move : Move conduct before after)
    (once : (before.catalog.listed id).Nodup) : (after.catalog.listed id).Nodup := by
  cases move with
  | act deed catalog permitted affordable performed => exact Deed.nodup_perform performed once
  | enter registry image permitted idle lines => exact Position.nodup_enter registry image once
  | leave => exact Position.nodup_leave once
  | pass registry image permitted idle noLines =>
      exact Position.nodup_leave (Position.nodup_enter registry image once)
  | _ => exact once

theorem Position.policy_leave (position : Position World) (id : RegistryId) :
    (position.leave.catalog.registry id).toPolicy = (position.catalog.registry id).toPolicy := by
  cases running : position.running with
  | nil => rw [Position.leave_eq_self running]
  | cons frame rest => rw [Position.catalog_leave running, Script.policy_unhide]

end Moves

end BootScript
