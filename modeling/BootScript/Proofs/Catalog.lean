import BootScript.Script
import Mathlib.Data.List.Nodup

/-!
# What the operations of a catalog change

An operation of the catalog is known by what it does to each view: to the fields
of every image and to the list of every registry.  Hiding an image and putting it
back are combinations of such operations, and are known in the same way.
-/

namespace BootScript

theorem Formats.probe_of_probeInOrder {formats : List Format} {format : Format}
    {before after : Image} (found : probeInOrder before formats = .ok (format, after)) :
    format.probe before = .ok after := by
  induction formats with
  | nil => simp [probeInOrder] at found
  | cons first rest ih =>
      rw [probeInOrder] at found
      cases answer : first.probe before with
      | ok image =>
          simp only [answer, Except.ok.injEq, Prod.mk.injEq] at found
          obtain ⟨rfl, rfl⟩ := found
          exact answer
      | error failure =>
          cases failure with
          | formatMismatch => exact ih (by simpa only [answer] using found)
          | _ => simp [answer] at found

namespace Catalog

variable {catalog after : Catalog} {id : RegistryId} {handle : Handle}

theorem image_of_size_le (beyond : catalog.images.size ≤ handle) :
    catalog.image handle = default :=
  Store.get_of_size_le beyond

/-! ## Marks, flags and references -/

@[simp] theorem image_setExecuting (catalog : Catalog) (handle other : Handle) (value : Bool) :
    (catalog.setExecuting handle value).image other =
      if other = handle then { catalog.image handle with executing := value }
      else catalog.image other :=
  image_modifyImage ..

@[simp] theorem image_setRegistered (catalog : Catalog) (handle other : Handle) (value : Bool) :
    (catalog.setRegistered handle value).image other =
      if other = handle then { catalog.image handle with registered := value }
      else catalog.image other :=
  image_modifyImage ..

@[simp] theorem image_hold (catalog : Catalog) (handle other : Handle) :
    (catalog.hold handle).image other =
      if other = handle then { catalog.image handle with held := (catalog.image handle).held + 1 }
      else catalog.image other :=
  image_modifyImage ..

@[simp] theorem image_release (catalog : Catalog) (handle other : Handle) :
    (catalog.release handle).image other =
      if other = handle then { catalog.image handle with held := (catalog.image handle).held - 1 }
      else catalog.image other :=
  image_modifyImage ..

@[simp] theorem registry_setExecuting (catalog : Catalog) (handle : Handle) (value : Bool)
    (id : RegistryId) : (catalog.setExecuting handle value).registry id = catalog.registry id := rfl

@[simp] theorem registry_setRegistered (catalog : Catalog) (handle : Handle) (value : Bool)
    (id : RegistryId) :
    (catalog.setRegistered handle value).registry id = catalog.registry id := rfl

@[simp] theorem registry_hold (catalog : Catalog) (handle : Handle) (id : RegistryId) :
    (catalog.hold handle).registry id = catalog.registry id := rfl

@[simp] theorem registry_release (catalog : Catalog) (handle : Handle) (id : RegistryId) :
    (catalog.release handle).registry id = catalog.registry id := rfl

@[simp] theorem listed_setExecuting (catalog : Catalog) (handle : Handle) (value : Bool)
    (id : RegistryId) : (catalog.setExecuting handle value).listed id = catalog.listed id := rfl

@[simp] theorem listed_setRegistered (catalog : Catalog) (handle : Handle) (value : Bool)
    (id : RegistryId) : (catalog.setRegistered handle value).listed id = catalog.listed id := rfl

@[simp] theorem listed_hold (catalog : Catalog) (handle : Handle) (id : RegistryId) :
    (catalog.hold handle).listed id = catalog.listed id := rfl

@[simp] theorem listed_release (catalog : Catalog) (handle : Handle) (id : RegistryId) :
    (catalog.release handle).listed id = catalog.listed id := rfl

/-! ## Registration -/

theorem register_eq_ok_iff :
    catalog.register id handle = .ok after ↔
      handle ∉ catalog.listed id ∧
        (catalog.setRegistered handle true).setListed id (catalog.listed id ++ [handle]) =
          after := by
  unfold register
  split <;> simp_all

theorem unregister_eq_ok_iff :
    catalog.unregister id handle = .ok after ↔
      (catalog.registry id).pinned = false ∧ handle ∈ catalog.listed id ∧
        (catalog.setRegistered handle false).setListed id ((catalog.listed id).erase handle) =
          after := by
  unfold unregister
  split
  · simp_all
  · split <;> simp_all

/-! ## Classification -/

theorem setFormat_eq_ok_iff {format : Format} :
    catalog.setFormat handle format = .ok after ↔
      (catalog.image handle).format = none ∧
        (catalog.modifyImage handle fun _ => { catalog.image handle with format := some format }) =
          after := by
  unfold setFormat Image.setFormat
  cases known : (catalog.image handle).format <;> simp [Except.map]

theorem setFormat_of_probe {format : Format} (probed : catalog.probe handle format = .ok after) :
    catalog.setFormat handle format = .ok after := by
  unfold probe Format.probe at probed
  cases verdict : format.recognise (catalog.image handle).buffer with
  | error failure => simp [verdict, Except.map] at probed
  | ok => simpa [verdict, setFormat] using probed

theorem setFormat_of_classify {formats : Formats} {format : Format}
    (classified : catalog.classify handle formats = .ok (format, after)) :
    catalog.setFormat handle format = .ok after := by
  apply setFormat_of_probe
  unfold classify Formats.classify at classified
  cases known : (catalog.image handle).format with
  | some known => simp [known, Except.map] at classified
  | none =>
      simp only [known] at classified
      match found : Formats.probeInOrder (catalog.image handle) formats.inOrder with
      | .error failure => simp [found, Except.map] at classified
      | .ok (decided, image) =>
          simp only [found, Except.map, Except.ok.injEq, Prod.mk.injEq] at classified
          obtain ⟨rfl, rfl⟩ := classified
          simp [probe, Formats.probe_of_probeInOrder found, Except.map]

end Catalog

namespace Script

variable (catalog : Catalog) (registry : RegistryId) (image : Handle) (hidden : Bool)

/-! ## Hiding an image -/

theorem hide_fst :
    (hide catalog registry image).1 = true ↔
      (catalog.registry registry).pinned = false ∧ image ∈ catalog.listed registry := by
  unfold hide Catalog.unregister
  by_cases pinned : (catalog.registry registry).pinned
  · simp [pinned]
  · by_cases member : image ∈ catalog.listed registry <;> simp [pinned, member]

theorem hide_snd :
    (hide catalog registry image).2 =
      let marked := (catalog.setExecuting image true).hold image
      if (hide catalog registry image).1 then
        (marked.setRegistered image false).setListed registry
          ((catalog.listed registry).erase image)
      else marked := by
  unfold hide Catalog.unregister
  by_cases pinned : (catalog.registry registry).pinned
  · simp [pinned]
  · by_cases member : image ∈ catalog.listed registry <;> simp [pinned, member]

theorem image_hide (other : Handle) :
    (hide catalog registry image).2.image other =
      if other = image then
        { catalog.image image with
          executing := true
          held := (catalog.image image).held + 1
          registered := !(hide catalog registry image).1 && (catalog.image image).registered }
      else catalog.image other := by
  rw [hide_snd]
  cases (hide catalog registry image).1 <;> simp <;> split <;> simp_all

theorem listed_hide (id : RegistryId) :
    (hide catalog registry image).2.listed id =
      if (hide catalog registry image).1 = true ∧ id = registry then
        (catalog.listed registry).erase image
      else catalog.listed id := by
  rw [hide_snd]
  cases (hide catalog registry image).1 <;> simp

theorem policy_hide (id : RegistryId) :
    ((hide catalog registry image).2.registry id).toPolicy =
      (catalog.registry id).toPolicy := by
  rw [hide_snd]
  by_cases same : id = registry <;> cases (hide catalog registry image).1 <;> simp [same]

theorem registry_hide_of_ne {id : RegistryId} (differs : id ≠ registry) :
    (hide catalog registry image).2.registry id = catalog.registry id := by
  rw [hide_snd]
  cases (hide catalog registry image).1 <;> simp [differs]

/-! ## Putting an image back -/

theorem unhide_eq :
    unhide catalog registry image hidden =
      let listed :=
        if hidden = true ∧ image ∉ catalog.listed registry then
          (catalog.setRegistered image true).setListed registry
            (catalog.listed registry ++ [image])
        else catalog
      (listed.setExecuting image false).release image := by
  unfold unhide Catalog.register
  cases hidden
  · simp
  · by_cases member : image ∈ catalog.listed registry <;> simp [member]

theorem image_unhide (other : Handle) :
    (unhide catalog registry image hidden).image other =
      if other = image then
        { catalog.image image with
          executing := false
          held := (catalog.image image).held - 1
          registered :=
            decide (hidden = true ∧ image ∉ catalog.listed registry) ||
              (catalog.image image).registered }
      else catalog.image other := by
  rw [unhide_eq]
  by_cases again : hidden = true ∧ image ∉ catalog.listed registry
  · by_cases same : other = image <;> simp [again, same]
  · by_cases same : other = image <;> simp [again, same]

theorem listed_unhide (id : RegistryId) :
    (unhide catalog registry image hidden).listed id =
      if (hidden = true ∧ image ∉ catalog.listed registry) ∧ id = registry then
        catalog.listed registry ++ [image]
      else catalog.listed id := by
  rw [unhide_eq]
  by_cases again : hidden = true ∧ image ∉ catalog.listed registry <;> simp [again]

theorem policy_unhide (id : RegistryId) :
    ((unhide catalog registry image hidden).registry id).toPolicy =
      (catalog.registry id).toPolicy := by
  rw [unhide_eq]
  by_cases again : hidden = true ∧ image ∉ catalog.listed registry
  · by_cases same : id = registry <;> simp [again, same]
  · simp [again]

theorem registry_unhide_of_ne {id : RegistryId} (differs : id ≠ registry) :
    (unhide catalog registry image hidden).registry id = catalog.registry id := by
  rw [unhide_eq]
  by_cases again : hidden = true ∧ image ∉ catalog.listed registry <;> simp [again, differs]

end Script

end BootScript
