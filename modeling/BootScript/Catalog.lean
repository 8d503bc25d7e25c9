import BootScript.Formats
import BootScript.Store

/-!
# The catalog

A catalog holds every image there is, under its handle, and the registries that
list some of them.  Being listed makes an image reachable by name.  Registration
shows in two places, the list and a flag of the image, and both change together.
-/

namespace BootScript

abbrev Handle := Nat

abbrev RegistryId := Nat

/-- Why an image is not let go.  It is never denied that the image is listed. -/
structure Refusal where
  cause : Image → ImageError
  cause_ne_notRegistered : ∀ image name, cause image ≠ .notRegistered name

/-- As if the image were registered twice. -/
def Refusal.alreadyRegistered : Refusal where
  cause image := .alreadyRegistered image.name
  cause_ne_notRegistered _ _ := ImageError.noConfusion

/-- What a registry does when it is asked to let an image go. -/
structure Policy where
  /-- A pinned registry takes images in and never lets one go. -/
  pinned : Bool := false
  /-- The answer of a pinned registry. -/
  refusal : Refusal := .alreadyRegistered

/-- Images in the order in which they were registered. -/
structure Registry extends Policy where
  listed : List Handle := []

instance : Inhabited Registry := ⟨{}⟩

structure Catalog where
  images : Store Image := .empty
  registries : Store Registry := .empty

namespace Catalog

instance : Inhabited Catalog := ⟨{}⟩

/-! ## Images -/

def image (catalog : Catalog) (handle : Handle) : Image :=
  catalog.images.get handle

def modifyImage (catalog : Catalog) (handle : Handle) (change : Image → Image) : Catalog :=
  { catalog with images := catalog.images.modify handle change }

/-- Take a new image in, under the next handle. -/
def addImage (catalog : Catalog) (image : Image) : Handle × Catalog :=
  (catalog.images.size, { catalog with images := catalog.images.push image })

def setRegistered (catalog : Catalog) (handle : Handle) (value : Bool) : Catalog :=
  catalog.modifyImage handle fun image => { image with registered := value }

def setExecuting (catalog : Catalog) (handle : Handle) (value : Bool) : Catalog :=
  catalog.modifyImage handle fun image => { image with executing := value }

/-- Take a reference on an image. -/
def hold (catalog : Catalog) (handle : Handle) : Catalog :=
  catalog.modifyImage handle fun image => { image with held := image.held + 1 }

/-- Give a reference on an image back. -/
def release (catalog : Catalog) (handle : Handle) : Catalog :=
  catalog.modifyImage handle fun image => { image with held := image.held - 1 }

@[simp] theorem image_modifyImage (catalog : Catalog) (handle other : Handle)
    (change : Image → Image) :
    (catalog.modifyImage handle change).image other =
      if other = handle then change (catalog.image handle) else catalog.image other :=
  Store.get_modify ..

theorem image_addImage (catalog : Catalog) (image : Image) (handle : Handle) :
    (catalog.addImage image).2.image handle =
      if handle = catalog.images.size then image else catalog.image handle :=
  Store.get_push ..

/-- The images whose executing flag is set, by increasing handle. -/
def executing (catalog : Catalog) : List Handle :=
  (List.range catalog.images.size).filter fun handle => (catalog.image handle).executing

/-! ## Classification -/

def setFormat (catalog : Catalog) (handle : Handle) (format : Format) :
    Except ImageError Catalog :=
  ((catalog.image handle).setFormat format).map fun image =>
    catalog.modifyImage handle fun _ => image

def probe (catalog : Catalog) (handle : Handle) (format : Format) :
    Except ImageError Catalog :=
  (format.probe (catalog.image handle)).map fun image =>
    catalog.modifyImage handle fun _ => image

def classify (catalog : Catalog) (handle : Handle) (formats : Formats) :
    Except ImageError (Format × Catalog) :=
  (formats.classify (catalog.image handle)).map fun (format, image) =>
    (format, catalog.modifyImage handle fun _ => image)

/-! ## Registries -/

def registry (catalog : Catalog) (id : RegistryId) : Registry :=
  catalog.registries.get id

def listed (catalog : Catalog) (id : RegistryId) : List Handle :=
  (catalog.registry id).listed

def setListed (catalog : Catalog) (id : RegistryId) (listed : List Handle) : Catalog :=
  { catalog with
    registries := catalog.registries.modify id fun registry => { registry with listed } }

@[simp] theorem registry_modifyImage (catalog : Catalog) (handle : Handle)
    (change : Image → Image) (id : RegistryId) :
    (catalog.modifyImage handle change).registry id = catalog.registry id := rfl

@[simp] theorem listed_modifyImage (catalog : Catalog) (handle : Handle)
    (change : Image → Image) (id : RegistryId) :
    (catalog.modifyImage handle change).listed id = catalog.listed id := rfl

@[simp] theorem image_setListed (catalog : Catalog) (id : RegistryId) (listed : List Handle)
    (handle : Handle) : (catalog.setListed id listed).image handle = catalog.image handle := rfl

@[simp] theorem registry_setListed (catalog : Catalog) (id other : RegistryId)
    (listed : List Handle) :
    (catalog.setListed id listed).registry other =
      if other = id then { catalog.registry id with listed } else catalog.registry other :=
  Store.get_modify ..

@[simp] theorem listed_setListed (catalog : Catalog) (id other : RegistryId)
    (listed : List Handle) :
    (catalog.setListed id listed).listed other =
      if other = id then listed else catalog.listed other := by
  unfold Catalog.listed
  rw [registry_setListed]
  split <;> rfl

/-- List an image last.  An image that is listed already is refused. -/
def register (catalog : Catalog) (id : RegistryId) (handle : Handle) :
    Except ImageError Catalog :=
  if handle ∈ catalog.listed id then
    .error (.alreadyRegistered (catalog.image handle).name)
  else
    .ok ((catalog.setRegistered handle true).setListed id (catalog.listed id ++ [handle]))

/-- Take an image off the list.  A pinned registry refuses, listed or not. -/
def unregister (catalog : Catalog) (id : RegistryId) (handle : Handle) :
    Except ImageError Catalog :=
  if (catalog.registry id).pinned then
    .error ((catalog.registry id).refusal.cause (catalog.image handle))
  else if handle ∈ catalog.listed id then
    .ok ((catalog.setRegistered handle false).setListed id ((catalog.listed id).erase handle))
  else
    .error (.notRegistered (catalog.image handle).name)

/-- The first listed image of a name. -/
def find? (catalog : Catalog) (id : RegistryId) (name : String) : Option Handle :=
  (catalog.listed id).find? fun handle => (catalog.image handle).name = name

/-- The first listed image that has a format. -/
def firstClassified? (catalog : Catalog) (id : RegistryId) : Option Handle :=
  (catalog.listed id).find? fun handle => (catalog.image handle).format.isSome

/-- How many entries the lists of all registries have for the image. -/
def entries (catalog : Catalog) (handle : Handle) : Nat :=
  catalog.registries.entries.toList.foldr
    (fun registry total => registry.listed.count handle + total) 0

/-- How often the image is referred to: by whoever made it, by every list entry,
and by every reference held. -/
def references (catalog : Catalog) (handle : Handle) : Nat :=
  1 + catalog.entries handle + (catalog.image handle).held

end Catalog

end BootScript
