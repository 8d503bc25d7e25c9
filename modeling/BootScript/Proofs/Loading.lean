import BootScript.Host.Loader
import BootScript.Proofs.BufferLines
import BootScript.Proofs.Catalog
import BootScript.Script.Signature

/-!
# Loading files

Loading reads one file after another and puts the images that it recognises on a list, in
the order of the files.  So what loading does to a catalog depends on the images alone that
come of the files before the first failure.  The formats known from the start recognise a
file by its first bytes and fail for no other reason than that the file cannot be read.
-/

namespace BootScript

namespace Catalog

/-! ## Images on a list -/

/-- Take a new image in and list it last. -/
def shelve (registry : RegistryId) (catalog : Catalog) (image : Image) : Catalog :=
  ((catalog.addImage image).2.setRegistered catalog.images.size true).setListed registry
    (catalog.listed registry ++ [catalog.images.size])

section Shelve

variable {catalog : Catalog} {registry : RegistryId}

theorem register_addImage (known : ∀ handle ∈ catalog.listed registry, handle < catalog.images.size)
    (image : Image) :
    (catalog.addImage image).2.register registry catalog.images.size =
      .ok (catalog.shelve registry image) := by
  have fresh : catalog.images.size ∉ (catalog.addImage image).2.listed registry :=
    fun listed => Nat.lt_irrefl _ (known _ listed)
  exact register_eq_ok_iff.mpr ⟨fresh, rfl⟩

theorem size_shelve (image : Image) :
    (catalog.shelve registry image).images.size = catalog.images.size + 1 := by
  have pushed : (catalog.images.push image).size = catalog.images.size + 1 := by
    simp [Store.size, Store.push]
  have modified : (catalog.shelve registry image).images.size =
      max (catalog.images.push image).size (catalog.images.size + 1) :=
    Store.size_modify ..
  rw [modified, pushed, Nat.max_self]

theorem image_shelve (image : Image) (handle : Handle) :
    (catalog.shelve registry image).image handle =
      if handle = catalog.images.size then { image with registered := true }
      else catalog.image handle := by
  rw [shelve, image_setListed, image_setRegistered, image_addImage, image_addImage, if_pos rfl]
  split <;> rfl

theorem listed_shelve (image : Image) (id : RegistryId) :
    (catalog.shelve registry image).listed id =
      if id = registry then catalog.listed registry ++ [catalog.images.size]
      else catalog.listed id := by
  rw [shelve, listed_setListed]
  rfl

theorem policy_shelve (image : Image) (id : RegistryId) :
    ((catalog.shelve registry image).registry id).toPolicy = (catalog.registry id).toPolicy := by
  rw [shelve, registry_setListed]
  split
  · next same => rw [same]; rfl
  · rfl

theorem known_shelve (known : ∀ handle ∈ catalog.listed registry, handle < catalog.images.size)
    (image : Image) :
    ∀ handle ∈ (catalog.shelve registry image).listed registry,
      handle < (catalog.shelve registry image).images.size := by
  intro handle listed
  rw [listed_shelve, if_pos rfl] at listed
  rw [size_shelve]
  rcases List.mem_append.mp listed with before | last
  · exact Nat.lt_succ_of_lt (known handle before)
  · rw [List.mem_singleton.mp last]
    exact Nat.lt_succ_self _

end Shelve

section ShelveAll

variable {catalog : Catalog} {registry : RegistryId} (images : List Image)

/-- The new images follow the old ones. -/
theorem image_foldl_shelve (handle : Nat) :
    (images.foldl (shelve registry) catalog).image handle =
      if handle < catalog.images.size then catalog.image handle
      else
        (images[handle - catalog.images.size]?.map fun image =>
          { image with registered := true }).getD default := by
  induction images generalizing catalog with
  | nil =>
      split
      · rfl
      · next beyond => exact image_of_size_le (Nat.le_of_not_lt beyond)
  | cons image rest ih =>
      rw [List.foldl_cons, ih, size_shelve, image_shelve]
      rcases Nat.lt_trichotomy handle catalog.images.size with before | rfl | after
      · rw [if_pos (Nat.lt_succ_of_lt before), if_neg (Nat.ne_of_lt before), if_pos before]
      · rw [if_pos (Nat.lt_succ_self _), if_pos rfl, if_neg (Nat.lt_irrefl _), Nat.sub_self]
        rfl
      · have next : handle - catalog.images.size = handle - (catalog.images.size + 1) + 1 := by
          omega
        rw [if_neg (by omega), if_neg (by omega), next, List.getElem?_cons_succ]

theorem listed_foldl_shelve :
    (images.foldl (shelve registry) catalog).listed registry =
      catalog.listed registry ++ List.range' catalog.images.size images.length := by
  induction images generalizing catalog with
  | nil => exact (List.append_nil _).symm
  | cons image rest ih =>
      rw [List.foldl_cons, ih, listed_shelve, if_pos rfl, size_shelve, List.append_assoc,
        List.length_cons, List.range'_succ, List.singleton_append]

theorem listed_foldl_shelve_of_ne {other : RegistryId} (differs : other ≠ registry) :
    (images.foldl (shelve registry) catalog).listed other = catalog.listed other := by
  induction images generalizing catalog with
  | nil => rfl
  | cons image rest ih => rw [List.foldl_cons, ih, listed_shelve, if_neg differs]

theorem policy_foldl_shelve (id : RegistryId) :
    ((images.foldl (shelve registry) catalog).registry id).toPolicy =
      (catalog.registry id).toPolicy := by
  induction images generalizing catalog with
  | nil => rfl
  | cons image rest ih => rw [List.foldl_cons, ih, policy_shelve]

end ShelveAll

end Catalog

namespace Loader

/-! ## Loading in any formats -/

/-- The images that come of files before the first failure, and that failure. -/
def sift (files : FileSystem) (formats : Formats) : List String → List Image × Option Report
  | [] => ([], none)
  | path :: rest =>
      match fetchClassified files formats path with
      | .error report => ([], some report)
      | .ok image? =>
          let (images, failure) := sift files formats rest
          (image?.toList ++ images, failure)

theorem loadFrom_eq (files : FileSystem) (formats : Formats) {registry : RegistryId}
    {catalog : Catalog} (known : ∀ handle ∈ catalog.listed registry, handle < catalog.images.size)
    (count : Nat) (paths : List String) :
    loadFrom files formats registry catalog count paths =
      let (images, failure) := sift files formats paths
      (failure.elim (.ok (count + images.length)) .error,
        images.foldl (Catalog.shelve registry) catalog) := by
  induction paths generalizing catalog count with
  | nil => rfl
  | cons path rest ih =>
      rw [loadFrom, sift]
      match fetchClassified files formats path with
      | .error report => rfl
      | .ok none => exact ih known count
      | .ok (some image) =>
          have registers := Catalog.register_addImage known image
          have handle : (catalog.addImage image).1 = catalog.images.size := rfl
          simp only [handle, registers, ih (Catalog.known_shelve known image)]
          generalize sift files formats rest = sifted
          obtain ⟨images, failure⟩ := sifted
          cases failure with
          | none => simp [Nat.add_assoc, Nat.add_comm 1]
          | some report => rfl

/-! ## Loading in the formats known from the start -/

/-- The image of a file that starts with the signature. -/
def script? (files : FileSystem) (path : String) : Option Image :=
  match files.read path with
  | .error _ => none
  | .ok contents =>
      if Script.signature <+: contents.bytes.toList then
        some
          { name := (Path.fileName? path).getD path
            buffer := { contents }
            format := some Script.format }
      else none

theorem script?_eq_some_iff {files : FileSystem} {path : String} {image : Image} :
    script? files path = some image ↔
      ∃ contents, files.read path = .ok contents ∧ Script.signature <+: contents.bytes.toList ∧
        image =
          { name := (Path.fileName? path).getD path
            buffer := { contents }
            format := some Script.format } := by
  unfold script?
  cases files.read path with
  | error failure => simp
  | ok contents =>
      by_cases signed : Script.signature <+: contents.bytes.toList <;> simp [signed, eq_comm]

theorem format_of_script? {files : FileSystem} {path : String} {image : Image}
    (script : script? files path = some image) :
    image.format = some Script.format ∧ image.executing = false ∧ image.buffer.readable = none := by
  obtain ⟨contents, -, -, rfl⟩ := script?_eq_some_iff.mp script
  exact ⟨rfl, rfl, rfl⟩

theorem fileName?_ne_empty {path name : String} (named : Path.fileName? path = some name) :
    name ≠ "" := by
  unfold Path.fileName? at named
  split at named
  · next last rest split =>
      have solid := List.head?_dropWhile_not Path.isFiller
        (Path.components (Path.anchor path.toList).2).reverse
      rw [← Path.fromLast, split] at solid
      have some : last ≠ [] := by
        rintro rfl
        have named : Path.isFiller [] = false := solid
        exact absurd named (by decide)
      split at named
      · simp at named
      · rw [← Option.some.inj named]
        exact mt (fun empty => by simpa using congrArg String.toList empty) some
  · simp at named

theorem name_of_script?_ne_empty {files : FileSystem} {path : String} {image : Image}
    (given : path ≠ "") (script : script? files path = some image) : image.name ≠ "" := by
  obtain ⟨contents, -, -, rfl⟩ := script?_eq_some_iff.mp script
  dsimp only
  cases named : Path.fileName? path with
  | none => exact given
  | some name => exact fileName?_ne_empty named

theorem startsWith_signature_iff {contents : Contents} :
    Buffer.startsWith { contents } Script.signature = true ↔
      Script.signature <+: contents.bytes.toList :=
  Buffer.startsWith_iff rfl (by decide)

/-- The formats known from the start look at the first bytes and at nothing else. -/
theorem classify_builtIn {image : Image} (untagged : image.format = none) :
    Formats.builtIn.classify image =
      if image.buffer.startsWith Script.signature then
        .ok (Script.format, { image with format := some Script.format })
      else .error (.unknownFormat image.name) := by
  have inOrder : Formats.builtIn.inOrder = [Script.format] := rfl
  have recognises : Script.format.recognise = Script.recognise := rfl
  simp only [Formats.classify, untagged, inOrder, Formats.probeInOrder, Format.probe, recognises,
    Script.recognise]
  by_cases starts : image.buffer.startsWith Script.signature = true
  · simp only [if_pos starts, Image.setFormat, untagged]
  · simp only [if_neg starts]

theorem fetchClassified_builtIn (files : FileSystem) (path : String) :
    fetchClassified files .builtIn path =
      match files.read path with
      | .error failure => .error ["Failed to read image: " ++ path, failure.message]
      | .ok _ => .ok (script? files path) := by
  rw [fetchClassified, fetch, script?]
  cases files.read path with
  | error failure => rfl
  | ok contents =>
      dsimp only
      rw [classify_builtIn rfl]
      dsimp only
      by_cases signed : Script.signature <+: contents.bytes.toList
      · rw [if_pos (startsWith_signature_iff.mpr signed), if_pos signed]
      · rw [if_neg (mt startsWith_signature_iff.mp signed), if_neg signed]

/-- Only a file that cannot be read stops the loading. -/
theorem sift_builtIn (files : FileSystem) (paths : List String) :
    (∀ path ∈ paths, ∃ contents, files.read path = .ok contents) ∧
        sift files .builtIn paths = (paths.filterMap (script? files), none) ∨
      ∃ before path failure, before ++ [path] <+: paths ∧ files.read path = .error failure ∧
        sift files .builtIn paths = (before.filterMap (script? files),
          some ["Failed to read image: " ++ path, failure.message]) := by
  induction paths with
  | nil => exact .inl ⟨nofun, rfl⟩
  | cons path rest ih =>
      rw [sift, fetchClassified_builtIn]
      cases read : files.read path with
      | error failure => exact .inr ⟨[], path, failure, ⟨rest, rfl⟩, read, rfl⟩
      | ok contents =>
          have found (images : List Image) : (script? files path).toList ++ images =
              [path].filterMap (script? files) ++ images := by
            cases script : script? files path <;> simp [script]
          rcases ih with ⟨readable, all⟩ | ⟨before, stop, failure, inside, unreadable, some⟩
          · refine .inl ⟨List.forall_mem_cons.mpr ⟨⟨contents, read⟩, readable⟩, ?_⟩
            simp only [all, found, ← List.filterMap_append, List.singleton_append]
          · refine .inr ⟨path :: before, stop, failure, ?_, unreadable, ?_⟩
            · exact List.cons_prefix_cons.mpr ⟨rfl, inside⟩
            · simp only [some, found, ← List.filterMap_append, List.singleton_append]

end Loader

end BootScript
