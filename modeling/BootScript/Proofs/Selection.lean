import BootScript.Host.Run
import BootScript.Proofs.Loading

/-!
# Selecting the image to boot

The host loads images into a catalog of its own, in which the handle of an image is its
place in the order of loading.  So the image that the host selects, by its name or as the
first one, is told by its place, and a shell that is asked to boot it selects the same.
-/

namespace BootScript.Host

/-- The catalog of the host after images were loaded. -/
def shelf (images : List Image) : Catalog :=
  images.foldl (Catalog.shelve 0) emptyCatalog

/-- The machine on which the host executes an image, once images were loaded. -/
def shelfMachine (trace : Bool) (images : List Image) : Machine Shells where
  catalog := shelf images
  world := .ofList [{ traceCommands := trace }]

section Shelf

variable (images : List Image)

theorem listed_shelf : (shelf images).listed 0 = List.range images.length := by
  have listed : emptyCatalog.listed 0 = [] := rfl
  have size : emptyCatalog.images.size = 0 := rfl
  rw [shelf, Catalog.listed_foldl_shelve, listed, size, List.nil_append, List.range_eq_range']

theorem unpinned_shelf : ((shelf images).registry 0).pinned = false := by
  rw [shelf, Catalog.policy_foldl_shelve]
  rfl

theorem image_shelf (handle : Nat) :
    (shelf images).image handle =
      (images[handle]?.map fun image => { image with registered := true }).getD default := by
  have size : emptyCatalog.images.size = 0 := rfl
  rw [shelf, Catalog.image_foldl_shelve, size, if_neg (Nat.not_lt_zero handle), Nat.sub_zero]

theorem image_shelf_of_lt {handle : Nat} (inside : handle < images.length) :
    (shelf images).image handle = { images[handle] with registered := true } := by
  rw [image_shelf, List.getElem?_eq_getElem inside]
  rfl

/-- A search of the list finds places. -/
theorem find?_shelf (wanted : Image → Bool) :
    ((shelf images).listed 0).find? (fun handle => wanted ((shelf images).image handle)) =
      images.findIdx? fun image => wanted { image with registered := true } := by
  rw [listed_shelf]
  cases found : images.findIdx? fun image => wanted { image with registered := true } with
  | none =>
      rw [List.findIdx?_eq_none_iff] at found
      rw [List.find?_range_eq_none]
      intro handle inside
      rw [image_shelf_of_lt images inside, found _ (List.getElem_mem inside)]
      rfl
  | some place =>
      obtain ⟨inside, holds, first⟩ := List.findIdx?_eq_some_iff_getElem.mp found
      rw [List.find?_range_eq_some]
      refine ⟨by rwa [image_shelf_of_lt images inside], List.mem_range.mpr inside, ?_⟩
      intro earlier before
      have refused := first earlier before
      rw [image_shelf_of_lt images (Nat.lt_trans before inside)]
      simpa using refused

end Shelf

/-! ## The image to boot -/

/-- Whether an image may be booted: any image, or any of a given name. -/
def Wanted (boot : Option String) (image : Image) : Prop :=
  ∀ name, boot = some name → image.name = name

section Selecting

variable {boot : Option String} {image : Image} {before after : List Image}

theorem selectImage_of_wanted (tagged : ∀ other ∈ before ++ image :: after, other.format.isSome)
    (wanted : Wanted boot image) (skipped : ∀ other ∈ before, ¬Wanted boot other) :
    selectImage (shelf (before ++ image :: after)) boot = .ok before.length ∧
      Shell.bootTarget (shelf (before ++ image :: after)) 0 boot.toList = .ok before.length := by
  cases boot with
  | none =>
      obtain rfl : before = [] :=
        List.eq_nil_iff_forall_not_mem.mpr fun other member => skipped other member nofun
      have found : (shelf (image :: after)).firstClassified? 0 = some 0 := by
        have first := tagged image List.mem_cons_self
        rw [Catalog.firstClassified?, find?_shelf (image :: after) fun other =>
          other.format.isSome, List.findIdx?_cons, if_pos first]
      simp only [List.nil_append, selectImage, Shell.bootTarget, Option.toList, found,
        List.length_nil, and_self]
  | some name =>
      have found : (shelf (before ++ image :: after)).find? 0 name = some before.length := by
        have none : before.findIdx? (fun other => decide (other.name = name)) = none := by
          rw [List.findIdx?_eq_none_iff]
          intro other member
          have differs : other.name ≠ name := fun same =>
            skipped other member fun _ given => same.trans (Option.some.inj given)
          exact decide_eq_false differs
        have here : decide (image.name = name) = true := decide_eq_true (wanted name rfl)
        rw [Catalog.find?, find?_shelf _ fun other => decide (other.name = name),
          List.findIdx?_append, none, List.findIdx?_cons, if_pos here, Option.map_some,
          Nat.zero_add, Option.none_or]
      simp only [selectImage, Shell.bootTarget, Option.toList, found, and_self]

theorem selectImage_of_absent {images : List Image} {name : String}
    (absent : ∀ image ∈ images, image.name ≠ name) :
    selectImage (shelf images) (some name) = .error ["No such image: " ++ name] := by
  have missing : (shelf images).find? 0 name = none := by
    rw [Catalog.find?, find?_shelf images fun image => decide (image.name = name),
      List.findIdx?_eq_none_iff]
    exact fun image member => decide_eq_false (absent image member)
  simp only [selectImage, missing]

end Selecting

/-! ## Loading the images of settings -/

theorem load_emptyCatalog (files : FileSystem) (paths : List String) :
    Loader.load files .builtIn 0 emptyCatalog paths =
      let (images, failure) := Loader.sift files .builtIn paths
      (failure.elim (.ok images.length) .error, shelf images) := by
  have known : ∀ handle ∈ emptyCatalog.listed 0, handle < emptyCatalog.images.size := nofun
  rw [Loader.load, Loader.loadFrom_eq files .builtIn known]
  simp only [Nat.zero_add, shelf]

/-- With every file at hand, the image to boot is selected among those of the scripts. -/
theorem prepare_of_readable {files : FileSystem} {settings : Settings}
    (readable : ∀ path ∈ settings.images, ∃ contents, files.read path = .ok contents)
    (some : settings.images.filterMap (Loader.script? files) ≠ []) :
    prepare files settings =
      let catalog := shelf (settings.images.filterMap (Loader.script? files))
      (selectImage catalog settings.boot).map fun image => (catalog, image) := by
  have given : settings.images ≠ [] := fun none => some (by rw [none]; rfl)
  have sifted : Loader.sift files .builtIn settings.images =
      (settings.images.filterMap (Loader.script? files), none) := by
    rcases Loader.sift_builtIn files settings.images with
      ⟨-, all⟩ | ⟨before, path, failure, inside, unreadable, -⟩
    · exact all
    · have member : path ∈ settings.images :=
        inside.subset (List.mem_append_right _ (List.mem_singleton_self path))
      obtain ⟨contents, read⟩ := readable path member
      rw [read] at unreadable
      exact absurd unreadable nofun
  obtain ⟨count, counted⟩ := Nat.exists_eq_succ_of_ne_zero (mt List.length_eq_zero_iff.mp some)
  rw [prepare, if_neg given, load_emptyCatalog, sifted]
  simp only [counted, Option.elim_none]

end BootScript.Host
