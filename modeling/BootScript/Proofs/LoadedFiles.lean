import BootScript.Proofs.Classification
import BootScript.Proofs.Loading
import Mathlib.Data.List.Forall2
import Mathlib.Data.List.ReduceOption

/-!
# What becomes of files

A file that cannot be read, or that no format can decide about, stops the loading.  Of any
other file there comes an image in the format that recognises it first, or no image if every
format leaves it to others.  So loading ends after the last file or at the first one that
stops it, and either way the images that have come are listed after those that were there.
-/

namespace BootScript

/-- A read went out of bounds. -/
def ImageError.IsReadError (failure : ImageError) : Prop :=
  ∃ offset length size, failure = .outOfBounds offset length size

/-- The format recognises a buffer, leaves it to others, or cannot read it. -/
def Format.Ordinary (format : Format) : Prop :=
  ∀ buffer failure, format.recognise buffer = .error failure →
    (∃ named, failure = .formatMismatch named) ∨ failure.IsReadError

theorem Script.ordinary_format : Script.format.Ordinary := by
  intro buffer failure failed
  have recognises : Script.format.recognise = Script.recognise := rfl
  rw [recognises, recognise] at failed
  split at failed
  · cases failed
  · exact .inl ⟨"script", (Except.error.inj failed).symm⟩

theorem Format.ordinary_program (name : String) (priority : Priority) (magic : Option Bytes)
    (verdict : Verdict) (status : Status) :
    (program name priority magic verdict status).Ordinary := by
  intro buffer failure failed
  have recognises : (program name priority magic verdict status).recognise buffer =
      if magic.all buffer.startsWith then verdict.toResult name buffer
      else .error (.formatMismatch name) := rfl
  rw [recognises] at failed
  split at failed
  · cases verdict with
    | accept => cases failed
    | mismatch => exact .inl ⟨name, (Except.error.inj failed).symm⟩
    | fail => exact .inr ⟨0, 1, buffer.size, (Except.error.inj failed).symm⟩
  · exact .inl ⟨name, (Except.error.inj failed).symm⟩

namespace Loader

variable {files : FileSystem} {formats : Formats}

/-! ## One file -/

/-- The image of a file before it is classified. -/
def fileImage (path : String) (contents : Contents) : Image where
  name := (Path.fileName? path).getD path
  buffer := { contents }

/-- What becomes of a file: an image in the format that decides about it, no image, or the
report of why it stops the loading. -/
inductive Comes (files : FileSystem) (formats : Formats) (path : String) :
    Except Report (Option Image) → Prop
  | recognised {contents : Contents} {format : Format} (read : files.read path = .ok contents)
      (decides : Formats.Decides formats.inOrder (fileImage path contents) (.ok format)) :
      Comes files formats path (.ok (some { fileImage path contents with format := some format }))
  | unknown {contents : Contents} (read : files.read path = .ok contents)
      (passed : ∀ format ∈ formats.inOrder, format.Mismatches { contents }) :
      Comes files formats path (.ok none)
  | unreadable {failure : ReadError} (read : files.read path = .error failure) :
      Comes files formats path (.error ["Failed to read image: " ++ path, failure.message])
  | undecided {contents : Contents} {failure : ImageError} (read : files.read path = .ok contents)
      (decides : Formats.Decides formats.inOrder (fileImage path contents) (.error failure))
      (hard : failure.IsReadError) :
      Comes files formats path (.error ["Failed to probe image: " ++ path, failure.message])

theorem decides_of_untagged (formats : Formats) {image : Image} (untagged : image.format = none) :
    Formats.Decides formats.inOrder image ((formats.classify image).map Prod.fst) := by
  simp only [Formats.classify, untagged]
  exact Formats.decides_probeInOrder untagged formats.inOrder

theorem eq_of_classify {image classified : Image} {format : Format} (untagged : image.format = none)
    (known : formats.classify image = .ok (format, classified)) :
    classified = { image with format := some format } := by
  simp only [Formats.classify, untagged] at known
  have probed := Formats.probe_of_probeInOrder known
  rw [Format.probe_eq untagged] at probed
  cases recognised : format.recognise image.buffer with
  | error failure => simp [recognised, Except.map] at probed
  | ok => simpa [recognised, Except.map] using probed.symm

theorem comes_fetchClassified (ordinary : ∀ format ∈ formats.inOrder, format.Ordinary)
    (path : String) : Comes files formats path (fetchClassified files formats path) := by
  rw [fetchClassified, fetch]
  cases read : files.read path with
  | error failure => exact .unreadable read
  | ok contents =>
      dsimp only
      rw [← fileImage]
      have untagged : (fileImage path contents).format = none := rfl
      have decides := decides_of_untagged formats untagged
      cases known : formats.classify (fileImage path contents) with
      | ok recognised =>
          obtain ⟨format, classified⟩ := recognised
          rw [known] at decides
          rw [eq_of_classify untagged known]
          exact .recognised read decides
      | error failure =>
          rw [known] at decides
          change Formats.Decides formats.inOrder (fileImage path contents) (.error failure)
            at decides
          cases decides with
          | tagged tagged => cases tagged
          | unknown _ passed => exact .unknown read passed
          | @fails earlier later format failure _ order passed failed hard =>
              have member : format ∈ formats.inOrder := by
                rw [order]
                exact List.mem_append_right _ List.mem_cons_self
              rcases ordinary format member _ failure failed with ⟨named, rfl⟩ | unread
              · exact absurd ⟨named, failed⟩ hard
              · have report := Comes.undecided read (.fails untagged order passed failed hard) unread
                obtain ⟨offset, length, size, rfl⟩ := unread
                exact report

/-! ## Files one after another -/

/-- These images come of these files, none of which stops the loading. -/
abbrev Yields (files : FileSystem) (formats : Formats) : List String → List (Option Image) → Prop :=
  List.Forall₂ fun path image? => Comes files formats path (.ok image?)

theorem sift_yields (ordinary : ∀ format ∈ formats.inOrder, format.Ordinary)
    (paths : List String) :
    (∃ found, Yields files formats paths found ∧
        sift files formats paths = (found.reduceOption, none)) ∨
      ∃ before path after found report, paths = before ++ path :: after ∧
        Yields files formats before found ∧ Comes files formats path (.error report) ∧
        sift files formats paths = (found.reduceOption, some report) := by
  induction paths with
  | nil => exact .inl ⟨[], .nil, rfl⟩
  | cons path rest ih =>
      have comes := @comes_fetchClassified files formats ordinary path
      rw [sift]
      cases outcome : fetchClassified files formats path with
      | error report =>
          rw [outcome] at comes
          exact .inr ⟨[], path, rest, [], report, rfl, .nil, comes, rfl⟩
      | ok image? =>
          rw [outcome] at comes
          have longer (found : List (Option Image)) :
              image?.toList ++ found.reduceOption = (image? :: found).reduceOption := by
            cases image? <;> rfl
          rcases ih with ⟨found, yields, all⟩ |
            ⟨before, stop, after, found, report, split, yields, stops, some⟩
          · refine .inl ⟨image? :: found, .cons comes yields, ?_⟩
            simp only [all, longer]
          · refine .inr ⟨path :: before, stop, after, image? :: found, report, ?_,
              .cons comes yields, stops, ?_⟩
            · rw [split, List.cons_append]
            · simp only [some, longer]

/-- The images were taken in one after another, each listed last. -/
structure Shelved (registry : RegistryId) (images : List Image) (before after : Catalog) :
    Prop where
  listed : after.listed registry =
    before.listed registry ++ List.range' before.images.size images.length
  taken : ∀ place image, images[place]? = some image →
    after.image (before.images.size + place) = { image with registered := true }
  old : ∀ handle < before.images.size, after.image handle = before.image handle
  others : ∀ other, other ≠ registry → after.listed other = before.listed other

theorem shelved_foldl_shelve (registry : RegistryId) (images : List Image) (catalog : Catalog) :
    Shelved registry images catalog (images.foldl (Catalog.shelve registry) catalog) where
  listed := Catalog.listed_foldl_shelve images
  taken place image found := by
    rw [Catalog.image_foldl_shelve, if_neg (by omega), Nat.add_sub_cancel_left, found]
    rfl
  old handle before := by
    rw [Catalog.image_foldl_shelve, if_pos before]
  others other differs := Catalog.listed_foldl_shelve_of_ne images differs

/-- Loading goes through the files up to the first that stops it, and lists an image for each
file on the way that a format recognises, after the images that were listed before.  It
answers with the reason why it stopped, or with the number of these images. -/
theorem load_lists (ordinary : ∀ format ∈ formats.inOrder, format.Ordinary)
    {registry : RegistryId} {catalog : Catalog}
    (known : ∀ handle ∈ catalog.listed registry, handle < catalog.images.size)
    (paths : List String) :
    ∃ loaded found answer left, load files formats registry catalog paths = (answer, left) ∧
      Yields files formats loaded found ∧
      (loaded = paths ∧ answer = .ok found.reduceOption.length ∨
        ∃ path rest report, paths = loaded ++ path :: rest ∧
          Comes files formats path (.error report) ∧ answer = .error report) ∧
      Shelved registry found.reduceOption catalog left := by
  have whole := loadFrom_eq files formats known 0 paths
  rcases @sift_yields files formats ordinary paths with ⟨found, yields, all⟩ |
    ⟨before, path, after, found, report, split, yields, stops, some⟩
  · rw [all] at whole
    refine ⟨paths, found, _, _, whole, yields, .inl ⟨rfl, ?_⟩, shelved_foldl_shelve ..⟩
    rw [Option.elim_none, Nat.zero_add]
  · rw [some] at whole
    exact ⟨before, found, _, _, whole, yields, .inr ⟨path, after, report, split, stops, rfl⟩,
      shelved_foldl_shelve ..⟩

/-- Two scripts of one name are listed, with notes between them passed over, and a program
that cannot be probed stops the loading before the last file. -/
theorem load_lists_midway :
    let elf := Format.program "elf" .normal (some [0x7f]) .fail Status.success
    let formats := Formats.builtIn.add elf
    let script : Contents := ⟨#[35, 33, 115, 99, 114, 105, 112, 116, 10], by decide⟩
    let files : FileSystem :=
      { read := fun path =>
          if path = "a/menu" ∨ path = "b/menu" then .ok script
          else if path = "notes" then .ok default
          else if path = "kernel" then .ok ⟨#[0x7f], by decide⟩
          else .error .notFound }
    ∃ loaded found answer left,
      load files formats 0 {} ["a/menu", "notes", "b/menu", "kernel", "gone"] = (answer, left) ∧
        Yields files formats loaded found ∧ Shelved 0 found.reduceOption {} left ∧
        answer = .error ["Failed to probe image: kernel",
          "read of 1 bytes at offset 0 exceeds buffer length 1"] ∧
        left.listed 0 = [0, 1] ∧ (left.image 0).name = "menu" ∧ (left.image 1).name = "menu" := by
  intro elf formats script files
  have inOrder : formats.inOrder = [Script.format, elf] := rfl
  have ordinary : ∀ format ∈ formats.inOrder, format.Ordinary := by
    rw [inOrder]
    intro format member
    rcases List.mem_pair.mp member with rfl | rfl
    · exact Script.ordinary_format
    · exact Format.ordinary_program "elf" .normal (some [0x7f]) .fail Status.success
  obtain ⟨loaded, found, answer, left, loads, yields, -, shelved⟩ :=
    @load_lists files formats ordinary 0 {} nofun
      ["a/menu", "notes", "b/menu", "kernel", "gone"]
  refine ⟨loaded, found, answer, left, loads, yields, shelved, ?_⟩
  obtain ⟨rfl, rfl⟩ := Prod.mk.inj loads
  decide +kernel

end Loader

end BootScript
