import BootScript.Catalog
import BootScript.Host.FileSystem
import BootScript.Host.Path
import BootScript.Host.Report

/-!
# Loading images

Every file is read, classified and, if some format recognises it, registered under
its file name.  Files in an unknown format are passed over; any other failure stops
the loading and leaves the images loaded so far.
-/

namespace BootScript.Loader

/-- An unclassified image of a file, named after the file. -/
def fetch (files : FileSystem) (path : String) : Except Report Image :=
  match files.read path with
  | .error failure => .error ["Failed to read image: " ++ path, failure.message]
  | .ok contents =>
      .ok { name := (Path.fileName? path).getD path, buffer := { contents } }

/-- Read and classify one file.  There is no image if its format is unknown. -/
def fetchClassified (files : FileSystem) (formats : Formats) (path : String) :
    Except Report (Option Image) :=
  match fetch files path with
  | .error report => .error report
  | .ok image =>
      match formats.classify image with
      | .ok (_, classified) => .ok (some classified)
      | .error (.unknownFormat _) => .ok none
      | .error failure => .error ["Failed to probe image: " ++ path, failure.message]

/-- Load files in order, after `count` that are loaded already. -/
def loadFrom (files : FileSystem) (formats : Formats) (registry : RegistryId)
    (catalog : Catalog) (count : Nat) : List String → Except Report Nat × Catalog
  | [] => (.ok count, catalog)
  | path :: rest =>
      match fetchClassified files formats path with
      | .error report => (.error report, catalog)
      | .ok none => loadFrom files formats registry catalog count rest
      | .ok (some image) =>
          let (handle, added) := catalog.addImage image
          match added.register registry handle with
          | .error failure => (.error [failure.message], catalog)
          | .ok registered => loadFrom files formats registry registered (count + 1) rest

/-- Load files and count the images that came of them. -/
def load (files : FileSystem) (formats : Formats) (registry : RegistryId)
    (catalog : Catalog) (paths : List String) : Except Report Nat × Catalog :=
  loadFrom files formats registry catalog 0 paths

end BootScript.Loader
