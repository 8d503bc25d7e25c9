import BootScript.Host.FileSystem
import BootScript.Host.Path
import BootScript.Host.Report
import BootScript.Host.Settings.Reader
import BootScript.Text.Utf8

/-!
# Settings files

A settings file is a text, and the relative images that it lists lie beside it.  The text is
given to a reader, which says why if it finds no settings in it.
-/

namespace BootScript.Settings

/-- The settings of a file by a reader of texts. -/
def loadBy (reader : String → Except Report Settings) (files : FileSystem) (path : String) :
    Except Report Settings :=
  let unreadable (reason : String) : Except Report Settings :=
    .error ["Failed to read config file: " ++ path, reason]
  match files.read path with
  | .error failure => unreadable failure.message
  | .ok contents =>
      match Text.decode? contents.bytes.toList with
      | none => unreadable "stream did not contain valid UTF-8"
      | some text =>
          match reader text with
          | .error reasons => .error (("Invalid config file: " ++ path) :: reasons)
          | .ok settings =>
              .ok { settings with images := settings.images.map (Path.besideFile path) }

/-- The reader that only tells that a text is invalid, not why. -/
def read (text : String) : Except Report Settings :=
  match parse? text with
  | none => .error []
  | some settings => .ok settings

def load (files : FileSystem) (path : String) : Except Report Settings :=
  loadBy read files path

end BootScript.Settings
