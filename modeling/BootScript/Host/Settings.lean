/-!
# Settings

Settings say which images to load, which one to boot and whether to trace commands.
Settings can be laid over others: images add up, tracing is on if either asks for it,
and the image to boot is the upper one's if it names one.
-/

namespace BootScript

structure Settings where
  /-- Image files to load, in order. -/
  images : List String := []
  /-- The image to boot, unless it is the first executable one. -/
  boot : Option String := none
  traceCommands : Bool := false
  deriving DecidableEq, Repr

namespace Settings

def overlay (base upper : Settings) : Settings where
  images := base.images ++ upper.images
  boot := upper.boot <|> base.boot
  traceCommands := base.traceCommands || upper.traceCommands

end Settings

end BootScript
