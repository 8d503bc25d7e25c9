/-!
# Causes of failure in the image layer
-/

namespace BootScript

inductive ImageError
  /-- The buffer does not hold an image of the named format. -/
  | formatMismatch (format : String)
  | unknownFormat (image : String)
  | alreadyClassified (image format : String)
  | notExecutable (image : String)
  /-- A read does not lie within the buffer, or within its readable part. -/
  | outOfBounds (offset length size : UInt64)
  | alreadyRegistered (image : String)
  | notRegistered (image : String)
  deriving DecidableEq, Repr

namespace ImageError

def message : ImageError → String
  | formatMismatch format => "not a recognised " ++ format ++ " image"
  | unknownFormat image => "unknown image format: " ++ image
  | alreadyClassified image format =>
      "image '" ++ image ++ "' is already classified as " ++ format
  | notExecutable image => "image '" ++ image ++ "' is not executable"
  | outOfBounds offset length size =>
      "read of " ++ toString length.toNat ++ " bytes at offset " ++ toString offset.toNat ++
        " exceeds buffer length " ++ toString size.toNat
  | alreadyRegistered image => "image '" ++ image ++ "' is already registered"
  | notRegistered image => "image '" ++ image ++ "' is not registered"

end ImageError

end BootScript
