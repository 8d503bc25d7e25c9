/-!
# Reports
-/

namespace BootScript

/-- Texts from the outermost description of a failure to its innermost cause. -/
abbrev Report := List String

end BootScript
