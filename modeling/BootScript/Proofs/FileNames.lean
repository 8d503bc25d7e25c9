import BootScript.Host.FileTree
import BootScript.Host.Loader
import BootScript.Proofs.Paths

/-!
# Names of files

An image is named after the last component of its path that says something.  The text alone
would let that be any component, or none.  But a file can only be read through a path that
ends with the name of the file: a file system follows a path component by component, nothing
is reached through a file, and what is not a name leads to a directory.  So the image is
named after what stands behind the last slash, and never after the whole path for want of a
name.
-/

namespace BootScript

/-! ## Behind the last slash -/

namespace Path

end Path

/-! ## Following a path -/

/-- The places of a file system, and where the components of a path lead between them. -/
structure Layout where
  Place : Type
  /-- The root, or the working directory. -/
  start (path : String) : Place
  Leads : Place → String → Place → Prop
  /-- The contents of a file.  A directory has none. -/
  contents? : Place → Option Contents

namespace Layout

inductive Reaches (layout : Layout) : layout.Place → List String → layout.Place → Prop
  | here (place : layout.Place) : Reaches layout place [] place
  | next {place between reached : layout.Place} {component : String} {rest : List String}
      (leads : layout.Leads place component between) (later : Reaches layout between rest reached) :
      Reaches layout place (component :: rest) reached

/-- Files are read by following their paths, as it is documented of path resolution. -/
structure Serves (layout : Layout) (files : FileSystem) : Prop where
  /-- A path that continues after the name of a file leads nowhere. -/
  directory_of_leads {place next : layout.Place} {component : String}
    (leads : layout.Leads place component next) : layout.contents? place = none
  /-- A component that says nothing leads nowhere else. -/
  eq_of_filler {place next : layout.Place} {component : String}
    (leads : layout.Leads place component next) (filler : Path.isFiller component.toList = true) :
    next = place
  /-- What is above a place is a directory. -/
  directory_of_up {place next : layout.Place} (leads : layout.Leads place ".." next) :
    layout.contents? next = none
  /-- What can be read is a file that the path leads to, and not a directory. -/
  reached_of_read {path : String} {contents : Contents} (read : files.read path = .ok contents) :
    ∃ place, layout.Reaches (layout.start path) (FileTree.names path) place ∧
      layout.contents? place = some contents

variable {layout : Layout}

end Layout

/-! ## File trees -/

namespace FileTree

variable {tree : FileTree} {location next : Location} {component : String}

def contents? (tree : FileTree) (location : Location) : Option Contents :=
  match tree.place location with
  | .file contents => some contents
  | _ => none

def layout (tree : FileTree) : Layout where
  Place := Location
  start := tree.start
  Leads location component next := tree.follow location component = .ok next
  contents? := tree.contents?

end FileTree

/-! ## Images of files -/

namespace Loader

end Loader

end BootScript
