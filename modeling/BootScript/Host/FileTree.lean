import BootScript.Host.FileSystem
import BootScript.Host.Path

/-!
# File trees

A file tree is a file system in which paths are followed component by component
from the root or from the working directory.  Every component before the last has
to lead to a directory, and what is read has to be a file.
-/

namespace BootScript

/-- A place in a tree: the names on the way to it from the root. -/
abbrev Location := List String

/-- A tree is given by its files, its directories and the place to start from.  What
leads to any of them is a directory too, so directories reach back to the root. -/
structure FileTree where
  workingDirectory : Location := []
  directories : List Location := []
  files : List (Location × Contents) := []

namespace FileTree

def isDirectory (tree : FileTree) (location : Location) : Bool :=
  location.isPrefixOf tree.workingDirectory ||
    tree.directories.any location.isPrefixOf ||
    tree.files.any fun (file, _) => location.isPrefixOf file && location != file

inductive Place
  | directory
  | file (contents : Contents)
  | absent

def place (tree : FileTree) (location : Location) : Place :=
  if tree.isDirectory location then .directory
  else
    match tree.files.lookup location with
    | some contents => .file contents
    | none => .absent

/-- The longest name, in bytes, that a directory can hold. -/
def nameLimit : Nat := 255

/-- Bytes that the longest path stays below. -/
def pathLimit : Nat := 4096

/-- Where one component leads from a location, without looking at a tree. -/
def advance (location : Location) (component : String) : Location :=
  if component = "" ∨ component = "." then location
  else if component = ".." then location.dropLast
  else location ++ [component]

/-- Follow one component from a place that has been reached. -/
def follow (tree : FileTree) (location : Location) (component : String) :
    Except ReadError Location :=
  match tree.place location with
  | .absent => .error .notFound
  | .file _ => .error .notDirectory
  | .directory =>
      if nameLimit < component.utf8ByteSize then .error .nameTooLong
      else
        match tree.place (advance location component) with
        | .absent => .error .notFound
        | _ => .ok (advance location component)

def followAll (tree : FileTree) (location : Location) : List String → Except ReadError Location
  | [] => .ok location
  | component :: rest =>
      match tree.follow location component with
      | .ok next => tree.followAll next rest
      | .error failure => .error failure

/-- The location at which the components of a path begin. -/
def start (tree : FileTree) (path : String) : Location :=
  if Path.isRelative path then tree.workingDirectory else []

def names (path : String) : List String :=
  (Path.components path.toList).map String.ofList

def read (tree : FileTree) (path : String) : Except ReadError Contents :=
  if Char.ofNat 0 ∈ path.toList then .error .zeroInPath
  else if path = "" then .error .notFound
  else if pathLimit ≤ path.utf8ByteSize then .error .nameTooLong
  else
    match tree.followAll (tree.start path) (names path) with
    | .error failure => .error failure
    | .ok location =>
        match tree.place location with
        | .file contents => .ok contents
        | .directory => .error .isDirectory
        | .absent => .error .notFound

def toFileSystem (tree : FileTree) : FileSystem where
  read := tree.read

/-! ## Building trees -/

/-- The locations on the way along some components, with the first and the last. -/
def route (location : Location) : List String → List Location
  | [] => [location]
  | component :: rest => location :: route (advance location component) rest

/-- Make a directory and all that its path passes through. -/
def addDirectory (tree : FileTree) (path : String) : FileTree :=
  { tree with directories := route (tree.start path) (names path) ++ tree.directories }

/-- Write a file, in directories that come into being as its path passes through them. -/
def addFile (tree : FileTree) (path : String) (contents : Contents) : FileTree :=
  { tree with
    directories := (route (tree.start path) (names path)).dropLast ++ tree.directories
    files := ((names path).foldl advance (tree.start path), contents) :: tree.files }

end FileTree

end BootScript
