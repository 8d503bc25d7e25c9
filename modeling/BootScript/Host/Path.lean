/-!
# Paths

Paths are texts and are worked on as such: no file is looked at.  Components stand
between slashes; empty components and single dots are fillers that say nothing,
except that a leading dot counts as a component.
-/

namespace BootScript.Path

def separator : Char := '/'

def isRelative (path : String) : Bool :=
  path.toList.head? != some separator

def components (path : List Char) : List (List Char) :=
  path.splitOnP (· = separator)

def ofComponents (components : List (List Char)) : List Char :=
  [separator].intercalate components

def isFiller (component : List Char) : Bool :=
  component = [] || component = ['.']

/-- The root or the leading dot that a path starts with, and what follows it. -/
def anchor : List Char → List Char × List Char
  | '/' :: rest => (['/'], rest)
  | ['.'] => (['.'], [])
  | '.' :: '/' :: rest => (['.'], '/' :: rest)
  | path => ([], path)

/-- The components of what follows the anchor, the last one first and without
fillers before it. -/
def fromLast (body : List Char) : List (List Char) :=
  (components body).reverse.dropWhile isFiller

/-- The path without its last component.  The empty path and the root have no parent. -/
def parent? (path : String) : Option String :=
  let (start, body) := anchor path.toList
  match fromLast body with
  | _ :: before =>
      some (String.ofList (start ++ ofComponents (before.dropWhile isFiller).reverse))
  | [] => if start = ['.'] then some "" else none

/-- The last component, if it names something. -/
def fileName? (path : String) : Option String :=
  match fromLast (anchor path.toList).2 with
  | last :: _ => if last = ['.', '.'] then none else some (String.ofList last)
  | [] => none

/-- A path as seen from a base.  An absolute path stays as it is. -/
def join (base path : String) : String :=
  if !isRelative path then path
  else if base.toList = [] || base.toList.getLast? = some separator then base ++ path
  else base ++ "/" ++ path

/-- A relative path as seen from the directory that holds a file. -/
def besideFile (file path : String) : String :=
  match parent? file with
  | some base => if isRelative path then join base path else path
  | none => path

end BootScript.Path
