/-! # Paths

A path is a text whose parts are separated by slashes. It is absolute when it starts with a slash.
Empty parts and dots add nothing, except for a dot in front.
-/

namespace ProviderCodegen.Path

def isAbsolute (path : String) : Bool :=
  path.toList.head? = some '/'

def endsWithSlash (path : String) : Bool :=
  path.toList.getLast? = some '/'

/-- The texts between the slashes of a path. -/
def parts (path : String) : List String :=
  (path.toList.splitOn '/').map String.ofList

/-- Parts without the empty ones and dots at their end; the first part stays. -/
def withoutTrailing (parts : List String) : List String :=
  match parts with
  | [] => []
  | first :: rest =>
      first :: (rest.reverse.dropWhile fun part => part == "" || part == ".").reverse

/-- A path below a directory; an absolute path stays what it is. -/
def join (directory path : String) : String :=
  if isAbsolute path then path
  else if directory.isEmpty || endsWithSlash directory then directory ++ path
  else directory ++ "/" ++ path

/-- The directory that a path is in. The root and the empty path are in none. -/
def parent? (path : String) : Option String :=
  match withoutTrailing (parts path) with
  | [] => none
  | [only] => if only.isEmpty then none else some ""
  | several =>
      match withoutTrailing several.dropLast with
      | [""] => some "/"
      | directory => some ("/".intercalate directory)

/-- A path and the directories that it is in, the innermost first, as many as `bound` says. -/
def lineage : Nat → String → List String
  | 0, path => [path]
  | bound + 1, path => path :: (parent? path).elim [] (lineage bound)

/-- A path and all directories that it is in, the innermost first. -/
def ancestors (path : String) : List String :=
  lineage path.length path

def fileName (path : String) : String :=
  (withoutTrailing (parts path)).getLastD ""

/-- What follows the last dot in the name of a file, unless that dot comes first. -/
def extension? (path : String) : Option String :=
  let name := (fileName path).toList
  let ending := name.reverse.takeWhile (· ≠ '.')
  if name.length ≤ ending.length + 1 then none
  else if name = ['.', '.'] then none
  else some (String.ofList ending.reverse)

end ProviderCodegen.Path
