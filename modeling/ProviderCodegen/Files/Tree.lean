import ProviderCodegen.Files.Store

/-! # File trees

A file system in memory: files and directories under the names that lead to them from the root, and
the current directory. Going through a path takes its parts one by one, so that a directory must
exist even when the path leaves it again.
-/

namespace ProviderCodegen

/-- The names that lead from the root to a file or directory. -/
abbrev Location := List String

/-- What is at a location. -/
inductive FileEntry
  | file (text : String)
  | directory
deriving Repr, DecidableEq

/-- Files and directories below the root, each location once, and the current directory. -/
structure FileTree where
  entries : List (Location × FileEntry) := []
  current : Location := []
deriving Repr, DecidableEq

namespace FileTree

/-- The greatest number of bytes in a name. -/
def nameLimit : Nat := 255

/-- The greatest number of bytes in a path. -/
def pathLimit : Nat := 4095

/-- What is at a location; the root is a directory. -/
def find? (tree : FileTree) (location : Location) : Option FileEntry :=
  if location.isEmpty then some .directory else tree.entries.lookup location

def put (tree : FileTree) (location : Location) (entry : FileEntry) : FileTree :=
  { tree with entries := (location, entry) :: tree.entries.filter (·.1 ≠ location) }

/-- Where a part of a path leads from a directory. -/
def step (directory : Location) (name : String) : Except FileError Location :=
  if name == "." then .ok directory
  else if name == ".." then .ok directory.dropLast
  else if nameLimit < name.utf8ByteSize then .error .nameTooLong
  else .ok (directory ++ [name])

def enter (tree : FileTree) (directory : Location) (name : String) :
    Except FileError Location := do
  let location ← step directory name
  match tree.find? location with
  | none => .error .notFound
  | some (.file _) => .error .notADirectory
  | some .directory => .ok location

/-- The location that a path leads to. All but its last part must exist. -/
def locate (tree : FileTree) (path : String) : Except FileError Location := do
  if path.isEmpty then .error .notFound
  else if path.toList.contains '\x00' then .error .zeroCharacter
  else if pathLimit < path.utf8ByteSize then .error .nameTooLong
  else
    let start := if Path.isAbsolute path then [] else tree.current
    let names := (Path.parts path).filter (!·.isEmpty)
    let directory ← names.dropLast.foldlM tree.enter start
    match names.getLast? with
    | none => .ok start
    | some name => step directory name

/-- What a path leads to, if it leads anywhere. A path with a slash at its end leads to directories
only. -/
def entryAt (tree : FileTree) (path : String) : Except FileError FileEntry := do
  match tree.find? (← tree.locate path) with
  | none => .error .notFound
  | some .directory => .ok .directory
  | some (.file text) => if Path.endsWithSlash path then .error .notADirectory else .ok (.file text)

def read (tree : FileTree) (path : String) : Except FileError String := do
  match ← tree.entryAt path with
  | .file text => .ok text
  | .directory => .error .isADirectory

def makeDirectory (tree : FileTree) (path : String) : Except FileError FileTree := do
  let location ← tree.locate path
  match tree.find? location with
  | none => .ok (tree.put location .directory)
  | some _ => .error .alreadyExists

def write (tree : FileTree) (path text : String) : Except FileError FileTree := do
  let location ← tree.locate path
  if Path.endsWithSlash path || tree.find? location = some .directory then .error .isADirectory
  else .ok (tree.put location (.file text))

/-- Make a change, if it is not refused. -/
def change (f : FileTree → Except FileError FileTree) : StateM FileTree (Except FileError Unit) :=
  fun tree =>
    match f tree with
    | .ok changed => (.ok (), changed)
    | .error e => (.error e, tree)

instance : FileStore (StateM FileTree) where
  exists? path := return (← get).entryAt path matches .ok _
  isDirectory path := return (← get).entryAt path matches .ok .directory
  read path := return (← get).read path
  makeDirectory path := change (·.makeDirectory path)
  write path text := change (·.write path text)

/-- The locations from the root to a location, the root and the location left out. -/
def above (location : Location) : List Location :=
  (List.range location.length).tail.map location.take

/-- A tree that holds files below its current directory, given by their paths from there. -/
def ofFiles (current : Location) (files : List (String × String)) : FileTree :=
  let placed := files.map fun (path, text) => (current ++ Path.parts path, text)
  let directories := above (current ++ [""]) ++ placed.flatMap fun (location, _) => above location
  let tree : FileTree := directories.foldl (·.put · .directory) { current }
  placed.foldl (fun tree (location, text) => tree.put location (.file text)) tree

/-- The files below the current directory, by their paths from there. -/
def files (tree : FileTree) : List (String × String) :=
  tree.entries.filterMap fun (location, entry) =>
    match entry with
    | .directory => none
    | .file text =>
        if tree.current.isPrefixOf location then
          some ("/".intercalate (location.drop tree.current.length), text)
        else none

end FileTree

end ProviderCodegen
