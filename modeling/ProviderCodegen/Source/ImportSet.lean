import ProviderCodegen.Source.Import

/-! # Sets of imports

Imports in the order they were added, one for each path. An import whose path is present already
changes nothing, so the first name given to a package stays; the empty path is never added.
-/

namespace ProviderCodegen.Source

/-- An ordered set of imports, keyed by path. -/
structure ImportSet where
  entries : List Import
deriving Repr, DecidableEq

namespace ImportSet

def empty : ImportSet := ⟨[]⟩

def paths (s : ImportSet) : List String :=
  s.entries.map (·.path)

def contains (s : ImportSet) (path : String) : Bool :=
  s.entries.any (·.path == path)

def size (s : ImportSet) : Nat :=
  s.entries.length

def isEmpty (s : ImportSet) : Bool :=
  s.entries.isEmpty

/-- Add an import, unless its path is empty or present. -/
def insert (s : ImportSet) (i : Import) : ImportSet :=
  if i.path.isEmpty || s.contains i.path then s else ⟨s.entries ++ [i]⟩

/-- Add a package under its own name. -/
def insertPath (s : ImportSet) (path : String) : ImportSet :=
  s.insert { path }

def ofList (imports : List Import) : ImportSet :=
  imports.foldl insert empty

/-- Packages under their own names. -/
def ofPaths (paths : List String) : ImportSet :=
  ofList (paths.map fun path => { path })

/-- The imports of the first set, then those that the second adds. -/
def union (s t : ImportSet) : ImportSet :=
  t.entries.foldl insert s

instance : Union ImportSet := ⟨union⟩

/-- The imports that a text uses. -/
def referencedIn (s : ImportSet) (body : String) : ImportSet :=
  ofList (s.entries.filter (·.isReferenced body))

/-- The imports by path, the order of an import block. -/
def sorted (s : ImportSet) : List Import :=
  s.entries.mergeSort fun i j => i.path ≤ j.path

def lines (s : ImportSet) : List String :=
  s.sorted.map Import.line

end ImportSet

end ProviderCodegen.Source
