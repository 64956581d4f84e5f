/-! # Maps keyed by name

A map from names to values as the list of its entries. `insert` keeps the entries in ascending order
of their names, each name once, so whatever is written from a map does not depend on the order in
which it was filled.
-/

namespace ProviderCodegen

/-- Entries in order of their names. -/
abbrev NameMap (α : Type) := List (String × α)

namespace NameMap

variable {α : Type}

def names (entries : NameMap α) : List String :=
  List.map Prod.fst entries

def contains (entries : NameMap α) (name : String) : Bool :=
  List.any entries (·.1 == name)

def find? (entries : NameMap α) (name : String) : Option α :=
  List.lookup name entries

/-- Bind a name to a value, in place of the value that it had. -/
def insert (name : String) (value : α) : NameMap α → NameMap α
  | [] => [(name, value)]
  | (other, kept) :: rest =>
      if name < other then (name, value) :: (other, kept) :: rest
      else if name = other then (name, value) :: rest
      else (other, kept) :: insert name value rest

/-- The map of a list of entries; the last entry of a name counts. -/
def ofList (entries : List (String × α)) : NameMap α :=
  entries.foldl (fun map (name, value) => map.insert name value) []

/-- Entries in order of their names, those of one name in the order given. -/
def sorted (entries : List (String × α)) : List (String × α) :=
  entries.mergeSort fun a b => a.1 ≤ b.1

end NameMap

end ProviderCodegen
