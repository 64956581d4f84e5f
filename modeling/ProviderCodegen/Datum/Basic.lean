/-! # Data

A datum is what a JSON or a YAML text holds, before anyone asks what it means. JSON texts give data
whose scalars have a type. A scalar of a YAML text may be `plain`: a reader that wants a text takes
its characters, and one that wants a number takes what they spell.
-/

namespace ProviderCodegen

/-- How a text is written, which decides what else it may be read as. -/
inductive TextForm
  /-- Without quotes, so that it may also spell a number, a truth value or nothing. -/
  | plain
  /-- As a literal block. -/
  | literal
  /-- In quotes, or in any other form that is only ever a text. -/
  | quoted
deriving Repr, DecidableEq

/-- How a list is written. -/
inductive ListForm
  /-- A list that may also give the fields of a record in their order. -/
  | array
  /-- A list and nothing else. -/
  | sequence
deriving Repr, DecidableEq

/-- A JSON or YAML value. -/
inductive Datum
  | null
  | bool (value : Bool)
  | int (value : Int)
  | float (value : Float)
  | text (form : TextForm) (value : String)
  | list (form : ListForm) (items : List Datum)
  | map (entries : List (Datum × Datum))
  /-- A scalar or a list or a map with an explicit tag. -/
  | tagged (tag : String) (content : Datum)
  /-- Well formed, but without a meaning: half of a surrogate pair, a number out of range, a nesting
  too deep. It may be passed over but not read. -/
  | unreadable
deriving Inhabited

namespace Datum

abbrev string (value : String) : Datum := .text .quoted value

/-- A list that may stand for a record. -/
abbrev array (items : List Datum) : Datum := .list .array items

def object (entries : List (String × Datum)) : Datum :=
  .map (entries.map fun (key, value) => (.string key, value))

mutual

/-- The nesting depth: one for a scalar, one more than its deepest part for a list or a map. -/
def depth : Datum → Nat
  | list _ items => itemsDepth items + 1
  | map entries => entriesDepth entries + 1
  | tagged _ content => content.depth
  | _ => 1

/-- The greatest depth of a list of data. -/
def itemsDepth : List Datum → Nat
  | [] => 0
  | item :: rest => max item.depth (itemsDepth rest)

/-- The greatest depth of keys and values. -/
def entriesDepth : List (Datum × Datum) → Nat
  | [] => 0
  | (key, value) :: rest => max (max key.depth value.depth) (entriesDepth rest)

end

end Datum

end ProviderCodegen
