import ProviderCodegen.Datum.Plain

/-! # Reading values out of data

A reader takes a datum to a value, or to `none` when the datum does not have the expected form.
`record?` reads the fields of a record, by name or, for arrays, by position; `sharedRecord?` reads a
record that contains the fields of another one among its own. Whatever such a record holds apart
from its own fields must have a type, so it is read by `typed` first.
-/

namespace ProviderCodegen.Datum

/-- The tags of the scalar types. -/
def nullTag : String := "tag:yaml.org,2002:null"
def boolTag : String := "tag:yaml.org,2002:bool"
def intTag : String := "tag:yaml.org,2002:int"
def floatTag : String := "tag:yaml.org,2002:float"

/-- Tags that name a type of the writer's own. -/
def isLocalTag (tag : String) : Bool :=
  tag.toList.head? = some '!'

def ofTagged? (tag : String) (text : String) : Option Datum :=
  if isLocalTag tag then none
  else if tag = boolTag then (spelledBool? text).map .bool
  else if tag = intTag then ((spelledInt? text).filter (fits 64)).map .int
  else if tag = floatTag then (spelledFloat? text).map .float
  else if tag = nullTag then if spellsNull text then some .null else none
  else some (.string text)

/-- A datum itself, unless it cannot be read. -/
def readable? : Datum → Option Datum
  | unreadable => none
  | datum => some datum

mutual

/-- The same datum with every scalar of a definite type, if it can be read at all. -/
def typed : Datum → Option Datum
  | text .plain value => readable? (ofPlain value)
  | text _ value => some (.string value)
  | list _ items => (typedItems items).map .array
  | map entries => (typedEntries entries).map .map
  | tagged tag (text _ value) => ofTagged? tag value
  | tagged tag content => if isLocalTag tag then none else content.typed
  | other => readable? other

def typedItems : List Datum → Option (List Datum)
  | [] => some []
  | item :: rest => do return (← item.typed) :: (← typedItems rest)

/-- The entries of a map, each key and each value typed. -/
def typedEntries : List (Datum × Datum) → Option (List (Datum × Datum))
  | [] => some []
  | (key, value) :: rest => do return (← key.typed, ← value.typed) :: (← typedEntries rest)

end

/-- A text. Every scalar that is not typed is one. -/
def text? : Datum → Option String
  | text _ value => some value
  | tagged _ (text _ value) => some value
  | _ => none

/-- The characters of a scalar that may spell a value of the tagged type: those of a plain scalar,
and those of a literal block with that very tag. -/
def spelling? (tag : String) : Datum → Option String
  | text .plain value => some value
  | tagged _ (text .plain value) => some value
  | tagged given (text .literal value) => if given = tag then some value else none
  | _ => none

def bool? : Datum → Option Bool
  | bool value => some value
  | datum => (datum.spelling? boolTag).bind spelledBool?

/-- A signed 64-bit number. -/
def int64? (datum : Datum) : Option Int64 :=
  let value := match datum with
    | int value => some value
    | datum => (datum.spelling? intTag).bind spelledInt?
  (value.filter (fitsSigned 64)).map Int64.ofInt

/-- A binary64 number; whole numbers are rounded to one. -/
def float? : Datum → Option Float
  | float value => some value
  | int value => some (Float.ofInt value)
  | datum => (datum.spelling? floatTag).bind spelledFloat?

def optional? {α : Type} (read : Datum → Option α) : Datum → Option (Option α)
  | null => some none
  | text .plain value =>
      if value.isEmpty || spellsNull value then some none
      else (read (text .plain value)).map some
  | tagged tag (text .plain value) =>
      if tag = nullTag then if spellsNull value then some none else none
      else (read (tagged tag (text .plain value))).map some
  | datum => (read datum).map some

/-- The items of a list; a plain scalar without characters is an empty list. -/
def items? : Datum → Option (List Datum)
  | list _ items => some items
  | text .plain "" => some []
  | tagged _ (list _ items) => some items
  | tagged _ (text .plain "") => some []
  | _ => none

def list? {α : Type} (read : Datum → Option α) (datum : Datum) : Option (List α) :=
  datum.items?.bind (·.mapM read)

/-- Fields of a record with their data. -/
abbrev Fields := List (String × Datum)

def Fields.find? (fields : Fields) (name : String) : Option Datum :=
  fields.lookup name

def Fields.required? {α : Type} (fields : Fields) (name : String) (read : Datum → Option α) :
    Option α :=
  (fields.find? name).bind read

/-- A field that may be left out; `absent` is its value then. -/
def Fields.getD? {α : Type} (fields : Fields) (name : String) (read : Datum → Option α)
    (absent : α) : Option α :=
  match fields.find? name with
  | some datum => read datum
  | none => some absent

/-- A field that may be left out or hold nothing. -/
def Fields.optional? {α : Type} (fields : Fields) (name : String) (read : Datum → Option α) :
    Option (Option α) :=
  fields.getD? name (Datum.optional? read) none

/-- A field that holds a list, empty when it is left out. -/
def Fields.list? {α : Type} (fields : Fields) (name : String) (read : Datum → Option α) :
    Option (List α) :=
  fields.getD? name (Datum.list? read) []

/-- Add a field, which may be given only once. -/
def Fields.add? (fields : Fields) (name : String) (datum : Datum) : Option Fields :=
  if fields.any (·.1 == name) then none else some (fields ++ [(name, datum)])

/-- What a key names: a text names itself, a natural the field at that position. Other keys are
errors. -/
def keyName? (positions : List String) : Datum → Option (Option String)
  | int n => if n < 0 then none else some positions[n.toNat]?
  | key => key.text?.map some

/-- The fields among the entries of a map; entries with other names are passed over. -/
def fieldsOf? (names : List String) (entries : List (Datum × Datum)) : Option Fields :=
  entries.foldlM (fun fields (key, value) => do
    match ← keyName? names key with
    | some name => if names.contains name then fields.add? name value else some fields
    | none => some fields) []

/-- The fields of a record with the given names. -/
def record? (names : List String) : Datum → Option Fields
  | map entries => fieldsOf? names entries
  | list .array items => if items.length ≤ names.length then some (names.zip items) else none
  | text .plain "" => some []
  | tagged _ content => content.record? names
  | _ => none

/-- Sort an entry of a map into a record's own fields and the fields that it shares. -/
def addShared? (own shared : List String) (fields : Fields × Fields) (entry : Datum × Datum) :
    Option (Fields × Fields) := do
  let name ← keyName? [] entry.1
  match name.filter own.contains with
  | some name => return (← fields.1.add? name entry.2, fields.2)
  | none =>
      let value ← entry.2.typed
      match name.filter shared.contains with
      | some name => return (fields.1, ← fields.2.add? name value)
      | none => return fields

/-- The fields of a record that has the fields of another one beside its own. It is always a map. -/
def sharedRecord? (own shared : List String) : Datum → Option (Fields × Fields)
  | map entries => entries.foldlM (addShared? own shared) ([], [])
  | text .plain "" => some ([], [])
  | tagged _ content => content.sharedRecord? own shared
  | _ => none

end ProviderCodegen.Datum
