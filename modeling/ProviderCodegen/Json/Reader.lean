import ProviderCodegen.Json.Token

/-! # Reading JSON

The reader runs over the tokens with a stack of the arrays and objects that are still open. What is
nested too deep, and an object with a key that is no text, is read to its end but becomes
`unreadable`, because only a reader of its value may complain.
-/

namespace ProviderCodegen.Json

/-- A list or map that is still open; items and entries are kept reversed. -/
inductive Frame
  | array (items : List Datum)
  /-- `readable` says that every key so far is a text. -/
  | object (readable : Bool) (entries : List (Datum × Datum))
  /-- An object whose last key waits for its value. -/
  | entry (readable : Bool) (entries : List (Datum × Datum)) (key : Datum)
deriving Inhabited

/-- What may follow. -/
inductive Expected
  | value
  /-- The first item of an array, or its end. -/
  | itemOrEnd
  /-- The first key of an object, or its end. -/
  | keyOrEnd
  | key
  | colon
  /-- A comma, or the end of the innermost array or object. -/
  | separator
  /-- Nothing: the text is complete. -/
  | done (result : Datum)
deriving Inhabited

/-- The reader between two tokens. -/
structure Reader where
  stack : List Frame := []
  expected : Expected := .value

/-- As many arrays and objects may be open around one that can be read. -/
def depthLimit : Nat := 126

namespace Reader

/-- Put a finished value where it belongs. -/
def complete (stack : List Frame) (value : Datum) : Option Reader :=
  match stack with
  | [] => some ⟨[], .done value⟩
  | .array items :: rest => some ⟨.array (value :: items) :: rest, .separator⟩
  | .entry readable entries key :: rest =>
      some ⟨.object readable ((key, value) :: entries) :: rest, .separator⟩
  | .object .. :: _ => none

/-- Close the innermost list or map; `value` is what it holds. -/
def close (stack : List Frame) (value : Datum) : Option Reader :=
  complete stack (if (stack.drop depthLimit).isEmpty then value else .unreadable)

def openValue (stack : List Frame) : Token → Option Reader
  | .openArray => some ⟨.array [] :: stack, .itemOrEnd⟩
  | .openObject => some ⟨.object true [] :: stack, .keyOrEnd⟩
  | .scalar value => complete stack value
  | .string text => complete stack (text.elim .unreadable .string)
  | _ => none

def openEntry (stack : List Frame) (token : Token) : Option Reader :=
  match stack, token with
  | .object readable entries :: rest, .string text =>
      some ⟨.entry (readable && text.isSome) entries (.string (text.getD "")) :: rest, .colon⟩
  | _, _ => none

/-- End the innermost list or map. -/
def closeInnermost (stack : List Frame) (token : Token) : Option Reader :=
  match stack, token with
  | .array items :: rest, .closeArray => close rest (.array items.reverse)
  | .object readable entries :: rest, .closeObject =>
      close rest (if readable then .map entries.reverse else .unreadable)
  | _, _ => none

def continueInnermost : List Frame → Option Reader
  | .array items :: rest => some ⟨.array items :: rest, .value⟩
  | .object readable entries :: rest => some ⟨.object readable entries :: rest, .key⟩
  | _ => none

def step (reader : Reader) (token : Token) : Option Reader :=
  match reader.expected, token with
  | .value, token => openValue reader.stack token
  | .itemOrEnd, .closeArray => closeInnermost reader.stack .closeArray
  | .itemOrEnd, token => openValue reader.stack token
  | .keyOrEnd, .closeObject => closeInnermost reader.stack .closeObject
  | .keyOrEnd, token => openEntry reader.stack token
  | .key, token => openEntry reader.stack token
  | .colon, .colon => some { reader with expected := .value }
  | .separator, .comma => continueInnermost reader.stack
  | .separator, token => closeInnermost reader.stack token
  | _, _ => none

/-- The value, once the text is complete. -/
def result? (reader : Reader) : Option Datum :=
  match reader.expected with
  | .done value => some value
  | _ => none

end Reader

/-- The datum that a JSON text holds, `none` for what is no JSON text. -/
def read? (text : String) : Option Datum :=
  ((tokens? text.toList).bind (·.foldlM Reader.step {})).bind Reader.result?

end ProviderCodegen.Json
