import ProviderCodegen.Datum.Basic
import ProviderCodegen.Decimal.Layout
import ProviderCodegen.Text.Digits

/-! # Writing JSON

`compact` writes a datum without blanks, `pretty` with one entry or item a line, indented by two
spaces. Strings escape the quote, the backslash and the characters below the space, and nothing
else.
-/

namespace ProviderCodegen.Json

/-- One character inside a JSON string. -/
def escape (c : Char) : List Char :=
  if c = '"' then ['\\', '"']
  else if c = '\\' then ['\\', '\\']
  else if c = '\x08' then ['\\', 'b']
  else if c = '\x0c' then ['\\', 'f']
  else if c = '\n' then ['\\', 'n']
  else if c = '\r' then ['\\', 'r']
  else if c = '\t' then ['\\', 't']
  else if c.toNat < 0x20 then '\\' :: 'u' :: Text.hexadecimal 4 c.toNat
  else [c]

def stringLiteral (text : String) : String :=
  String.ofList ('"' :: text.toList.flatMap escape ++ ['"'])

/-- A scalar; what has no JSON form of its own is `null`. -/
def scalar : Datum → String
  | .bool true => "true"
  | .bool false => "false"
  | .int n => Text.decimal n
  | .float x => Decimal.Layout.json.write x
  | .text _ text => stringLiteral text
  | _ => "null"

mutual

def compact : Datum → String
  | .list _ items => "[" ++ ",".intercalate (compactItems items) ++ "]"
  | .map entries => "\x7b" ++ ",".intercalate (compactEntries entries) ++ "\x7d"
  | .tagged _ content => compact content
  | other => scalar other

def compactItems : List Datum → List String
  | [] => []
  | item :: rest => compact item :: compactItems rest

def compactEntries : List (Datum × Datum) → List String
  | [] => []
  | (key, value) :: rest => (compact key ++ ":" ++ compact value) :: compactEntries rest

end

/-- Parts between brackets, one a line at the given indentation; no parts stay on one line. -/
def bracketed (indentation : String) (opening closing : String) (parts : List String) : String :=
  if parts.isEmpty then opening ++ closing
  else
    let lines := parts.map fun part => "\n" ++ indentation ++ "  " ++ part
    opening ++ ",".intercalate lines ++ "\n" ++ indentation ++ closing

mutual

/-- A datum over several lines; `indentation` is that of the line it starts on. -/
def prettyFrom (indentation : String) : Datum → String
  | .list _ items => bracketed indentation "[" "]" (prettyItems (indentation ++ "  ") items)
  | .map entries =>
      bracketed indentation "\x7b" "\x7d" (prettyEntries (indentation ++ "  ") entries)
  | .tagged _ content => prettyFrom indentation content
  | other => scalar other

def prettyItems (indentation : String) : List Datum → List String
  | [] => []
  | item :: rest => prettyFrom indentation item :: prettyItems indentation rest

def prettyEntries (indentation : String) : List (Datum × Datum) → List String
  | [] => []
  | (key, value) :: rest =>
      (scalar key ++ ": " ++ prettyFrom indentation value) :: prettyEntries indentation rest

end

/-- A datum over several lines. -/
def pretty (datum : Datum) : String :=
  prettyFrom "" datum

end ProviderCodegen.Json
