import ProviderCodegen.Text.Digits
import ProviderCodegen.Text.Hidden

/-! # Quoted text

Two ways to write a text between double quotes. `goLiteral` writes an interpreted string literal of
Go; `spelledOut` writes a text for a reader of error messages, with every character that does not
show spelled by its number.
-/

namespace ProviderCodegen.Text

/-- The C0 and C1 control characters and delete. -/
def isControl (c : Char) : Bool :=
  c.toNat < 0x20 || (0x7f ≤ c.toNat && c.toNat ≤ 0x9f)

/-- One character inside a Go string literal. -/
def goEscape (c : Char) : List Char :=
  if c = '"' then ['\\', '"']
  else if c = '\\' then ['\\', '\\']
  else if c = '\n' then ['\\', 'n']
  else if c = '\r' then ['\\', 'r']
  else if c = '\t' then ['\\', 't']
  else if isControl c then '\\' :: 'u' :: hexadecimal 4 c.toNat
  else [c]

/-- A text as an interpreted Go string literal. -/
def goLiteral (text : String) : String :=
  String.ofList ('"' :: text.toList.flatMap goEscape ++ ['"'])

def spellOut (c : Char) : List Char :=
  if c = '"' then ['\\', '"']
  else if c = '\\' then ['\\', '\\']
  else if c = '\n' then ['\\', 'n']
  else if c = '\r' then ['\\', 'r']
  else if c = '\t' then ['\\', 't']
  else if c.toNat = 0 then ['\\', '0']
  else if isHidden c then '\\' :: 'u' :: '\x7b' :: hexadecimal 0 c.toNat ++ ['\x7d']
  else [c]

/-- A text with all that does not show spelled out. -/
def spelledOut (text : String) : String :=
  String.ofList ('"' :: text.toList.flatMap spellOut ++ ['"'])

end ProviderCodegen.Text
