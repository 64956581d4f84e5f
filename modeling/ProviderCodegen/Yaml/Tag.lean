import ProviderCodegen.Yaml.Scalar
import ProviderCodegen.Yaml.Token

/-! # Tags, names and directives

A tag is a handle and a suffix. Handles stand for the beginnings of tags, as directives at the head
of a document say.
-/

namespace ProviderCodegen.Yaml

def isTagChar (c : Char) : Bool :=
  isNameChar c || ";/?:@&=+$.!~*'()".toList.contains c

/-- Characters of tags in angle brackets and of the beginnings of tags. -/
def isFullTagChar (c : Char) : Bool :=
  isTagChar c || c = ',' || c = '[' || c = ']'

/-- What an octet adds to the number of a character, and how many octets follow the first one. -/
def leadingOctet? (octet : Nat) : Option (Nat × Nat) :=
  if octet < 0x80 then some (octet, 0)
  else if octet / 0x20 = 0x06 then some (octet % 0x20, 1)
  else if octet / 0x10 = 0x0e then some (octet % 0x10, 2)
  else if octet / 0x08 = 0x1e then some (octet % 0x08, 3)
  else none

/-- Add an octet to those of a character that lacks some. -/
def addOctet? (code missing octet : Nat) : Option (Nat × Nat) :=
  if missing = 0 then leadingOctet? octet
  else if octet / 0x40 = 0x02 then some (0x40 * code + octet % 0x40, missing - 1)
  else none

/-- Read characters of a tag. Octets are written as a percent sign and two digits; `missing` of them
complete the character with the number `code`. -/
def tagChars? (isMember : Char → Bool) (chars : List Char) (code missing : Nat) :
    List Glyph → Option (List Char × List Glyph)
  | [] => if missing = 0 then some (chars.reverse, []) else none
  | g :: rest =>
      if g.char = '%' then
        match rest with
        | high :: low :: rest => do
            let octet := 16 * (← Text.hexDigit? high.char) + (← Text.hexDigit? low.char)
            let (code, missing) ← addOctet? code missing octet
            if missing = 0 then tagChars? isMember (Char.ofNat code :: chars) 0 0 rest
            else tagChars? isMember chars code missing rest
        | _ => none
      else if missing ≠ 0 then none
      else if isMember g.char then tagChars? isMember (g.char :: chars) 0 0 rest
      else some (chars.reverse, g :: rest)

/-- The part of a text before a zero character. -/
def beforeZero (chars : List Char) : String :=
  String.ofList (chars.takeWhile (· ≠ '\x00'))

/-- The mark that every handle starts with, and perhaps a name and another mark. -/
def handle? : List Glyph → Option (List Char × List Glyph)
  | [] => none
  | g :: rest =>
      if g.char = '!' then
        let (name, rest) := spanChars isNameChar rest
        match rest with
        | [] => some ('!' :: name, [])
        | next :: more =>
            if next.char = '!' then some ('!' :: name ++ ['!'], more)
            else some ('!' :: name, next :: more)
      else none

/-- Whether a handle ends with a mark of its own. -/
def isNamedHandle (handle : List Char) : Bool :=
  1 < handle.length && handle.getLast? = some '!'

/-- Read a tag without looking at what follows it. -/
def tagBody? (glyphs : List Glyph) : Option (Token × List Glyph) := do
  match glyphs with
  | first :: second :: rest =>
      if first.char = '!' && second.char = '<' then
        let (suffix, rest) ← tagChars? isFullTagChar [] 0 0 rest
        if suffix.isEmpty || !startsWith ">" rest then none
        return (.tag "" (beforeZero suffix), rest.tail)
      else shorthand? (first :: second :: rest)
  | short => shorthand? short
where
  /-- A tag with a handle, or with the mark alone. -/
  shorthand? (glyphs : List Glyph) : Option (Token × List Glyph) := do
    let (handle, rest) ← handle? glyphs
    if isNamedHandle handle then
      let (suffix, rest) ← tagChars? isTagChar [] 0 0 rest
      if suffix.isEmpty then none
      return (.tag (String.ofList handle) (beforeZero suffix), rest)
    else
      let (more, rest) ← tagChars? isTagChar [] 0 0 rest
      let suffix := beforeZero (handle.tail ++ more)
      return (if suffix.isEmpty then .tag "" "!" else .tag "!" suffix, rest)

/-- Read a tag, which ends with a word or, in a flow collection, before a comma. -/
def tag? (inFlow : Bool) (glyphs : List Glyph) : Option (Token × List Glyph) := do
  let (tag, rest) ← tagBody? glyphs
  if endsWord rest || (inFlow && startsWith "," rest) then return (tag, rest)
  none

def name? (glyphs : List Glyph) : Option (String × List Glyph) :=
  let (name, rest) := spanChars isNameChar glyphs
  if name.isEmpty then none
  else if endsWord rest || startsWith "?:,]\x7d%@`" rest then some (String.ofList name, rest)
  else none

/-- Read a number of up to nine digits. -/
def versionNumber? (glyphs : List Glyph) : Option (Nat × List Glyph) :=
  let (digits, rest) := spanChars Char.isDigit glyphs
  if digits.isEmpty || 9 < digits.length then none
  else some (digits.foldl (fun n c => 10 * n + (c.toNat - '0'.toNat)) 0, rest)

def version? (glyphs : List Glyph) : Option (Token × List Glyph) := do
  let (major, rest) ← versionNumber? (dropBlanks glyphs)
  if !startsWith "." rest then none
  let (minor, rest) ← versionNumber? rest.tail
  return (.versionDirective major minor, rest)

def meaning? (glyphs : List Glyph) : Option (Token × List Glyph) := do
  let (handle, rest) ← handle? (dropBlanks glyphs)
  if handle ≠ ['!'] && !isNamedHandle handle then none
  if !startsWith " \t" rest then none
  let (meaning, rest) ← tagChars? isFullTagChar [] 0 0 (dropBlanks rest)
  if meaning.isEmpty || !endsWord rest then none
  return (.tagDirective (String.ofList handle) (beforeZero meaning), rest)

/-- Read the line of a directive after the percent sign. -/
def directive? (glyphs : List Glyph) : Option (Token × List Glyph) := do
  let (name, rest) := spanChars isNameChar glyphs
  if !endsWord rest then none
  let (token, rest) ←
    if name = ['Y', 'A', 'M', 'L'] then version? rest
    else if name = ['T', 'A', 'G'] then meaning? rest
    else none
  return (token, ← dropLineEnd? rest)

end ProviderCodegen.Yaml
