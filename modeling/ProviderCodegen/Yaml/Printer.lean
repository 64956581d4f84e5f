import ProviderCodegen.Datum.Plain
import ProviderCodegen.Json.Printer
import ProviderCodegen.Yaml.Glyph

/-! # Writing YAML

Collections are written as blocks. A text has no quotes if it reads as itself without them, and is a
literal block if it has several lines. Single quotes go before double quotes, which are for texts
with characters that need an escape.
-/

namespace ProviderCodegen.Yaml

/-- How a text is written. -/
inductive Style
  | plain
  | singleQuoted
  | doubleQuoted
  | literal
deriving Repr, DecidableEq

/-- Words that older readers take for truth values. -/
def truthWords : List String :=
  ["y", "Y", "yes", "Yes", "YES", "n", "N", "no", "No", "NO", "true", "True", "TRUE",
   "false", "False", "FALSE", "on", "On", "ON", "off", "Off", "OFF"]

def isPrintable (c : Char) : Bool :=
  let code := c.toNat
  c = '\n' || (0x20 ≤ code && code ≤ 0x7e) ||
    (0xa0 ≤ code && code ≤ 0xfffd && code ≠ 0xfeff) || 0x10000 ≤ code

/-- Whether a character with one property stands right before one with another. -/
def hasPair (first second : Char → Bool) : List Char → Bool
  | c :: d :: rest => (first c && second d) || hasPair first second (d :: rest)
  | _ => false

/-- Whether the characters begin with a blank or a line end, or there are none. -/
def startsBlank (chars : List Char) : Bool :=
  chars.head?.all fun c => isBlank c || isBreak c

/-- Whether a word ends in a colon or starts with a number sign. -/
def hasIndicator : List Char → Bool
  | [] => false
  | c :: rest =>
      (c = ':' && startsBlank rest) ||
        ((isBlank c || isBreak c) && rest.head? = some '#') || hasIndicator rest

/-- Whether a text starts like something else than a plain scalar. -/
def startsWithIndicator : List Char → Bool
  | [] => false
  | c :: rest =>
      ['-', '-', '-'].isPrefixOf (c :: rest) || ['.', '.', '.'].isPrefixOf (c :: rest) ||
        "#,[]\x7b\x7d&*!|>'\"%@`".toList.contains c || ((c = '?' || c = '-') && startsBlank rest)

/-- Whether all characters can be written as they are, with no space at the end of a line. -/
def isQuotable (chars : List Char) : Bool :=
  chars.all isPrintable && !hasPair (· = ' ') isBreak chars

/-- Whether a text can stand in single quotes: no line of it may start with a space. -/
def fitsSingleQuotes (chars : List Char) : Bool :=
  isQuotable chars && !hasPair isBreak (· = ' ') chars

/-- Whether a text can stand without quotes. -/
def fitsPlain (chars : List Char) : Bool :=
  isQuotable chars && !chars.any isBreak && !startsBlank chars && chars.getLast? ≠ some ' ' &&
    !hasIndicator chars && !startsWithIndicator chars

/-- Whether a text can be a literal block. -/
def fitsLiteral (chars : List Char) : Bool :=
  isQuotable chars && chars.getLast? ≠ some ' '

/-- Whether a plain scalar is a text and no digits. -/
def spellsText (text : String) : Bool :=
  match Datum.ofPlain text with
  | .text _ _ => !Datum.isZeroPadded text.toList
  | _ => false

def styleOf (text : String) : Style :=
  let chars := text.toList
  if !truthWords.contains text && chars.contains '\n' then
    if fitsLiteral chars then .literal else .doubleQuoted
  else if !truthWords.contains text && spellsText text && fitsPlain chars then .plain
  else if fitsSingleQuotes chars then .singleQuoted
  else .doubleQuoted

def padding (indent : Nat) : List Char :=
  List.replicate indent ' '

/-- A text between single quotes; `afterBreak` says whether a line separator comes before. -/
def singleQuotedBody (indent : Nat) (afterBreak : Bool) : List Char → List Char
  | [] => if afterBreak then padding indent else []
  | c :: rest =>
      if isBreak c then c :: singleQuotedBody indent true rest
      else
        (if afterBreak then padding indent else []) ++ (if c = '\'' then ['\'', '\''] else [c]) ++
          singleQuotedBody indent false rest

/-- Characters that double quotes escape by a letter. -/
def letterOf? (c : Char) : Option Char :=
  [('\x00', '0'), ('\x07', 'a'), ('\x08', 'b'), ('\t', 't'), ('\n', 'n'), ('\x0b', 'v'),
   ('\x0c', 'f'), ('\r', 'r'), ('\x1b', 'e'), ('"', '"'), ('\\', '\\'), ('\u0085', 'N'),
   ('\u2028', 'L'), ('\u2029', 'P')].lookup c

/-- A character between double quotes. -/
def escaped (c : Char) : List Char :=
  match letterOf? c with
  | some letter => ['\\', letter]
  | none =>
      if isPrintable c then [c]
      else
        let code := c.toNat
        let digits (count : Nat) := (Text.hexadecimal count code).map Char.toUpper
        if code ≤ 0xff then '\\' :: 'x' :: digits 2 else '\\' :: 'u' :: digits 4

/-- What stands between the mark of a literal block and its first line: a hint on the indentation
when the text does not show it, and one on the line ends that follow the last line. -/
def literalHints (chars : List Char) : List Char :=
  let indentation := if startsBlank chars then ['2'] else []
  let chomping := match chars.reverse with
    | [] => ['-']
    | last :: before =>
        if !isBreak last then ['-']
        else if before.head?.all isBreak then ['+']
        else []
  indentation ++ chomping

/-- The lines of a literal block; `atStart` says whether a line starts here. -/
def literalBody (indent : Nat) (atStart : Bool) : List Char → List Char
  | [] => if atStart then [] else ['\n']
  | c :: rest =>
      if isBreak c then c :: literalBody indent true rest
      else (if atStart then padding indent else []) ++ c :: literalBody indent false rest

/-- A text with the end of its line; `indent` is where its further lines start. -/
def writeText (indent : Nat) (text : String) : List Char :=
  let chars := text.toList
  match styleOf text with
  | .plain => chars ++ ['\n']
  | .singleQuoted => '\'' :: singleQuotedBody indent false chars ++ ['\'', '\n']
  | .doubleQuoted => '"' :: chars.flatMap escaped ++ ['"', '\n']
  | .literal => '|' :: literalHints chars ++ '\n' :: literalBody indent true chars

/-- A datum without parts, with the end of its line. What is no text is written as in JSON.
`indent` is where the entry or item starts that it belongs to. -/
def writeScalar (indent : Nat) : Datum → List Char
  | .text _ text => writeText (indent + 2) text
  | scalar => (Json.scalar scalar).toList ++ ['\n']

/-- A key, which stands on one line. -/
def writeKey (key : Datum) : List Char :=
  (writeScalar 0 key).dropLast ++ [':']

mutual

/-- What follows the key of an entry; `indent` is where the entry starts. -/
def writeValue (indent : Nat) : Datum → List Char
  | .list _ items =>
      if items.isEmpty then " []\n".toList
      else '\n' :: padding indent ++ writeItems indent items
  | .map entries =>
      if entries.isEmpty then " \x7b\x7d\n".toList
      else '\n' :: padding (indent + 2) ++ writeEntries (indent + 2) entries
  | scalar => ' ' :: writeScalar indent scalar

/-- What follows the dash of an item; `indent` is where the item starts. -/
def writeItem (indent : Nat) : Datum → List Char
  | .list _ items =>
      if items.isEmpty then "[]\n".toList else writeItems (indent + 2) items
  | .map entries =>
      if entries.isEmpty then "\x7b\x7d\n".toList else writeEntries (indent + 2) entries
  | scalar => writeScalar indent scalar

/-- The items of a list, the first one without its indentation. -/
def writeItems (indent : Nat) : List Datum → List Char
  | [] => []
  | item :: rest =>
      '-' :: ' ' :: writeItem indent item ++ (if rest.isEmpty then [] else padding indent) ++
        writeItems indent rest

/-- The entries of a map, the first one without its indentation. -/
def writeEntries (indent : Nat) : List (Datum × Datum) → List Char
  | [] => []
  | (key, value) :: rest =>
      writeKey key ++ writeValue indent value ++ (if rest.isEmpty then [] else padding indent) ++
        writeEntries indent rest

end

def write : Datum → String
  | .map entries =>
      if entries.isEmpty then "\x7b\x7d\n" else String.ofList (writeEntries 0 entries)
  | .list _ items =>
      if items.isEmpty then "[]\n" else String.ofList (writeItems 0 items)
  | scalar => String.ofList (writeScalar 0 scalar)

end ProviderCodegen.Yaml
