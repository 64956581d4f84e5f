/-! # Characters in their places

A YAML text is read as a list of characters with their lines and columns, since indentation carries
meaning. Carriage returns and next-line marks count as line feeds, and so does a carriage return
together with the line feed after it; line and paragraph separators end a line but stay what they
are.
-/

namespace ProviderCodegen.Yaml

/-- A character and where it stands, counted from zero. -/
structure Glyph where
  char : Char
  line : Nat
  column : Nat
deriving Repr, DecidableEq

/-- Characters that a text may contain. -/
def isAllowed (c : Char) : Bool :=
  let code := c.toNat
  code = 0x09 || code = 0x0a || code = 0x0d || (0x20 ≤ code && code ≤ 0x7e) || code = 0x85 ||
    (0xa0 ≤ code && code ≤ 0xd7ff) || (0xe000 ≤ code && code ≤ 0xfffd) || 0x10000 ≤ code

def isBlank (c : Char) : Bool :=
  c = ' ' || c = '\t'

def isBreak (c : Char) : Bool :=
  c = '\n' || c = '\u2028' || c = '\u2029'

def isNameChar (c : Char) : Bool :=
  c.isAlphanum || c = '_' || c = '-'

/-- Characters that separate the parts of a flow collection. -/
def isFlowIndicator (c : Char) : Bool :=
  c = ',' || c = '[' || c = ']' || c = '\x7b' || c = '\x7d'

def withLineFeeds : List Char → List Char
  | [] => []
  | '\r' :: '\n' :: rest => '\n' :: withLineFeeds rest
  | c :: rest => (if c = '\r' || c = '\u0085' then '\n' else c) :: withLineFeeds rest

/-- Give each character its place, the first one the given place. -/
def placed (line column : Nat) : List Char → List Glyph
  | [] => []
  | c :: rest =>
      ⟨c, line, column⟩ ::
        if isBreak c then placed (line + 1) 0 rest else placed line (column + 1) rest

/-- The glyphs of a text, if each of its characters is allowed. -/
def glyphs? (text : String) : Option (List Glyph) :=
  if text.toList.all isAllowed then some (placed 0 0 (withLineFeeds text.toList)) else none

/-- Whether no word goes on here: at a blank, at the end of a line and at the end of the text. -/
def endsWord : List Glyph → Bool
  | [] => true
  | g :: _ => isBlank g.char || isBreak g.char

/-- Whether one of the given characters stands first. -/
def startsWith (chars : String) : List Glyph → Bool
  | [] => false
  | g :: _ => chars.toList.contains g.char

/-- The longest run of characters with a property, and what follows it. -/
def spanChars (property : Char → Bool) : List Glyph → List Char × List Glyph
  | [] => ([], [])
  | g :: rest =>
      if property g.char then
        let (chars, rest) := spanChars property rest
        (g.char :: chars, rest)
      else ([], g :: rest)

/-- What follows the blanks in front. -/
def dropBlanks (glyphs : List Glyph) : List Glyph :=
  (spanChars isBlank glyphs).2

/-- What follows the line when nothing but blanks and a comment is left of it. -/
def dropLineEnd? (glyphs : List Glyph) : Option (List Glyph) :=
  let rest := dropBlanks glyphs
  let rest := if startsWith "#" rest then (spanChars (!isBreak ·) rest).2 else rest
  match rest with
  | [] => some []
  | g :: rest => if isBreak g.char then some rest else none

/-- What follows three times the given character at the start of a line, when no word goes on
there. -/
def dropMarker? (mark : Char) : List Glyph → Option (List Glyph)
  | first :: second :: third :: rest =>
      if first.column = 0 && first.char = mark && second.char = mark && third.char = mark &&
        endsWord rest then some rest
      else none
  | _ => none

/-- Whether a document starts or ends here. -/
def atMarker (glyphs : List Glyph) : Bool :=
  (dropMarker? '-' glyphs).isSome || (dropMarker? '.' glyphs).isSome

end ProviderCodegen.Yaml
