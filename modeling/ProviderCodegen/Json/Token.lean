import ProviderCodegen.Json.Number
import ProviderCodegen.Text.Digits

/-! # Tokens of a JSON text

The lexer reads one character at a time and keeps what it has read of the current token. A string
that holds half of a surrogate pair is a token, but one without a value.
-/

namespace ProviderCodegen.Json

/-- A token of a JSON text. -/
inductive Token
  | openObject
  | closeObject
  | openArray
  | closeArray
  | colon
  | comma
  /-- A string, with its text unless that is not well formed. -/
  | string (text : Option String)
  /-- A number or one of the three words. -/
  | scalar (value : Datum)
deriving Inhabited

/-- What a string consists of: characters, and UTF-16 units given by number. -/
inductive StringUnit
  | char (c : Char)
  | unit (code : Nat)
deriving Repr, DecidableEq

/-- The text of a string. Two units may make a surrogate pair; half a pair makes no text. -/
def assemble : List StringUnit → Option (List Char)
  | [] => some []
  | .char c :: rest => (assemble rest).map (c :: ·)
  | .unit high :: .unit low :: rest =>
      if 0xd800 ≤ high && high < 0xdc00 && 0xdc00 ≤ low && low < 0xe000 then
        (assemble rest).map
          (Char.ofNat (0x10000 + (high - 0xd800) * 0x400 + (low - 0xdc00)) :: ·)
      else if 0xd800 ≤ high && high < 0xe000 then none
      else (assemble (.unit low :: rest)).map (Char.ofNat high :: ·)
  | .unit code :: rest =>
      if 0xd800 ≤ code && code < 0xe000 then none
      else (assemble rest).map (Char.ofNat code :: ·)

/-- What has been read of the current token; characters and units are kept reversed. -/
inductive Pending
  | nothing
  | word (chars : List Char)
  | quoted (units : List StringUnit)
  /-- After a backslash. -/
  | escape (units : List StringUnit)
  /-- Within the four digits of a unit's number. -/
  | code (units : List StringUnit) (missing : Nat) (value : Nat)
deriving Repr, DecidableEq

/-- The lexer between two characters; tokens are kept reversed. -/
structure Lexer where
  pending : Pending := .nothing
  tokens : List Token := []

def isBlank (c : Char) : Bool :=
  c = ' ' || c = '\n' || c = '\t' || c = '\r'

def isWordChar (c : Char) : Bool :=
  c.isAlphanum || c = '+' || c = '-' || c = '.'

/-- The character that an escape of one letter names. -/
def escaped? (c : Char) : Option Char :=
  if c = '"' || c = '\\' || c = '/' then some c
  else if c = 'b' then some '\x08'
  else if c = 'f' then some '\x0c'
  else if c = 'n' then some '\n'
  else if c = 'r' then some '\r'
  else if c = 't' then some '\t'
  else none

/-- The token that a single character makes. -/
def punctuation? (c : Char) : Option Token :=
  if c = '\x7b' then some .openObject
  else if c = '\x7d' then some .closeObject
  else if c = '[' then some .openArray
  else if c = ']' then some .closeArray
  else if c = ':' then some .colon
  else if c = ',' then some .comma
  else none

def scalar? (chars : List Char) : Option Datum :=
  if chars = ['n', 'u', 'l', 'l'] then some .null
  else if chars = ['t', 'r', 'u', 'e'] then some (.bool true)
  else if chars = ['f', 'a', 'l', 's', 'e'] then some (.bool false)
  else (Numeral.ofChars? chars).map Numeral.toDatum

namespace Lexer

/-- Start a token, or pass over a blank. -/
def start (tokens : List Token) (c : Char) : Option Lexer :=
  if isBlank c then some ⟨.nothing, tokens⟩
  else if c = '"' then some ⟨.quoted [], tokens⟩
  else if isWordChar c then some ⟨.word [c], tokens⟩
  else (punctuation? c).map fun token => ⟨.nothing, token :: tokens⟩

def step (lexer : Lexer) (c : Char) : Option Lexer :=
  match lexer.pending with
  | .nothing => start lexer.tokens c
  | .word chars =>
      if isWordChar c then some { lexer with pending := .word (c :: chars) }
      else (scalar? chars.reverse).bind fun value => start (.scalar value :: lexer.tokens) c
  | .quoted units =>
      if c = '"' then
        some ⟨.nothing, .string ((assemble units.reverse).map String.ofList) :: lexer.tokens⟩
      else if c = '\\' then some { lexer with pending := .escape units }
      else if c.toNat < 0x20 then none
      else some { lexer with pending := .quoted (.char c :: units) }
  | .escape units =>
      if c = 'u' then some { lexer with pending := .code units 3 0 }
      else (escaped? c).map fun plain => { lexer with pending := .quoted (.char plain :: units) }
  | .code units missing value =>
      (Text.hexDigit? c).map fun d =>
        let code := 16 * value + d
        match missing with
        | 0 => { lexer with pending := .quoted (.unit code :: units) }
        | more + 1 => { lexer with pending := .code units more code }

/-- The tokens when the text ends here. -/
def finish (lexer : Lexer) : Option (List Token) :=
  match lexer.pending with
  | .nothing => some lexer.tokens.reverse
  | .word chars => (scalar? chars.reverse).map fun value => (.scalar value :: lexer.tokens).reverse
  | _ => none

end Lexer

def tokens? (chars : List Char) : Option (List Token) :=
  (chars.foldlM Lexer.step {}).bind Lexer.finish

end ProviderCodegen.Json
