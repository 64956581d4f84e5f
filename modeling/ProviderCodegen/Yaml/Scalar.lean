import ProviderCodegen.Text.Digits
import ProviderCodegen.Yaml.Glyph

/-! # Scalars of a YAML text

A plain or quoted scalar may go on over several lines. Of what stands between two of its words,
blanks within a line are kept; a line feed alone becomes a space, and of several the first is
dropped. A block scalar is a run of lines that are indented alike.
-/

namespace ProviderCodegen.Yaml

/-- What stands between two words of a scalar. -/
inductive Gap
  /-- The blanks of one line, in reverse. -/
  | blanks (chars : List Char)
  /-- Line breaks: the first, unless it was escaped, and the others in reverse. -/
  | breaks (first : Option Char) (more : List Char)
deriving Repr, DecidableEq

namespace Gap

def empty : Gap := .blanks []

def isEmpty : Gap → Bool
  | blanks [] => true
  | _ => false

def endsLine : Gap → Bool
  | blanks _ => false
  | breaks .. => true

/-- Add a blank or a line break. -/
def add (gap : Gap) (c : Char) : Gap :=
  match gap with
  | blanks chars => if isBreak c then .breaks (some c) [] else .blanks (c :: chars)
  | breaks first more => if isBreak c then .breaks first (c :: more) else .breaks first more

/-- What it contributes to the text, in reverse. -/
def chars : Gap → List Char
  | blanks chars => chars
  | breaks (some '\n') [] => [' ']
  | breaks (some '\n') more => more
  | breaks first more => more ++ first.toList

end Gap

/-- A scalar without quotes and what follows it. -/
structure PlainScalar where
  text : String
  /-- Whether its last line has ended. -/
  endsLine : Bool
  rest : List Glyph

/-- Whether a plain scalar ends before a word that starts here. -/
def endsBefore (inFlow : Bool) (indent : Nat) (g : Glyph) (rest : List Glyph) : Bool :=
  (!inFlow && g.column < indent) || g.char = '#' || atMarker (g :: rest)

/-- Whether a plain scalar ends before this character. -/
def endsAt (inFlow : Bool) (g : Glyph) (rest : List Glyph) : Bool :=
  (g.char = ':' && endsWord rest) || (inFlow && isFlowIndicator g.char)

/-- Read a scalar without quotes whose lines have at least the given indentation. -/
def plain? (inFlow : Bool) (indent : Nat) (chars : List Char) (gap : Gap) :
    List Glyph → Option PlainScalar
  | [] => some ⟨String.ofList chars.reverse, gap.endsLine, []⟩
  | g :: rest =>
      if isBlank g.char || isBreak g.char then
        if g.char = '\t' && gap.endsLine && g.column < indent then none
        else plain? inFlow indent chars (gap.add g.char) rest
      else if !gap.isEmpty && endsBefore inFlow indent g rest then
        some ⟨String.ofList chars.reverse, gap.endsLine, g :: rest⟩
      else if inFlow && g.char = ':' && startsWith ",?[]\x7b\x7d" rest then none
      else if endsAt inFlow g rest then
        some ⟨String.ofList chars.reverse, gap.endsLine, g :: rest⟩
      else plain? inFlow indent (g.char :: (gap.chars ++ chars)) .empty rest

/-- Read what follows a single quote: the text up to the closing quote, and what follows that. A
quote within the text is written twice. -/
def singleQuoted? (chars : List Char) (gap : Gap) : List Glyph → Option (String × List Glyph)
  | [] => none
  | g :: rest =>
      if isBlank g.char || isBreak g.char then singleQuoted? chars (gap.add g.char) rest
      else if atMarker (g :: rest) then none
      else
        let chars := gap.chars ++ chars
        if g.char = '\'' then
          match rest with
          | next :: more =>
              if next.char = '\'' then singleQuoted? ('\'' :: chars) .empty more
              else some (String.ofList chars.reverse, next :: more)
          | [] => some (String.ofList chars.reverse, [])
        else singleQuoted? (g.char :: chars) .empty rest

/-- How far an escape sequence is read. -/
inductive Escape
  | none
  /-- After the backslash. -/
  | start
  /-- Within the number of a character. -/
  | code (missing : Nat) (value : Nat)
deriving Repr, DecidableEq

/-- The characters that an escape of one letter names. -/
def letterEscapes : List (Char × Char) :=
  [('0', '\x00'), ('a', '\x07'), ('b', '\x08'), ('t', '\t'), ('\t', '\t'), ('n', '\n'),
   ('v', '\x0b'), ('f', '\x0c'), ('r', '\r'), ('e', '\x1b'), (' ', ' '), ('"', '"'), ('/', '/'),
   ('\\', '\\'), ('N', '\u0085'), ('_', '\u00a0'), ('L', '\u2028'), ('P', '\u2029')]

/-- The number of hexadecimal digits after a letter. -/
def codeLength? (c : Char) : Option Nat :=
  if c = 'x' then some 2 else if c = 'u' then some 4 else if c = 'U' then some 8 else none

def charOfCode? (code : Nat) : Option Char :=
  if code.isValidChar then some (Char.ofNat code) else none

/-- Read what follows a double quote: the text up to the closing quote, and what follows that. -/
def doubleQuoted? (escape : Escape) (chars : List Char) (gap : Gap) :
    List Glyph → Option (String × List Glyph)
  | [] => none
  | g :: rest =>
      match escape with
      | .none =>
          if isBlank g.char || isBreak g.char then
            doubleQuoted? .none chars (gap.add g.char) rest
          else if atMarker (g :: rest) then none
          else
            let chars := gap.chars ++ chars
            if g.char = '"' then some (String.ofList chars.reverse, rest)
            else if g.char = '\\' then doubleQuoted? .start chars .empty rest
            else doubleQuoted? .none (g.char :: chars) .empty rest
      | .start =>
          if isBreak g.char then doubleQuoted? .none chars (.breaks none []) rest
          else match codeLength? g.char with
            | some length => doubleQuoted? (.code length 0) chars .empty rest
            | none => do
                let c ← letterEscapes.lookup g.char
                doubleQuoted? .none (c :: chars) .empty rest
      | .code missing value => do
          let value := 16 * value + (← Text.hexDigit? g.char)
          if missing ≤ 1 then
            let c ← charOfCode? value
            doubleQuoted? .none (c :: chars) .empty rest
          else doubleQuoted? (.code (missing - 1) value) chars .empty rest

/-- What becomes of the line breaks at the end of a block scalar. -/
inductive Chomping
  | strip
  /-- Only the first stays. -/
  | clip
  | keep
deriving Repr, DecidableEq

/-- What the first line of a block scalar says. -/
structure BlockHeader where
  chomping : Chomping
  /-- The indentation relative to the parent, zero when the first line of text shows it. -/
  indent : Nat
deriving Repr, DecidableEq

def chomping? : List Glyph → Option (Chomping × List Glyph)
  | [] => none
  | g :: rest =>
      if g.char = '+' then some (.keep, rest)
      else if g.char = '-' then some (.strip, rest)
      else none

/-- Read an indentation indicator; without one the answer is zero. -/
def indentation? : List Glyph → Option (Nat × List Glyph)
  | [] => some (0, [])
  | g :: rest =>
      if g.char = '0' then none
      else if g.char.isDigit then some (g.char.toNat - '0'.toNat, rest)
      else some (0, g :: rest)

/-- Read the first line of a block scalar after its indicator. The two parts may stand in either
order. -/
def blockHeader? (glyphs : List Glyph) : Option (BlockHeader × List Glyph) := do
  match chomping? glyphs with
  | some (chomping, rest) =>
      let (indent, rest) ← indentation? rest
      return (⟨chomping, indent⟩, ← dropLineEnd? rest)
  | none =>
      let (indent, rest) ← indentation? glyphs
      let (chomping, rest) :=
        if indent = 0 then (.clip, rest) else (chomping? rest).getD (.clip, rest)
      return (⟨chomping, indent⟩, ← dropLineEnd? rest)

/-- The indentation of the first line that is not blank, or of a blank line before it when that is
greater. No tab may stand in the indentation. -/
def shownIndent? : List Glyph → Option Nat
  | [] => some 0
  | g :: rest =>
      if g.char = ' ' then shownIndent? rest
      else if g.char = '\t' then none
      else if isBreak g.char then (shownIndent? rest).map (max g.column)
      else some g.column

/-- The text of a block scalar as far as it is read. -/
structure BlockText where
  /-- The text in reverse, without the line breaks at its end. -/
  chars : List Char := []
  /-- The break that ends the last line of text. -/
  lineBreak : Option Char := none
  /-- The breaks of the blank lines after it, in reverse. -/
  blankLines : List Char := []
  /-- Whether the last line of text starts with a blank. -/
  startsBlank : Bool := false
  /-- Whether the place is within a line of text. -/
  inLine : Bool := false

namespace BlockText

/-- Start a line of text. In a folded scalar a line feed between two lines that do not start with
blanks becomes a space, or is dropped before blank lines. -/
def startLine (folded : Bool) (text : BlockText) (c : Char) : BlockText :=
  let folds := folded && text.lineBreak = some '\n' && !text.startsBlank && !isBlank c
  let joint :=
    if folds then if text.blankLines.isEmpty then [' '] else [] else text.lineBreak.toList
  { chars := text.blankLines ++ joint ++ text.chars, startsBlank := isBlank c, inLine := true }

/-- The text with the breaks at its end. -/
def finish (text : BlockText) (chomping : Chomping) : String :=
  let chars := match chomping with
    | .strip => text.chars
    | .clip => text.lineBreak.toList ++ text.chars
    | .keep => text.blankLines ++ text.lineBreak.toList ++ text.chars
  String.ofList chars.reverse

end BlockText

/-- Read the lines with the given indentation. -/
def blockLines? (folded : Bool) (indent : Nat) (text : BlockText) :
    List Glyph → Option (BlockText × List Glyph)
  | [] => some (text, [])
  | g :: rest =>
      if text.inLine then
        if isBreak g.char then
          blockLines? folded indent { text with lineBreak := some g.char, inLine := false } rest
        else blockLines? folded indent { text with chars := g.char :: text.chars } rest
      else if isBreak g.char then
        blockLines? folded indent { text with blankLines := g.char :: text.blankLines } rest
      else if g.column < indent then
        if g.char = ' ' then blockLines? folded indent text rest
        else if g.char = '\t' then none
        else some (text, g :: rest)
      else if g.column = indent then
        let text := text.startLine folded g.char
        blockLines? folded indent { text with chars := g.char :: text.chars } rest
      else some (text, g :: rest)

/-- Read a block scalar after its indicator. `parent` is the indentation of the block that holds it,
`none` when no block does. -/
def blockScalar? (folded : Bool) (parent : Option Nat) (glyphs : List Glyph) :
    Option (String × List Glyph) := do
  let (header, rest) ← blockHeader? glyphs
  let indent ←
    if header.indent = 0 then
      (shownIndent? rest).map fun shown => max (max shown (parent.elim 0 (· + 1))) 1
    else some (parent.getD 0 + header.indent)
  let (text, rest) ← blockLines? folded indent {} rest
  return (text.finish header.chomping, rest)

end ProviderCodegen.Yaml
