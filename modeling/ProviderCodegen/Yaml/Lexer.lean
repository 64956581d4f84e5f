import ProviderCodegen.Yaml.Tag

/-! # Finding the tokens of a YAML text

Whether a node is a key shows only at the colon after it. The lexer therefore remembers, for each
flow collection that is open and for the blocks around them, which token may start a key, and
inserts the tokens of the key when the colon comes. A key must end on its line and within 1024
characters.
-/

namespace ProviderCodegen.Yaml

/-- A token that may turn out to start a key. -/
structure PossibleKey where
  /-- Whether it must be a key, since it stands where only a key may. -/
  required : Bool
  /-- The number of tokens before it. -/
  position : Nat
  line : Nat
  column : Nat
deriving Repr, DecidableEq

/-- The greatest distance between the start of a key and its colon. -/
def keyReach : Nat := 1024

/-- Whether a key that starts there cannot end at a glyph. -/
def PossibleKey.isStaleAt (key : PossibleKey) (g : Glyph) : Bool :=
  key.line < g.line || key.column + keyReach < g.column

/-- The lexer between two tokens. -/
structure Lexer where
  rest : List Glyph
  /-- The tokens so far, in reverse. -/
  tokens : List Token := []
  /-- How many they are. -/
  count : Nat := 0
  /-- The columns of the open blocks, the innermost first. -/
  indents : List Nat := []
  /-- Whether a key may start here. -/
  keyAllowed : Bool := true
  /-- The possible key of the innermost flow collection, or of the block outside of them. -/
  key : Option PossibleKey := none
  /-- The possible keys of what is around it, the innermost first. -/
  outerKeys : List (Option PossibleKey) := []

namespace Lexer

/-- Whether a flow collection is open. -/
def inFlow (lexer : Lexer) : Bool :=
  !lexer.outerKeys.isEmpty

def emit (lexer : Lexer) (token : Token) : Lexer :=
  { lexer with tokens := token :: lexer.tokens, count := lexer.count + 1 }

/-- Put a token after the first ones, as many as `position` says. -/
def insert (lexer : Lexer) (position : Nat) (token : Token) : Lexer :=
  let (later, earlier) := lexer.tokens.splitAt (lexer.count - position)
  { lexer with tokens := later ++ token :: earlier, count := lexer.count + 1 }

/-- Go on after some glyphs. -/
def goTo (lexer : Lexer) (rest : List Glyph) : Lexer :=
  { lexer with rest }

/-- Say whether a key may start here. -/
def allowKey (lexer : Lexer) (keyAllowed : Bool) : Lexer :=
  { lexer with keyAllowed }

/-- Give up the possible key, unless it is required. -/
def dropKey? (lexer : Lexer) : Option Lexer :=
  if lexer.key.any (·.required) then none else some { lexer with key := none }

/-- Remember that the next token may be a key. -/
def saveKey? (lexer : Lexer) (g : Glyph) : Option Lexer :=
  if lexer.keyAllowed then do
    let required := !lexer.inFlow && lexer.indents.head? = some g.column
    let lexer ← lexer.dropKey?
    return { lexer with key := some ⟨required, lexer.count, g.line, g.column⟩ }
  else some lexer

/-- Give up the possible keys that cannot end at a glyph. -/
def dropStaleKeys? (lexer : Lexer) (g : Glyph) : Option Lexer :=
  let stale (key : Option PossibleKey) := key.any (·.isStaleAt g)
  if (lexer.key :: lexer.outerKeys).any fun key => stale key && key.any (·.required) then none
  else
    let fresh (key : Option PossibleKey) := if stale key then none else key
    some { lexer with key := fresh lexer.key, outerKeys := lexer.outerKeys.map fresh }

/-- Close the blocks whose columns do not satisfy a condition. -/
def closeBlocks (lexer : Lexer) (stays : Nat → Bool) : Lexer :=
  if lexer.inFlow then lexer
  else
    let closed := lexer.indents.takeWhile (!stays ·)
    { lexer with
      indents := lexer.indents.dropWhile (!stays ·)
      tokens := closed.map (fun _ => .blockEnd) ++ lexer.tokens
      count := lexer.count + closed.length }

def closeAllBlocks (lexer : Lexer) : Lexer :=
  lexer.closeBlocks fun _ => false

/-- Open a block at a column if it is further right than the open ones; its first token has the
given position. -/
def openBlock (lexer : Lexer) (column position : Nat) (token : Token) : Lexer :=
  if lexer.inFlow || lexer.indents.head?.any (column ≤ ·) then lexer
  else { lexer.insert position token with indents := column :: lexer.indents }

/-- Open a block for a dash, a question mark or a colon that may start an item or an entry. -/
def openBlockHere? (lexer : Lexer) (column : Nat) (token : Token) : Option Lexer :=
  if lexer.inFlow then some lexer
  else if lexer.keyAllowed then
    some (lexer.openBlock column lexer.count token)
  else none

/-- Pass over blanks, comments and line ends. After a line end a key may start, outside of flow
collections. A tab may not stand where a key may start, outside of flow collections. -/
def skipBlanks (inFlow inComment keyAllowed : Bool) : List Glyph → Bool × List Glyph
  | [] => (keyAllowed, [])
  | g :: rest =>
      if isBreak g.char then skipBlanks inFlow false (keyAllowed || !inFlow) rest
      else if inComment || g.char = '#' then skipBlanks inFlow true keyAllowed rest
      else if g.char = ' ' || (g.char = '\t' && (inFlow || !keyAllowed)) ||
          (g.char = '\ufeff' && g.line = 0 && g.column = 0) then
        skipBlanks inFlow false keyAllowed rest
      else (keyAllowed, g :: rest)

/-- The end of the text closes all blocks. -/
def finish? (lexer : Lexer) : Option (List Token) := do
  let lexer ← lexer.closeAllBlocks.dropKey?
  return lexer.tokens.reverse

/-- Prepare for a token that stands between documents. -/
def endBlocks? (lexer : Lexer) : Option Lexer := do
  let lexer ← lexer.closeAllBlocks.dropKey?
  return lexer.allowKey false

/-- Read a directive or the start or end of a document. -/
def between? (lexer : Lexer) (g : Glyph) (rest : List Glyph) : Option (Option Lexer) :=
  if g.char = '%' && g.column = 0 then some do
    let (token, rest) ← directive? rest
    return (← lexer.endBlocks?).emit token |>.goTo rest
  else match dropMarker? '-' (g :: rest), dropMarker? '.' (g :: rest) with
    | some rest, _ => some (lexer.endBlocks?.map fun lexer => (lexer.emit .documentStart).goTo rest)
    | _, some rest => some (lexer.endBlocks?.map fun lexer => (lexer.emit .documentEnd).goTo rest)
    | none, none => none

/-- Read the start of a flow collection. -/
def openFlow? (lexer : Lexer) (g : Glyph) (rest : List Glyph) (token : Token) : Option Lexer := do
  let lexer ← lexer.saveKey? g
  let lexer := { lexer with key := none, outerKeys := lexer.key :: lexer.outerKeys }
  return ((lexer.allowKey true).emit token).goTo rest

/-- Read the end of a flow collection. -/
def closeFlow? (lexer : Lexer) (rest : List Glyph) (token : Token) : Option Lexer := do
  let lexer ← lexer.dropKey?
  let lexer := match lexer.outerKeys with
    | key :: outerKeys => { lexer with key, outerKeys }
    | [] => lexer
  return ((lexer.allowKey false).emit token).goTo rest

def flowEntry? (lexer : Lexer) (rest : List Glyph) : Option Lexer := do
  let lexer ← lexer.dropKey?
  return ((lexer.allowKey true).emit .flowEntry).goTo rest

def blockEntry? (lexer : Lexer) (g : Glyph) (rest : List Glyph) : Option Lexer := do
  let lexer ← lexer.openBlockHere? g.column .blockSequenceStart
  let lexer ← lexer.dropKey?
  return ((lexer.allowKey true).emit .blockEntry).goTo rest

/-- Read the question mark of a key. -/
def key? (lexer : Lexer) (g : Glyph) (rest : List Glyph) : Option Lexer := do
  let lexer ← lexer.openBlockHere? g.column .blockMappingStart
  let lexer ← lexer.dropKey?
  return ((lexer.allowKey !lexer.inFlow).emit .key).goTo rest

/-- Read the colon of a value. What stands before it is the key if it can be one. -/
def value? (lexer : Lexer) (g : Glyph) (rest : List Glyph) : Option Lexer := do
  let lexer ← match lexer.key with
    | some key =>
        let lexer := lexer.insert key.position .key
        let lexer := lexer.openBlock key.column key.position .blockMappingStart
        pure { lexer with key := none, keyAllowed := false }
    | none => do
        let lexer ← lexer.openBlockHere? g.column .blockMappingStart
        pure (lexer.allowKey !lexer.inFlow)
  return (lexer.emit .value).goTo rest

/-- Add a token that may start a key. -/
def node? (lexer : Lexer) (g : Glyph) (read : Option (Token × List Glyph)) : Option Lexer := do
  let lexer ← lexer.saveKey? g
  let (token, rest) ← read
  return ((lexer.allowKey false).emit token).goTo rest

def block? (lexer : Lexer) (folded : Bool) (rest : List Glyph) : Option Lexer := do
  let lexer ← lexer.dropKey?
  let (text, rest) ← blockScalar? folded lexer.indents.head? rest
  let form := if folded then .quoted else .literal
  return ((lexer.allowKey true).emit (.scalar form text)).goTo rest

/-- Read a scalar without quotes. -/
def plainScalar? (lexer : Lexer) (g : Glyph) : Option Lexer := do
  let lexer ← lexer.saveKey? g
  let scalar ← plain? lexer.inFlow (lexer.indents.head?.elim 0 (· + 1)) [] .empty lexer.rest
  return ((lexer.allowKey scalar.endsLine).emit (.scalar .plain scalar.text)).goTo scalar.rest

/-- Whether a scalar without quotes may start here. -/
def startsPlain (inFlow : Bool) (g : Glyph) (rest : List Glyph) : Bool :=
  (!isBlank g.char && !"-?:,[]\x7b\x7d#&*!|>'\"%@`".toList.contains g.char) ||
    (g.char = '-' && !startsWith " \t" rest) ||
    (!inFlow && (g.char = '?' || g.char = ':') && !endsWord rest)

/-- The form in which a text in quotes is read. -/
def quotedScalar (read : Option (String × List Glyph)) : Option (Token × List Glyph) :=
  read.map fun (text, rest) => (.scalar .quoted text, rest)

/-- Read the token that starts at a glyph. -/
def token? (lexer : Lexer) (g : Glyph) (rest : List Glyph) : Option Lexer :=
  match lexer.between? g rest with
  | some result => result
  | none =>
      let separate := endsWord rest
      match g.char with
      | '[' => lexer.openFlow? g rest .flowSequenceStart
      | '\x7b' => lexer.openFlow? g rest .flowMappingStart
      | ']' => lexer.closeFlow? rest .flowSequenceEnd
      | '\x7d' => lexer.closeFlow? rest .flowMappingEnd
      | ',' => lexer.flowEntry? rest
      | '*' => lexer.node? g ((name? rest).map fun (name, rest) => (.reference name, rest))
      | '&' => lexer.node? g ((name? rest).map fun (name, rest) => (.anchor name, rest))
      | '!' => lexer.node? g (tag? lexer.inFlow (g :: rest))
      | '\'' => lexer.node? g (quotedScalar (singleQuoted? [] .empty rest))
      | '"' => lexer.node? g (quotedScalar (doubleQuoted? .none [] .empty rest))
      | c =>
          if c = '-' && separate then lexer.blockEntry? g rest
          else if c = '?' && (lexer.inFlow || separate) then lexer.key? g rest
          else if c = ':' && (lexer.inFlow || separate) then lexer.value? g rest
          else if c = '|' && !lexer.inFlow then lexer.block? false rest
          else if c = '>' && !lexer.inFlow then lexer.block? true rest
          else if startsPlain lexer.inFlow g rest then lexer.plainScalar? g
          else none

/-- Read tokens to the end of the text. Each token has a glyph of its own, so that more steps than
there are glyphs are never taken. -/
def run : Nat → Lexer → Option (List Token)
  | 0, _ => none
  | steps + 1, lexer =>
      let (keyAllowed, rest) := skipBlanks lexer.inFlow false lexer.keyAllowed lexer.rest
      let lexer := { lexer with keyAllowed, rest }
      match rest with
      | [] => lexer.finish?
      | g :: rest => do
          let lexer ← lexer.dropStaleKeys? g
          let lexer ← (lexer.closeBlocks (· ≤ g.column)).token? g rest
          lexer.run steps

end Lexer

def tokens? (text : String) : Option (List Token) := do
  let glyphs ← glyphs? text
  Lexer.run (glyphs.length + 1) { rest := glyphs }

end ProviderCodegen.Yaml
