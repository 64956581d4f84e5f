import ProviderCodegen.Yaml.Token

/-! # Nodes of a YAML document

The tokens of a text make a tree of nodes. Where a node is left out, it is a plain scalar without
characters. A text holds at most one document.

A name stands for the number of the node that it names. The number of a node is the count of the
names that differ from its own and come before it, so that a node may take the number of another
one when a name is used again.
-/

namespace ProviderCodegen.Yaml

/-- What may stand before a node. -/
structure Properties where
  /-- The number that references to the node use. -/
  anchor : Option Nat := none
  tag : Option String := none
deriving Repr, DecidableEq

def Properties.isEmpty (properties : Properties) : Bool :=
  properties.anchor.isNone && properties.tag.isNone

inductive Node
  | reference (target : Nat)
  | scalar (properties : Properties) (form : TextForm) (text : String)
  | sequence (properties : Properties) (items : List Node)
  | mapping (properties : Properties) (entries : List (Node × Node))
deriving Inhabited

namespace Node

/-- The node that is left out. -/
def empty : Node := .scalar {} .plain ""

/-- A scalar; a tag that is a mark alone says nothing about it. -/
def tagged (properties : Properties) (form : TextForm) (text : String) : Node :=
  .scalar { properties with tag := properties.tag.filter (· ≠ "!") } form text

/-- Names with the numbers of their nodes, each name once. -/
abbrev Anchors := List (String × Nat)

/-- What a reader of nodes keeps. -/
structure Source where
  tokens : List Token
  /-- Handles with what they stand for. -/
  handles : List (String × String)
  anchors : Anchors := []

/-- A reader of nodes. -/
abbrev Read := StateT Source Option

def next? : Read (Option Token) := do
  return (← get).tokens.head?

def skip : Read Unit :=
  modify fun source => { source with tokens := source.tokens.tail }

/-- Pass over the given token. -/
def expect (token : Token) : Read Unit := do
  if (← next?) = some token then skip else failure

/-- Whether one of the given tokens comes next. -/
def nextIsOneOf (tokens : List Token) : Read Bool := do
  return (← next?).any tokens.contains

def target (name : String) : Read Nat := do
  (← get).anchors.lookup name

/-- Give a node a name. -/
def newAnchor (name : String) : Read Nat := do
  let number := (← get).anchors.length
  modify fun source =>
    { source with anchors := (name, number) :: source.anchors.filter (·.1 ≠ name) }
  return number

/-- The tag that a handle and a suffix stand for. -/
def resolvedTag (handle suffix : String) : Read String := do
  if handle.isEmpty then return suffix
  return (← (← get).handles.lookup handle) ++ suffix

/-- A name for a node, if there is one. -/
def anchor? : Read (Option Nat) := do
  match ← next? with
  | some (.anchor name) => do
      skip
      return some (← newAnchor name)
  | _ => return none

/-- A tag, if there is one. -/
def tag? : Read (Option String) := do
  match ← next? with
  | some (.tag handle suffix) => do
      skip
      return some (← resolvedTag handle suffix)
  | _ => return none

/-- The name and the tag of a node, in either order. -/
def properties : Read Properties := do
  match ← anchor? with
  | some number => return ⟨some number, ← tag?⟩
  | none => do
      let tag ← tag?
      return ⟨← if tag.isSome then anchor? else pure none, tag⟩

/-- Where a node stands. -/
inductive Place
  | inFlow
  | inBlock
  /-- As key or value of a block mapping, where the dashes of a sequence need not be indented. -/
  | inEntry
deriving Repr, DecidableEq

mutual

/-- A node at a place. `depth` bounds the calls within one another. -/
def read (depth : Nat) (place : Place) : Read Node :=
  match depth with
  | 0 => failure
  | depth + 1 => do
      match ← next? with
      | some (.reference name) => do
          skip
          return .reference (← target name)
      | _ => do
          let properties ← properties
          match ← next?, place with
          | some .blockEntry, .inEntry => return .sequence properties (← plainItems depth)
          | some (.scalar form text), _ => do
              skip
              return .tagged properties form text
          | some .flowSequenceStart, _ => do
              skip
              return .sequence properties (← flowItems depth true)
          | some .flowMappingStart, _ => do
              skip
              return .mapping properties (← flowEntries depth true)
          | some .blockSequenceStart, .inBlock | some .blockSequenceStart, .inEntry => do
              skip
              return .sequence properties (← blockItems depth)
          | some .blockMappingStart, .inBlock | some .blockMappingStart, .inEntry => do
              skip
              return .mapping properties (← blockEntries depth)
          | _, _ => if properties.isEmpty then failure else return .scalar properties .plain ""

/-- A node, or the empty one before one of the given tokens. -/
def readUnless (depth : Nat) (place : Place) (ends : List Token) : Read Node :=
  match depth with
  | 0 => failure
  | depth + 1 => do
      if ← nextIsOneOf ends then return .empty else read depth place

def blockItems (depth : Nat) : Read (List Node) :=
  match depth with
  | 0 => failure
  | depth + 1 => do
      match ← next? with
      | some .blockEntry => do
          skip
          let item ← readUnless depth .inBlock [.blockEntry, .blockEnd]
          return item :: (← blockItems depth)
      | some .blockEnd => do
          skip
          return []
      | _ => failure

/-- The items of a sequence that has no block of its own. -/
def plainItems (depth : Nat) : Read (List Node) :=
  match depth with
  | 0 => failure
  | depth + 1 => do
      match ← next? with
      | some .blockEntry => do
          skip
          let item ← readUnless depth .inBlock [.blockEntry, .key, .value, .blockEnd]
          return item :: (← plainItems depth)
      | _ => return []

def blockEntries (depth : Nat) : Read (List (Node × Node)) :=
  match depth with
  | 0 => failure
  | depth + 1 => do
      match ← next? with
      | some .key => do
          skip
          let key ← readUnless depth .inEntry [.key, .value, .blockEnd]
          let value ← readValue depth .inEntry [.key, .value, .blockEnd]
          return (key, value) :: (← blockEntries depth)
      | some .blockEnd => do
          skip
          return []
      | _ => failure

/-- What follows a colon, or the empty node where there is none. -/
def readValue (depth : Nat) (place : Place) (ends : List Token) : Read Node :=
  match depth with
  | 0 => failure
  | depth + 1 => do
      if (← next?) = some .value then
        skip
        readUnless depth place ends
      else return .empty

/-- The items of a flow sequence. An item may be a mapping with a single entry. -/
def flowItems (depth : Nat) (isFirst : Bool) : Read (List Node) :=
  match depth with
  | 0 => failure
  | depth + 1 => do
      if (← next?) = some .flowSequenceEnd then
        skip
        return []
      if !isFirst then expect .flowEntry
      match ← next? with
      | some .flowSequenceEnd => do
          skip
          return []
      | some .key => do
          skip
          let item ← singleEntry depth
          return item :: (← flowItems depth false)
      | _ => do
          let item ← read depth .inFlow
          return item :: (← flowItems depth false)

/-- A mapping with a single entry. Where its key is left out, so is the token that follows. -/
def singleEntry (depth : Nat) : Read Node :=
  match depth with
  | 0 => failure
  | depth + 1 => do
      let key ←
        if ← nextIsOneOf [.value, .flowEntry, .flowSequenceEnd] then do
          skip
          pure Node.empty
        else read depth .inFlow
      let value ← readValue depth .inFlow [.flowEntry, .flowSequenceEnd]
      return .mapping {} [(key, value)]

def flowEntries (depth : Nat) (isFirst : Bool) : Read (List (Node × Node)) :=
  match depth with
  | 0 => failure
  | depth + 1 => do
      if (← next?) = some .flowMappingEnd then
        skip
        return []
      if !isFirst then expect .flowEntry
      match ← next? with
      | some .flowMappingEnd => do
          skip
          return []
      | some .key => do
          skip
          let key ← readUnless depth .inFlow [.value, .flowEntry, .flowMappingEnd]
          let value ← readValue depth .inFlow [.flowEntry, .flowMappingEnd]
          return (key, value) :: (← flowEntries depth false)
      | _ => do
          let key ← read depth .inFlow
          return (key, .empty) :: (← flowEntries depth false)

end

/-- What the handles stand for that no directive declares. -/
def defaultHandles : List (String × String) :=
  [("!", "!"), ("!!", "tag:yaml.org,2002:")]

/-- Read the directives of a document: the handles that they declare, and the tokens after them.
There may be one version, 1.1 or 1.2, and one declaration of a handle. -/
def directives? (versioned : Bool) (handles : List (String × String)) :
    List Token → Option (List (String × String) × List Token)
  | .versionDirective major minor :: rest =>
      if !versioned && major = 1 && (minor = 1 || minor = 2) then directives? true handles rest
      else none
  | .tagDirective handle meaning :: rest =>
      if (handles.lookup handle).isSome then none
      else directives? versioned ((handle, meaning) :: handles) rest
  | rest => some (handles, rest)

/-- Whether a document without a node ends or another one begins here. -/
def endsDocument : List Token → Bool
  | [] | .versionDirective .. :: _ | .tagDirective .. :: _ | .documentStart :: _
  | .documentEnd :: _ => true
  | _ => false

/-- The node of a document, and the tokens after it. -/
def ofDocument? (handles : List (String × String)) (tokens : List Token) :
    Option (Node × List Token) := do
  let depth := 3 * tokens.length + 3
  let (node, source) ← (read depth .inBlock).run { tokens, handles := handles ++ defaultHandles }
  return (node, source.tokens)

/-- The node of the only document that the tokens hold, `none` inside when they hold no document. -/
def ofTokens? (tokens : List Token) : Option (Option Node) := do
  match tokens with
  | [] => return none
  | first :: _ =>
      let (node, rest) ←
        if first = .documentEnd || !endsDocument tokens then ofDocument? [] tokens
        else do
          let (handles, rest) ← directives? false [] tokens
          if rest.head? ≠ some .documentStart then none
          else if endsDocument rest.tail then some (.empty, rest.tail)
          else ofDocument? handles rest.tail
      if (rest.dropWhile (· = .documentEnd)).isEmpty then return some node
      none

end Node

end ProviderCodegen.Yaml
