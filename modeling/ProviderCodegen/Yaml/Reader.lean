import ProviderCodegen.Yaml.Lexer
import ProviderCodegen.Yaml.Node

/-! # Reading YAML

References are replaced by the nodes that they name. What is nested too deep is `unreadable`, and so
is a reference after too many others; this bounds what a short text can stand for, also when a node
contains a reference to itself.
-/

namespace ProviderCodegen.Yaml

namespace Node

mutual

/-- The number of scalars, references, and starts and ends of collections in a node. -/
def size : Node → Nat
  | .reference _ => 1
  | .scalar .. => 1
  | .sequence _ items => itemsSize items + 2
  | .mapping _ entries => entriesSize entries + 2

def itemsSize : List Node → Nat
  | [] => 0
  | item :: rest => item.size + itemsSize rest

/-- The size of all keys and values. -/
def entriesSize : List (Node × Node) → Nat
  | [] => 0
  | (key, value) :: rest => key.size + value.size + entriesSize rest

end

/-- The node with its number, if it has one. -/
def named (node : Node) (properties : Properties) : List (Nat × Node) :=
  properties.anchor.toList.map fun number => (number, node)

mutual

/-- The nodes that have numbers, in the order of the text. -/
def anchored : Node → List (Nat × Node)
  | .reference _ => []
  | .scalar properties form text => (Node.scalar properties form text).named properties
  | .sequence properties items =>
      (Node.sequence properties items).named properties ++ itemsAnchored items
  | .mapping properties entries =>
      (Node.mapping properties entries).named properties ++ entriesAnchored entries

/-- The nodes among items that have numbers. -/
def itemsAnchored : List Node → List (Nat × Node)
  | [] => []
  | item :: rest => item.anchored ++ itemsAnchored rest

/-- The nodes among keys and values that have numbers. -/
def entriesAnchored : List (Node × Node) → List (Nat × Node)
  | [] => []
  | (key, value) :: rest => key.anchored ++ (value.anchored ++ entriesAnchored rest)

end

end Node

/-- Collections may be nested this deep. -/
def depthLimit : Nat := 128

/-- As many references are replaced for each part of a document. -/
def referencesPerPart : Nat := 100

def withTag (properties : Properties) (content : Datum) : Datum :=
  properties.tag.elim content (.tagged · content)

/-- The node that a reference stands for, while references may be replaced. -/
def follow (targets : List (Nat × Node)) : Node → StateM Nat (Option Node)
  | .reference number => do
      let left ← get
      if left = 0 then return none
      set (left - 1)
      return targets.lookup number
  | node => return some node

/-- The datum of a part of a collection; `expandNode` gives that of a node. -/
def expandPart (targets : List (Nat × Node)) (expandNode : Node → StateM Nat Datum) (node : Node) :
    StateM Nat Datum := do
  match ← follow targets node with
  | some node => expandNode node
  | none => return .unreadable

/-- The datum of a node with collections nested as deep as `depth` says. The state is the number of
references that may still be replaced. -/
def expand (targets : List (Nat × Node)) : Nat → Node → StateM Nat Datum
  | _, .reference _ => return .unreadable
  | _, .scalar properties form text => return withTag properties (.text form text)
  | 0, _ => return .unreadable
  | depth + 1, .sequence properties items => do
      let expanded ← items.mapM (expandPart targets (expand targets depth))
      return withTag properties (.list .sequence expanded)
  | depth + 1, .mapping properties entries => do
      let expanded ← entries.mapM fun (key, value) => do
        let key ← expandPart targets (expand targets depth) key
        return (key, ← expandPart targets (expand targets depth) value)
      return withTag properties (.map expanded)

def Node.toDatum (root : Node) : Datum :=
  ((expand root.anchored.reverse depthLimit root).run (referencesPerPart * root.size)).1

/-- The datum that a YAML text holds, `none` for what is no YAML text with one document. A text
without documents holds an empty plain scalar. -/
def read? (text : String) : Option Datum := do
  let root ← Node.ofTokens? (← tokens? text)
  return root.elim (.text .plain "") Node.toDatum

end ProviderCodegen.Yaml
