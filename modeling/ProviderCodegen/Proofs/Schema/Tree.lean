import Mathlib.Data.List.Basic
import ProviderCodegen.Schema.Resource

/-! # The tree of a schema

Attributes and blocks as nodes of one tree, whose children are the attributes inside, then the
blocks inside. `ResourceSchema.nodes` lists all nodes, each before its children. Facts about all
nodes of a schema follow from what holds at the top and passes from a node to its children
(`forall_nodes`), and a node is found by following children from the top (`exists_node`); facts
about one node and everything inside follow by `Node.induction`.
-/

namespace ProviderCodegen.Schema

/-- An attribute or a block. -/
inductive Node
  | attr (node : Attribute)
  | block (node : Block)

/-- Attributes, then blocks, each under its name. -/
def namedNodes (attributes : Attributes) (blocks : Blocks) : List (String × Node) :=
  attributes.map (fun (name, node) => (name, .attr node)) ++
    blocks.map fun (name, node) => (name, .block node)

theorem mem_namedNodes {attributes : Attributes} {blocks : Blocks} {entry : String × Node} :
    entry ∈ namedNodes attributes blocks ↔
      (∃ inside ∈ attributes, entry = (inside.1, .attr inside.2)) ∨
        ∃ inside ∈ blocks, entry = (inside.1, .block inside.2) := by
  simp only [namedNodes, List.mem_append, List.mem_map, eq_comm]

namespace Node

def attributes : Node → Attributes
  | attr node => node.attributes?.getD []
  | block node => node.attributes

def blocks : Node → Blocks
  | attr _ => []
  | block node => node.blocks

/-- What is directly inside, under the names there. -/
def children (node : Node) : List (String × Node) :=
  namedNodes node.attributes node.blocks

end Node

namespace Attribute

mutual

/-- All nodes inside an attribute, each before those inside it. -/
def inside : Attribute → List (String × Node)
  | nested _ _ _ attributes _ => listed attributes
  | singleNested _ attributes _ _ => listed attributes
  | _ => []

/-- Attributes in their order, each before the nodes inside it. -/
def listed : List (String × Attribute) → List (String × Node)
  | [] => []
  | (name, first) :: rest => (name, .attr first) :: first.inside ++ listed rest

end

theorem listed_eq (attributes : List (String × Attribute)) :
    listed attributes =
      attributes.flatMap fun (name, node) => (name, Node.attr node) :: node.inside := by
  induction attributes with
  | nil => rfl
  | cons entry rest ih => rw [listed, ih, List.flatMap_cons]

mutual

private theorem induction_of_children {motive : Node → Prop}
    (step : ∀ node, (∀ child ∈ node.children, motive child.2) → motive node) :
    ∀ node : Attribute, motive (.attr node)
  | primitive kind facets default => step _ fun _ member => absurd member List.not_mem_nil
  | collection kind facets element default => step _ fun _ member => absurd member List.not_mem_nil
  | nested kind facets item attributes default => step _ fun child member => by
      obtain ⟨entry, listed, rfl⟩ | ⟨entry, listed, -⟩ := mem_namedNodes.mp member
      · exact induction_of_listed step attributes entry listed
      · exact absurd listed List.not_mem_nil
  | singleNested facets attributes external default => step _ fun child member => by
      obtain ⟨entry, listed, rfl⟩ | ⟨entry, listed, -⟩ := mem_namedNodes.mp member
      · exact induction_of_listed step attributes entry listed
      · exact absurd listed List.not_mem_nil
  | object facets fields external default => step _ fun _ member => absurd member List.not_mem_nil

private theorem induction_of_listed {motive : Node → Prop}
    (step : ∀ node, (∀ child ∈ node.children, motive child.2) → motive node) :
    ∀ attributes : List (String × Attribute), ∀ entry ∈ attributes, motive (.attr entry.2)
  | [], _, member => absurd member List.not_mem_nil
  | (name, first) :: rest, entry, member => by
      rcases List.mem_cons.mp member with rfl | member
      · exact induction_of_children step first
      · exact induction_of_listed step rest entry member

end

end Attribute

namespace Block

mutual

/-- All nodes inside a block, attributes first, each before those inside it. -/
def inside : Block → List (String × Node)
  | nested _ _ _ attributes blocks => Attribute.listed attributes ++ listed blocks
  | singleNested _ attributes blocks _ => Attribute.listed attributes ++ listed blocks

/-- Blocks in their order, each before the nodes inside it. -/
def listed : List (String × Block) → List (String × Node)
  | [] => []
  | (name, first) :: rest => (name, .block first) :: first.inside ++ listed rest

end

theorem listed_eq (blocks : List (String × Block)) :
    listed blocks =
      blocks.flatMap fun (name, node) => (name, Node.block node) :: node.inside := by
  induction blocks with
  | nil => rfl
  | cons entry rest ih => rw [listed, ih, List.flatMap_cons]

mutual

private theorem induction_of_children {motive : Node → Prop}
    (step : ∀ node, (∀ child ∈ node.children, motive child.2) → motive node) :
    ∀ node : Block, motive (.block node)
  | nested kind facets item attributes blocks => step _ fun child member => by
      obtain ⟨entry, -, rfl⟩ | ⟨entry, listed, rfl⟩ := mem_namedNodes.mp member
      · exact Attribute.induction_of_children step entry.2
      · exact induction_of_listed step blocks entry listed
  | singleNested facets attributes blocks external => step _ fun child member => by
      obtain ⟨entry, -, rfl⟩ | ⟨entry, listed, rfl⟩ := mem_namedNodes.mp member
      · exact Attribute.induction_of_children step entry.2
      · exact induction_of_listed step blocks entry listed

private theorem induction_of_listed {motive : Node → Prop}
    (step : ∀ node, (∀ child ∈ node.children, motive child.2) → motive node) :
    ∀ blocks : List (String × Block), ∀ entry ∈ blocks, motive (.block entry.2)
  | [], _, member => absurd member List.not_mem_nil
  | (name, first) :: rest, entry, member => by
      rcases List.mem_cons.mp member with rfl | member
      · exact induction_of_children step first
      · exact induction_of_listed step rest entry member

end

end Block

namespace Node

/-- What passes from all children of a node to the node itself holds of every node. -/
@[elab_as_elim, induction_eliminator]
theorem induction {motive : Node → Prop}
    (step : ∀ node, (∀ child ∈ node.children, motive child.2) → motive node) (node : Node) :
    motive node :=
  match node with
  | attr node => Attribute.induction_of_children step node
  | block node => Block.induction_of_children step node

/-- All nodes inside, each before those inside it. -/
def inside : Node → List (String × Node)
  | attr node => node.inside
  | block node => node.inside

end Node

/-- Attributes come before blocks, each with all that is inside it. -/
theorem listed_append_listed (attributes : Attributes) (blocks : Blocks) :
    Attribute.listed attributes ++ Block.listed blocks =
      (namedNodes attributes blocks).flatMap fun entry => entry :: entry.2.inside := by
  rw [Attribute.listed_eq, Block.listed_eq, namedNodes, List.flatMap_append, List.flatMap_map,
    List.flatMap_map]
  rfl

/-- The nodes inside are the children, each followed by the nodes inside it. -/
theorem Node.inside_eq (node : Node) :
    node.inside = node.children.flatMap fun entry => entry :: entry.2.inside := by
  rw [Node.children, ← listed_append_listed]
  cases node with
  | attr node => cases node <;> simp only [Node.inside, Attribute.inside, Node.attributes, Node.blocks,
      Attribute.attributes?, Option.getD, Attribute.listed, Block.listed, List.append_nil]
  | block node => cases node <;> rfl

/-- What is listed for the nodes inside is listed for the children, each followed by what is inside. -/
theorem Node.flatMap_inside {α : Type} (list : String × Node → List α) (node : Node) :
    node.inside.flatMap list =
      node.children.flatMap fun entry => list entry ++ entry.2.inside.flatMap list := by
  rw [Node.inside_eq, List.flatMap_assoc]
  rfl

namespace ResourceSchema

/-- What is at the top of a schema, attributes first. -/
def children (schema : ResourceSchema) : List (String × Node) :=
  namedNodes schema.attributes schema.blocks

/-- All nodes of a schema under their names: attributes first, each node before its children. -/
def nodes (schema : ResourceSchema) : List (String × Node) :=
  Attribute.listed schema.attributes ++ Block.listed schema.blocks

variable {schema : ResourceSchema}

theorem nodes_eq (schema : ResourceSchema) :
    schema.nodes = schema.children.flatMap fun entry => entry :: entry.2.inside :=
  listed_append_listed _ _

/-- To go through all nodes is to go through each child and then what is inside it. -/
theorem flatMap_nodes {α : Type} (list : String × Node → List α) (schema : ResourceSchema) :
    schema.nodes.flatMap list =
      schema.children.flatMap fun entry => list entry ++ entry.2.inside.flatMap list := by
  rw [nodes_eq, List.flatMap_assoc]
  rfl

theorem mem_nodes_of_top {entry : String × Node} (top : entry ∈ schema.children) :
    entry ∈ schema.nodes := by
  rw [nodes_eq]
  exact List.mem_flatMap.mpr ⟨entry, top, List.mem_cons_self ..⟩

private theorem mem_inside_of_child {node : Node} :
    ∀ {entry child : String × Node}, entry ∈ node.inside → child ∈ entry.2.children →
      child ∈ node.inside := by
  induction node with
  | step node ih =>
    intro entry child member inside
    rw [Node.inside_eq] at member ⊢
    obtain ⟨top, isTop, member⟩ := List.mem_flatMap.mp member
    refine List.mem_flatMap.mpr ⟨top, isTop, List.mem_cons_of_mem _ ?_⟩
    rcases List.mem_cons.mp member with rfl | member
    · rw [Node.inside_eq]
      exact List.mem_flatMap.mpr ⟨child, inside, List.mem_cons_self ..⟩
    · exact ih top isTop member inside

/-- The children of nodes of a schema are nodes of the schema. -/
theorem mem_nodes_of_child {entry child : String × Node} (member : entry ∈ schema.nodes)
    (inside : child ∈ entry.2.children) : child ∈ schema.nodes := by
  rw [nodes_eq] at member ⊢
  obtain ⟨top, isTop, member⟩ := List.mem_flatMap.mp member
  refine List.mem_flatMap.mpr ⟨top, isTop, List.mem_cons_of_mem _ ?_⟩
  rcases List.mem_cons.mp member with rfl | member
  · rw [Node.inside_eq]
    exact List.mem_flatMap.mpr ⟨child, inside, List.mem_cons_self ..⟩
  · exact mem_inside_of_child member inside

private theorem forall_inside {motive : String → Node → Prop}
    (step : ∀ name node, motive name node → ∀ child ∈ node.children, motive child.1 child.2)
    {node : Node} :
    ∀ {name : String}, motive name node → ∀ entry ∈ node.inside, motive entry.1 entry.2 := by
  induction node with
  | step node ih =>
    intro name holds entry member
    rw [Node.inside_eq] at member
    obtain ⟨child, inside, member⟩ := List.mem_flatMap.mp member
    have passed := step name node holds child inside
    rcases List.mem_cons.mp member with rfl | member
    · exact passed
    · exact ih child inside passed entry member

/-- What holds at the top of a schema and passes from a node to its children holds of all nodes. -/
theorem forall_nodes {motive : String → Node → Prop}
    (top : ∀ entry ∈ schema.children, motive entry.1 entry.2)
    (step : ∀ name node, motive name node → ∀ child ∈ node.children, motive child.1 child.2) :
    ∀ entry ∈ schema.nodes, motive entry.1 entry.2 := by
  intro entry member
  rw [nodes_eq] at member
  obtain ⟨first, isTop, member⟩ := List.mem_flatMap.mp member
  rcases List.mem_cons.mp member with rfl | member
  · exact top _ isTop
  · exact forall_inside step (top _ isTop) entry member

private theorem exists_inside {motive own : String → Node → Prop}
    (step : ∀ name node, motive name node →
      own name node ∨ ∃ child ∈ node.children, motive child.1 child.2) {node : Node} :
    ∀ {name : String}, motive name node →
      ∃ entry ∈ (name, node) :: node.inside, own entry.1 entry.2 := by
  induction node with
  | step node ih =>
    intro name holds
    rcases step name node holds with here | ⟨child, isChild, below⟩
    · exact ⟨_, List.mem_cons_self .., here⟩
    · obtain ⟨entry, listed, found⟩ := ih child isChild below
      refine ⟨entry, List.mem_cons_of_mem _ ?_, found⟩
      rw [Node.inside_eq]
      exact List.mem_flatMap.mpr ⟨child, isChild, listed⟩

/-- What holds at the top of a schema, and of a node only by itself or through a child, holds of
some node by itself. -/
theorem exists_node {motive own : String → Node → Prop}
    (step : ∀ name node, motive name node →
      own name node ∨ ∃ child ∈ node.children, motive child.1 child.2)
    {top : String × Node} (isTop : top ∈ schema.children) (holds : motive top.1 top.2) :
    ∃ entry ∈ schema.nodes, own entry.1 entry.2 := by
  obtain ⟨entry, listed, found⟩ := exists_inside step holds
  refine ⟨entry, ?_, found⟩
  rw [nodes_eq]
  exact List.mem_flatMap.mpr ⟨top, isTop, listed⟩

end ResourceSchema

end ProviderCodegen.Schema
