import ProviderCodegen.Proofs.Schema.Tree

/-! # Places in a schema

What is generated for a node can depend on the nodes around it. A place is a node together with
these. `ResourceSchema.places` lists the places of a schema in the order of `nodes`, and has exactly
those that can be reached from the top by going from a node to one of its children (`Reaches`).
-/

namespace ProviderCodegen.Schema

/-- A node under its name, and the nodes around it from the outermost on. -/
structure Place where
  around : List (String × Node)
  name : String
  node : Node

/-- The node without what is around it. -/
def Place.entry (place : Place) : String × Node :=
  (place.name, place.node)

namespace Attribute

mutual

/-- The places inside an attribute, given what is around its children. -/
def places (around : List (String × Node)) : Attribute → List Place
  | nested _ _ _ attributes _ => placesAll around attributes
  | singleNested _ attributes _ _ => placesAll around attributes
  | _ => []

/-- The places of attributes in their order, each before those inside it. -/
def placesAll (around : List (String × Node)) : List (String × Attribute) → List Place
  | [] => []
  | (name, first) :: rest =>
      ⟨around, name, .attr first⟩ :: first.places (around ++ [(name, .attr first)]) ++
        placesAll around rest

end

/-- The place of a node comes before the places inside it, which have the node around them. -/
theorem placesAll_eq (around : List (String × Node)) (attributes : List (String × Attribute)) :
    placesAll around attributes =
      attributes.flatMap fun (name, node) =>
        ⟨around, name, .attr node⟩ :: node.places (around ++ [(name, .attr node)]) := by
  induction attributes with
  | nil => rfl
  | cons entry rest ih => rw [placesAll, ih, List.flatMap_cons]

end Attribute

namespace Block

mutual

/-- The places inside a block, attributes first, given what is around its children. -/
def places (around : List (String × Node)) : Block → List Place
  | nested _ _ _ attributes blocks =>
      Attribute.placesAll around attributes ++ placesAll around blocks
  | singleNested _ attributes blocks _ =>
      Attribute.placesAll around attributes ++ placesAll around blocks

/-- The places of blocks in their order, each before those inside it. -/
def placesAll (around : List (String × Node)) : List (String × Block) → List Place
  | [] => []
  | (name, first) :: rest =>
      ⟨around, name, .block first⟩ :: first.places (around ++ [(name, .block first)]) ++
        placesAll around rest

end

theorem placesAll_eq (around : List (String × Node)) (blocks : List (String × Block)) :
    placesAll around blocks =
      blocks.flatMap fun (name, node) =>
        ⟨around, name, .block node⟩ :: node.places (around ++ [(name, .block node)]) := by
  induction blocks with
  | nil => rfl
  | cons entry rest ih => rw [placesAll, ih, List.flatMap_cons]

end Block

namespace Node

/-- The places inside a node, given what is around its children. -/
def places (around : List (String × Node)) : Node → List Place
  | attr node => node.places around
  | block node => node.places around

/-- The place of a named node and those inside it. -/
def placesFrom (around : List (String × Node)) (entry : String × Node) : List Place :=
  ⟨around, entry.1, entry.2⟩ :: entry.2.places (around ++ [entry])

end Node

/-- The places of named nodes, attributes first. -/
theorem placesAll_append_placesAll (around : List (String × Node)) (attributes : Attributes)
    (blocks : Blocks) :
    Attribute.placesAll around attributes ++ Block.placesAll around blocks =
      (namedNodes attributes blocks).flatMap (Node.placesFrom around) := by
  rw [Attribute.placesAll_eq, Block.placesAll_eq, namedNodes, List.flatMap_append,
    List.flatMap_map, List.flatMap_map]
  rfl

/-- The places inside a node are those of its children. -/
theorem Node.places_eq (around : List (String × Node)) (node : Node) :
    node.places around = node.children.flatMap (Node.placesFrom around) := by
  rw [Node.children, ← placesAll_append_placesAll]
  cases node with
  | attr node => cases node <;> simp only [Node.places, Attribute.places, Node.attributes,
      Node.blocks, Attribute.attributes?, Option.getD, Attribute.placesAll, Block.placesAll,
      List.append_nil]
  | block node => cases node <;> rfl

private theorem map_entry_places (node : Node) :
    ∀ around, (node.places around).map Place.entry = node.inside := by
  induction node with
  | step node ih =>
    intro around
    rw [Node.places_eq, Node.inside_eq, List.map_flatMap]
    refine List.flatMap_congr fun child isChild => ?_
    exact congrArg (child :: ·) (ih child isChild _)

/-- What is around a node is around all places inside it. -/
theorem isPrefix_of_mem_placesFrom {node : Node} :
    ∀ {around : List (String × Node)} {name : String},
      ∀ place ∈ Node.placesFrom around (name, node), around <+: place.around := by
  induction node with
  | step node ih =>
    intro around name place member
    rcases List.mem_cons.mp member with rfl | inside
    · exact List.prefix_rfl
    · rw [Node.places_eq] at inside
      obtain ⟨child, isChild, inside⟩ := List.mem_flatMap.mp inside
      exact (List.prefix_append _ _).trans (ih child isChild place inside)

namespace ResourceSchema

/-- The places of a schema, attributes first, each before those inside it. -/
def places (schema : ResourceSchema) : List Place :=
  Attribute.placesAll [] schema.attributes ++ Block.placesAll [] schema.blocks

/-- Whether a node is found under some nodes by going down from the top of a schema. -/
inductive Reaches (schema : ResourceSchema) : List (String × Node) → String × Node → Prop
  | top {entry : String × Node} (isTop : entry ∈ schema.children) : Reaches schema [] entry
  | child {around : List (String × Node)} {parent child : String × Node}
      (reached : Reaches schema around parent) (isChild : child ∈ parent.2.children) :
      Reaches schema (around ++ [parent]) child

/-- On the top level nothing is around a place. -/
theorem places_eq (schema : ResourceSchema) :
    schema.places = schema.children.flatMap (Node.placesFrom []) :=
  placesAll_append_placesAll [] _ _

/-- The places are all nodes in their order. -/
theorem map_entry_places (schema : ResourceSchema) :
    schema.places.map Place.entry = schema.nodes := by
  rw [places_eq, nodes_eq, List.map_flatMap]
  exact List.flatMap_congr fun entry _ => congrArg (entry :: ·) (Schema.map_entry_places entry.2 _)

variable {schema : ResourceSchema}

private theorem reaches_of_mem_placesFrom {node : Node} :
    ∀ {around : List (String × Node)} {name : String}, schema.Reaches around (name, node) →
      ∀ place ∈ Node.placesFrom around (name, node), schema.Reaches place.around place.entry := by
  induction node with
  | step node ih =>
    intro around name reached place member
    rcases List.mem_cons.mp member with rfl | inside
    · exact reached
    · rw [Node.places_eq] at inside
      obtain ⟨child, isChild, inside⟩ := List.mem_flatMap.mp inside
      exact ih child isChild (reached.child isChild) place inside

/-- The children of a place among the places from a node are among them too. -/
private theorem mem_placesFrom_of_child {node : Node} :
    ∀ {around : List (String × Node)} {name : String} {place : Place} {child : String × Node},
      place ∈ Node.placesFrom around (name, node) → child ∈ place.node.children →
        ⟨place.around ++ [place.entry], child.1, child.2⟩ ∈ Node.placesFrom around (name, node) := by
  induction node with
  | step node ih =>
    intro around name place child member isChild
    refine List.mem_cons_of_mem _ ?_
    rw [Node.places_eq]
    rcases List.mem_cons.mp member with rfl | inside
    · exact List.mem_flatMap.mpr ⟨child, isChild, List.mem_cons_self ..⟩
    · rw [Node.places_eq] at inside
      obtain ⟨next, isNext, inside⟩ := List.mem_flatMap.mp inside
      exact List.mem_flatMap.mpr ⟨next, isNext, ih next isNext inside isChild⟩

/-- The children of a place of a schema have places in the schema. -/
theorem mem_places_of_child {place : Place} {child : String × Node}
    (member : place ∈ schema.places) (isChild : child ∈ place.node.children) :
    ⟨place.around ++ [place.entry], child.1, child.2⟩ ∈ schema.places := by
  rw [places_eq] at member ⊢
  obtain ⟨top, isTop, inside⟩ := List.mem_flatMap.mp member
  exact List.mem_flatMap.mpr ⟨top, isTop, mem_placesFrom_of_child inside isChild⟩

/-- The places of a schema are those that are reached from its top. -/
theorem mem_places_iff {place : Place} :
    place ∈ schema.places ↔ schema.Reaches place.around place.entry := by
  constructor
  · intro member
    rw [places_eq] at member
    obtain ⟨top, isTop, inside⟩ := List.mem_flatMap.mp member
    exact reaches_of_mem_placesFrom (.top isTop) place inside
  · obtain ⟨around, name, node⟩ := place
    intro reached
    have general {around : List (String × Node)} {entry : String × Node}
        (reached : schema.Reaches around entry) : ⟨around, entry.1, entry.2⟩ ∈ schema.places := by
      induction reached with
      | top isTop =>
        rw [places_eq]
        exact List.mem_flatMap.mpr ⟨_, isTop, List.mem_cons_self ..⟩
      | child _ isChild ih => exact mem_places_of_child ih isChild
    exact general reached

end ResourceSchema

end ProviderCodegen.Schema
