import ProviderCodegen.Proofs.Schema.Build

/-! # The generated types of a schema

A type is generated for exactly those nodes that hold a single object or an object in a collection
without a custom type, and for objects of typed fields that convert to an external type and have no
custom type. The types are generated in the order of `nodes`, also below nodes with custom types.
-/

namespace ProviderCodegen.Schema

namespace Node

/-- Whether a type and a value type are generated for a node. -/
def generatesType : Node → Bool
  | attr (.primitive _ _ _) => false
  | attr (.collection _ _ _ _) => false
  | attr (.nested _ _ item _ _) => item.customType.isNone
  | attr (.singleNested facets _ _ _) => facets.customType.isNone
  | attr (.object facets _ external _) => external.isSome && facets.customType.isNone
  | block (.nested _ _ item _ _) => item.customType.isNone
  | block (.singleNested facets _ _ _) => facets.customType.isNone

def declaration (name : String) : Node → String
  | attr node => node.declaration name
  | block node => node.declaration name

/-- The type of a node among the field types of the object around it. -/
def attrType (name : String) : Node → String
  | attr node => node.attrType name
  | block node => node.attrType name

/-- The type of a node as a field of the value type of the object around it. -/
def valueType (name : String) : Node → String
  | attr node => node.valueType name
  | block node => node.valueType name

def modelField (name : String) : Node → ModelField
  | attr node => node.modelField name
  | block node => node.modelField name

/-- The field of a node in the value type of the object around it. -/
def valueField (name : String) (node : Node) : ValueField where
  name
  attrType := node.attrType name
  valueType := node.valueType name

/-- The fields of the value type of a node: its typed fields, or what is inside. -/
def valueFields : Node → List ValueField
  | attr (.object _ fields _ _) => Fields.valueFields fields
  | node => node.children.map fun entry => entry.2.valueField entry.1

/-- The type generated for a node, if there is one. -/
def generatedType (name : String) (node : Node) : List ValueType :=
  if node.generatesType then [{ name, fields := node.valueFields }] else []

/-- The types generated for a node and the nodes inside. -/
def valueTypes (name : String) : Node → List ValueType
  | attr node => node.valueTypes name
  | block node => node.valueTypes name

end Node

/-- The model has a field for each node at the top. -/
theorem ResourceSchema.modelFields_eq (schema : ResourceSchema) :
    schema.modelFields = schema.children.map fun entry => entry.2.modelField entry.1 := by
  rw [modelFields, Attributes.modelFields, Blocks.modelFields, children, namedNodes,
    List.map_append, List.map_map, List.map_map]
  rfl

/-! ## Which types are generated -/

theorem Attribute.valueTypesAll_eq (attributes : List (String × Attribute)) :
    Attribute.valueTypesAll attributes =
      attributes.flatMap fun (name, node) => node.valueTypes name := by
  induction attributes with
  | nil => rfl
  | cons entry rest ih => rw [valueTypesAll, ih, List.flatMap_cons]

theorem Block.valueTypesAll_eq (blocks : List (String × Block)) :
    Block.valueTypesAll blocks = blocks.flatMap fun (name, node) => node.valueTypes name := by
  induction blocks with
  | nil => rfl
  | cons entry rest ih => rw [valueTypesAll, ih, List.flatMap_cons]

/-- The types of named nodes, attributes first. -/
theorem valueTypes_namedNodes (attributes : Attributes) (blocks : Blocks) :
    Attributes.valueTypes attributes ++ Blocks.valueTypes blocks =
      (namedNodes attributes blocks).flatMap fun entry => entry.2.valueTypes entry.1 := by
  rw [Attributes.valueTypes, Blocks.valueTypes, Attribute.valueTypesAll_eq, Block.valueTypesAll_eq,
    namedNodes, List.flatMap_append, List.flatMap_map, List.flatMap_map]
  rfl

/-- The fields of named nodes, attributes first. -/
theorem valueFields_namedNodes (attributes : Attributes) (blocks : Blocks) :
    Attributes.valueFields attributes ++ Blocks.valueFields blocks =
      (namedNodes attributes blocks).map fun entry => entry.2.valueField entry.1 := by
  rw [Attributes.valueFields, Blocks.valueFields, namedNodes, List.map_append, List.map_map,
    List.map_map]
  rfl

private theorem valueFields_attributes (attributes : Attributes) :
    Attributes.valueFields attributes =
      (namedNodes attributes []).map fun entry => entry.2.valueField entry.1 :=
  (List.append_nil _).symm.trans (valueFields_namedNodes attributes [])

/-- An object with a custom type brings its own, so none is generated for it. -/
theorem ObjectFacets.generated_eq (object : ObjectFacets) (name : String)
    (fields : List ValueField) :
    object.generated name fields = if object.customType.isNone then [{ name, fields }] else [] := by
  unfold generated
  cases object.customType <;> rfl

/-- A node's own type, if there is one, comes before the types of its children. -/
theorem Node.valueTypes_eq (name : String) (node : Node) :
    node.valueTypes name =
      node.generatedType name ++ node.children.flatMap fun entry => entry.2.valueTypes entry.1 := by
  rw [Node.children, ← valueTypes_namedNodes]
  cases node with
  | block node =>
    cases node <;>
      simp only [Node.valueTypes, Block.valueTypes, ObjectFacets.generated_eq, generatedType,
        generatesType, valueFields, children, attributes, blocks, Block.attributes, Block.blocks,
        valueFields_namedNodes, Blocks.valueTypes, ObjectFacets.single, List.append_assoc] <;>
      rfl
  | attr node =>
    cases node with
    | primitive kind facets default => rfl
    | collection kind facets element default => rfl
    | nested kind facets item attributes default =>
      simp only [Node.valueTypes, Attribute.valueTypes, ObjectFacets.generated_eq, generatedType,
        generatesType, valueFields, children, Node.attributes, Attribute.attributes?,
        Option.getD_some, blocks, valueFields_attributes, Attributes.valueTypes, Blocks.valueTypes,
        Block.valueTypesAll, List.append_nil]
      rfl
    | singleNested facets attributes external default =>
      simp only [Node.valueTypes, Attribute.valueTypes, ObjectFacets.generated_eq, generatedType,
        generatesType, valueFields, children, Node.attributes, Attribute.attributes?,
        Option.getD_some, blocks, valueFields_attributes, Attributes.valueTypes, Blocks.valueTypes,
        Block.valueTypesAll, List.append_nil, ObjectFacets.single]
      rfl
    | object facets fields external default =>
      simp only [Node.valueTypes, Attribute.valueTypes, ObjectFacets.generated_eq, generatedType,
        generatesType, valueFields, ObjectFacets.single, Node.attributes, Attribute.attributes?,
        Option.getD_none, blocks, Attributes.valueTypes, Attribute.valueTypesAll, Blocks.valueTypes,
        Block.valueTypesAll, List.append_nil]
      cases external <;> rfl

private theorem valueTypes_eq_flatMap (node : Node) :
    ∀ name, node.valueTypes name =
      ((name, node) :: node.inside).flatMap fun entry => entry.2.generatedType entry.1 := by
  induction node with
  | step node ih =>
    intro name
    rw [Node.valueTypes_eq, List.flatMap_cons, Node.inside_eq, List.flatMap_assoc]
    congr 1
    exact List.flatMap_congr fun entry member => ih entry member entry.1

/-- The generated types are those of the nodes that have one, in the order of the nodes. -/
theorem ResourceSchema.valueTypes_eq (schema : ResourceSchema) :
    schema.valueTypes =
      (schema.nodes.filter (·.2.generatesType)).map fun (name, node) =>
        { name, fields := node.valueFields } := by
  have selected : schema.valueTypes =
      schema.nodes.flatMap fun entry => entry.2.generatedType entry.1 := by
    rw [ResourceSchema.valueTypes, valueTypes_namedNodes, nodes_eq, List.flatMap_assoc]
    exact List.flatMap_congr fun entry _ => valueTypes_eq_flatMap entry.2 entry.1
  rw [selected]
  induction schema.nodes with
  | nil => rfl
  | cons entry rest ih =>
    rw [List.flatMap_cons, List.filter_cons, ih]
    cases generated : entry.2.generatesType <;>
      simp only [Node.generatedType, generated, if_true, Bool.false_eq_true, if_false,
        List.nil_append, List.map_cons, List.singleton_append]

end ProviderCodegen.Schema
