import ProviderCodegen.Datum.Reading
import ProviderCodegen.Spec.Basic

/-! # Reading specifications

Each type of a specification is read from a record whose fields are listed here in their order. The
kinds of attributes and blocks, and the fields of objects, are records that share their fields with
another record: the common facets of a kind, the element type of a field.

Attributes hold attributes, blocks hold blocks and element types hold element types. The readers of
the parts take the reader of what they hold as an argument, and three recursive functions close the
circle, going down one level of the datum at a time.
-/

namespace ProviderCodegen

open Datum (Fields)

namespace Source

def Import.ofDatum? (datum : Datum) : Option Import := do
  let fields ← datum.record? ["path", "alias"]
  return {
    path := ← fields.required? "path" Datum.text?
    localName := ← fields.optional? "alias" Datum.text? }

end Source

namespace Spec

open Source (Import)

def Requirement.ofWord? (word : String) : Option Requirement :=
  if word = "computed" then some .computed
  else if word = "computed_optional" then some .computedOptional
  else if word = "optional" then some .optional
  else if word = "required" then some .required
  else none

def Requirement.words : List String :=
  ["computed", "computed_optional", "optional", "required"]

/-- Read a requirement: a word, or a map from the word to nothing. Where the datum belongs to a
shared record, an empty map is nothing as well. -/
def Requirement.ofDatum? (shared : Bool) : Datum → Option Requirement
  | .map [(key, value)] =>
      let isNothing := match value with
        | .null => true
        | .map [] => shared
        | _ => false
      if isNothing then do ofWord? (← ← Datum.keyName? words key) else none
  | .text _ word => ofWord? word
  | _ => none

def CustomType.ofDatum? (datum : Datum) : Option CustomType := do
  let fields ← datum.record? ["import", "type", "value_type"]
  return {
    package := ← fields.optional? "import" Import.ofDatum?
    type := ← fields.required? "type" Datum.text?
    valueType := ← fields.required? "value_type" Datum.text? }

def ExternalType.ofDatum? (datum : Datum) : Option ExternalType := do
  let fields ← datum.record? ["import", "type"]
  return {
    package := ← fields.optional? "import" Import.ofDatum?
    type := ← fields.required? "type" Datum.text? }

def Snippet.ofDatum? (datum : Datum) : Option Snippet := do
  let fields ← datum.record? ["imports", "schema_definition"]
  return {
    imports := ← fields.list? "imports" Import.ofDatum?
    code := ← fields.required? "schema_definition" Datum.text? }

/-- Read a validator or a plan modifier. -/
def Hook.ofDatum? (datum : Datum) : Option Hook := do
  let fields ← datum.record? ["custom"]
  return { custom := ← fields.optional? "custom" Snippet.ofDatum? }

/-- Read a default that is code. -/
def CustomDefault.ofDatum? (datum : Datum) : Option CustomDefault := do
  let fields ← datum.record? ["custom"]
  return { custom := ← fields.optional? "custom" Snippet.ofDatum? }

def LiteralDefault.ofDatum? {α : Type} (literal? : Datum → Option α) (datum : Datum) :
    Option (LiteralDefault α) := do
  let fields ← datum.record? ["static", "custom"]
  return {
    literal := ← fields.optional? "static" literal?
    custom := ← fields.optional? "custom" Snippet.ofDatum? }

/-- The fields that all attributes share. -/
def AttributeFacets.fieldNames : List String :=
  ["computed_optional_required", "custom_type", "deprecation_message", "description", "sensitive",
   "plan_modifiers", "validators"]

/-- The facets among the fields of an attribute. -/
def AttributeFacets.ofFields? (shared : Bool) (fields : Fields) : Option AttributeFacets := do
  return {
    requirement := ← fields.optional? "computed_optional_required" (Requirement.ofDatum? shared)
    customType := ← fields.optional? "custom_type" CustomType.ofDatum?
    deprecationMessage := ← fields.optional? "deprecation_message" Datum.text?
    description := ← fields.optional? "description" Datum.text?
    sensitive := ← fields.optional? "sensitive" Datum.bool?
    planModifiers := ← fields.list? "plan_modifiers" Hook.ofDatum?
    validators := ← fields.list? "validators" Hook.ofDatum? }

/-- Read facets that stand alone. -/
def AttributeFacets.ofDatum? (datum : Datum) : Option AttributeFacets := do
  ofFields? false (← datum.record? fieldNames)

def BlockFacets.fieldNames : List String :=
  ["custom_type", "deprecation_message", "description", "plan_modifiers", "validators"]

def BlockFacets.ofFields? (fields : Fields) : Option BlockFacets := do
  return {
    customType := ← fields.optional? "custom_type" CustomType.ofDatum?
    deprecationMessage := ← fields.optional? "deprecation_message" Datum.text?
    description := ← fields.optional? "description" Datum.text?
    planModifiers := ← fields.list? "plan_modifiers" Hook.ofDatum?
    validators := ← fields.list? "validators" Hook.ofDatum? }

def BlockFacets.ofDatum? (datum : Datum) : Option BlockFacets := do
  ofFields? (← datum.record? fieldNames)

def PrimitiveType.ofDatum? (datum : Datum) : Option PrimitiveType := do
  let fields ← datum.record? ["custom_type"]
  return { customType := ← fields.optional? "custom_type" CustomType.ofDatum? }

def CollectionType.ofDatum? (elementType? : Datum → Option ElementType) (datum : Datum) :
    Option CollectionType := do
  let fields ← datum.record? ["element_type", "custom_type"]
  return {
    elementType := ← fields.required? "element_type" elementType?
    customType := ← fields.optional? "custom_type" CustomType.ofDatum? }

def ElementType.ofFields? (elementType? : Datum → Option ElementType)
    (objectType? : Datum → Option ObjectType) (fields : Fields) : Option ElementType := do
  return {
    bool := ← fields.optional? "bool" PrimitiveType.ofDatum?
    float64 := ← fields.optional? "float64" PrimitiveType.ofDatum?
    int64 := ← fields.optional? "int64" PrimitiveType.ofDatum?
    number := ← fields.optional? "number" PrimitiveType.ofDatum?
    string := ← fields.optional? "string" PrimitiveType.ofDatum?
    list := ← fields.optional? "list" (CollectionType.ofDatum? elementType?)
    map := ← fields.optional? "map" (CollectionType.ofDatum? elementType?)
    set := ← fields.optional? "set" (CollectionType.ofDatum? elementType?)
    object := ← fields.optional? "object" objectType? }

/-- Read a field of an object, which shares its fields with its type. -/
def ObjectField.ofDatum? (ofFields? : Fields → Option ElementType) (datum : Datum) :
    Option ObjectField := do
  let (own, kind) ← datum.sharedRecord? ["name"] ElementType.kindNames
  return { name := ← own.required? "name" Datum.text?, kind := ← ofFields? kind }

def ObjectType.ofDatum? (ofFields? : Fields → Option ElementType) (datum : Datum) :
    Option ObjectType := do
  let fields ← datum.record? ["attribute_types", "custom_type"]
  return {
    attributeTypes := ← fields.list? "attribute_types" (ObjectField.ofDatum? ofFields?)
    customType := ← fields.optional? "custom_type" CustomType.ofDatum? }

/-- Read the fields of an element type of at most the given depth. -/
def ElementType.ofFieldsWithin? : Nat → Fields → Option ElementType
  | 0, _ => none
  | depth + 1, fields =>
      ElementType.ofFields?
        (fun datum => do ofFieldsWithin? depth (← datum.record? kindNames))
        (ObjectType.ofDatum? (ofFieldsWithin? depth)) fields

def ElementType.ofDatum? (datum : Datum) : Option ElementType := do
  ofFieldsWithin? datum.depth (← datum.record? kindNames)

def ObjectField.listOfDatum? (datum : Datum) : Option (List ObjectField) :=
  datum.list? (ObjectField.ofDatum? (ElementType.ofFieldsWithin? datum.depth))

/-- Read a kind of attribute: its own fields and the facets. -/
def withFacets? {α : Type} (own : List String) (read : AttributeFacets → Fields → Option α)
    (datum : Datum) : Option α := do
  let (fields, facets) ← datum.sharedRecord? own AttributeFacets.fieldNames
  read (← AttributeFacets.ofFields? true facets) fields

def PrimitiveAttribute.ofDatum? {δ : Type} (default? : Datum → Option δ) :
    Datum → Option (PrimitiveAttribute δ) :=
  withFacets? ["default"] fun facets fields => do
    return { facets, default := ← fields.optional? "default" default? }

/-- Read a list, map or set attribute. -/
def CollectionAttribute.ofDatum? : Datum → Option CollectionAttribute :=
  withFacets? ["element_type", "default"] fun facets fields => do
    return {
      facets
      elementType := ← fields.required? "element_type" ElementType.ofDatum?
      default := ← fields.optional? "default" CustomDefault.ofDatum? }

def ObjectAttribute.ofDatum? : Datum → Option ObjectAttribute :=
  withFacets? ["attribute_types", "associated_external_type", "default"] fun facets fields => do
    return {
      facets
      attributeTypes := ← fields.getD? "attribute_types" ObjectField.listOfDatum? []
      externalType := ← fields.optional? "associated_external_type" ExternalType.ofDatum?
      default := ← fields.optional? "default" CustomDefault.ofDatum? }

def NestedAttributeObject.ofDatum? (attributes? : Datum → Option (List Attribute))
    (datum : Datum) : Option NestedAttributeObject := do
  let fields ← datum.record?
    ["attributes", "custom_type", "associated_external_type", "plan_modifiers", "validators"]
  return {
    attributes := ← fields.getD? "attributes" attributes? []
    customType := ← fields.optional? "custom_type" CustomType.ofDatum?
    externalType := ← fields.optional? "associated_external_type" ExternalType.ofDatum?
    planModifiers := ← fields.list? "plan_modifiers" Hook.ofDatum?
    validators := ← fields.list? "validators" Hook.ofDatum? }

/-- Read a list, map or set of objects. -/
def NestedAttribute.ofDatum? (attributes? : Datum → Option (List Attribute)) :
    Datum → Option NestedAttribute :=
  withFacets? ["nested_object", "default"] fun facets fields => do
    return {
      facets
      nestedObject := ←
        fields.required? "nested_object" (NestedAttributeObject.ofDatum? attributes?)
      default := ← fields.optional? "default" CustomDefault.ofDatum? }

def SingleNestedAttribute.ofDatum? (attributes? : Datum → Option (List Attribute)) :
    Datum → Option SingleNestedAttribute :=
  withFacets? ["attributes", "associated_external_type", "default"] fun facets fields => do
    return {
      facets
      attributes := ← fields.getD? "attributes" attributes? []
      externalType := ← fields.optional? "associated_external_type" ExternalType.ofDatum?
      default := ← fields.optional? "default" CustomDefault.ofDatum? }

def Attribute.fieldNames : List String :=
  "name" :: kindNames

/-- Read an attribute, given the reader of the attributes inside it. -/
def Attribute.ofDatumWith? (attributes? : Datum → Option (List Attribute)) (datum : Datum) :
    Option Attribute := do
  let fields ← datum.record? fieldNames
  return {
    name := ← fields.required? "name" Datum.text?
    bool := ← fields.optional? "bool"
      (PrimitiveAttribute.ofDatum? (LiteralDefault.ofDatum? Datum.bool?))
    float64 := ← fields.optional? "float64"
      (PrimitiveAttribute.ofDatum? (LiteralDefault.ofDatum? Datum.float?))
    int64 := ← fields.optional? "int64"
      (PrimitiveAttribute.ofDatum? (LiteralDefault.ofDatum? Datum.int64?))
    number := ← fields.optional? "number" (PrimitiveAttribute.ofDatum? CustomDefault.ofDatum?)
    string := ← fields.optional? "string"
      (PrimitiveAttribute.ofDatum? (LiteralDefault.ofDatum? Datum.text?))
    list := ← fields.optional? "list" CollectionAttribute.ofDatum?
    map := ← fields.optional? "map" CollectionAttribute.ofDatum?
    set := ← fields.optional? "set" CollectionAttribute.ofDatum?
    listNested := ← fields.optional? "list_nested" (NestedAttribute.ofDatum? attributes?)
    mapNested := ← fields.optional? "map_nested" (NestedAttribute.ofDatum? attributes?)
    setNested := ← fields.optional? "set_nested" (NestedAttribute.ofDatum? attributes?)
    singleNested := ← fields.optional? "single_nested" (SingleNestedAttribute.ofDatum? attributes?)
    object := ← fields.optional? "object" ObjectAttribute.ofDatum? }

/-- Read attributes nested at most to the given depth. -/
def Attribute.listWithin? : Nat → Datum → Option (List Attribute)
  | 0, _ => none
  | depth + 1, datum => datum.list? (Attribute.ofDatumWith? (listWithin? depth))

def Attribute.ofDatum? (datum : Datum) : Option Attribute :=
  ofDatumWith? (listWithin? datum.depth) datum

def Attribute.listOfDatum? (datum : Datum) : Option (List Attribute) :=
  listWithin? datum.depth datum

def NestedBlockObject.ofDatum? (blocks? : Datum → Option (List Block)) (datum : Datum) :
    Option NestedBlockObject := do
  let fields ← datum.record?
    ["attributes", "blocks", "custom_type", "associated_external_type", "plan_modifiers",
     "validators"]
  return {
    attributes := ← fields.getD? "attributes" Attribute.listOfDatum? []
    blocks := ← fields.getD? "blocks" blocks? []
    customType := ← fields.optional? "custom_type" CustomType.ofDatum?
    externalType := ← fields.optional? "associated_external_type" ExternalType.ofDatum?
    planModifiers := ← fields.list? "plan_modifiers" Hook.ofDatum?
    validators := ← fields.list? "validators" Hook.ofDatum? }

/-- Read a list or set of objects. -/
def NestedBlock.ofDatum? (blocks? : Datum → Option (List Block)) (datum : Datum) :
    Option NestedBlock := do
  let (fields, facets) ← datum.sharedRecord? ["nested_object"] BlockFacets.fieldNames
  return {
    facets := ← BlockFacets.ofFields? facets
    nestedObject := ← fields.required? "nested_object" (NestedBlockObject.ofDatum? blocks?) }

def SingleNestedBlock.ofDatum? (blocks? : Datum → Option (List Block)) (datum : Datum) :
    Option SingleNestedBlock := do
  let (fields, facets) ← datum.sharedRecord?
    ["attributes", "blocks", "associated_external_type"] BlockFacets.fieldNames
  return {
    facets := ← BlockFacets.ofFields? facets
    attributes := ← fields.getD? "attributes" Attribute.listOfDatum? []
    blocks := ← fields.getD? "blocks" blocks? []
    externalType := ← fields.optional? "associated_external_type" ExternalType.ofDatum? }

def Block.fieldNames : List String :=
  "name" :: kindNames

/-- Read a block, given the reader of the blocks inside it. -/
def Block.ofDatumWith? (blocks? : Datum → Option (List Block)) (datum : Datum) : Option Block := do
  let fields ← datum.record? fieldNames
  return {
    name := ← fields.required? "name" Datum.text?
    listNested := ← fields.optional? "list_nested" (NestedBlock.ofDatum? blocks?)
    setNested := ← fields.optional? "set_nested" (NestedBlock.ofDatum? blocks?)
    singleNested := ← fields.optional? "single_nested" (SingleNestedBlock.ofDatum? blocks?) }

/-- Read blocks nested at most to the given depth. -/
def Block.listWithin? : Nat → Datum → Option (List Block)
  | 0, _ => none
  | depth + 1, datum => datum.list? (Block.ofDatumWith? (listWithin? depth))

def Block.ofDatum? (datum : Datum) : Option Block :=
  ofDatumWith? (listWithin? datum.depth) datum

def Block.listOfDatum? (datum : Datum) : Option (List Block) :=
  listWithin? datum.depth datum

def Schema.ofDatum? (datum : Datum) : Option Schema := do
  let fields ← datum.record?
    ["attributes", "blocks", "description", "markdown_description", "deprecation_message"]
  return {
    attributes := ← fields.getD? "attributes" Attribute.listOfDatum? []
    blocks := ← fields.getD? "blocks" Block.listOfDatum? []
    description := ← fields.optional? "description" Datum.text?
    markdownDescription := ← fields.optional? "markdown_description" Datum.text?
    deprecationMessage := ← fields.optional? "deprecation_message" Datum.text? }

def Resource.ofDatum? (datum : Datum) : Option Resource := do
  let fields ← datum.record? ["name", "schema"]
  return {
    name := ← fields.required? "name" Datum.text?
    schema := ← fields.getD? "schema" Schema.ofDatum? {} }

end Spec

def Specification.ofDatum? (datum : Datum) : Option Specification := do
  let fields ← datum.record? ["version", "resources"]
  return {
    version := ← fields.required? "version" Datum.text?
    resources := ← fields.list? "resources" Spec.Resource.ofDatum? }

end ProviderCodegen
