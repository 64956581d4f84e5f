import ProviderCodegen.Source.Naming
import ProviderCodegen.Schema.Node

/-! # Go types of attributes and blocks

The Go types that stand for a node: in the model of a resource, among the field types of the object
around it, and as a field of that object's value type. An explicit custom type goes before the
generated one, and that before the type of the kind.
-/

namespace ProviderCodegen.Schema

open Source (composite emptyComposite inQuotes valueName generatedAttrType generatedCustomType)
open Spec (CustomType ExternalType)

/-- A field of the model of a resource. -/
structure ModelField where
  /-- The name in Go. -/
  name : String
  /-- The name in the configuration. -/
  tag : String
  valueType : String
deriving Repr, DecidableEq

/-- The tag that binds a field of a struct to a name in the configuration. -/
def fieldTag (name : String) : String :=
  "`tfsdk:" ++ inQuotes name ++ "`"

def ModelField.declaration (field : ModelField) : String :=
  field.name ++ " " ++ field.valueType ++ " " ++ fieldTag field.tag

/-- The field of a node: its custom type, else the generated type if there is one, else the type of
the kind. -/
def ModelField.resolve (name : String) (custom : Option CustomType) (isGenerated : Bool)
    (kindType : String) : ModelField where
  name := Text.pascalCase name
  tag := name
  valueType := match custom with
    | some custom => custom.valueType
    | none => if isGenerated then valueName name else kindType

/-- The explicit type of a facet, else the given one. -/
def Facets.attrTypeOr (facets : Facets) (type : String) : String :=
  match facets.customType with
  | some custom => custom.type
  | none => type

/-- The explicit value type of a facet, else the given one. -/
def Facets.valueTypeOr (facets : Facets) (type : String) : String :=
  match facets.customType with
  | some custom => custom.valueType
  | none => type

namespace ObjectFacets

/-- The custom type in the schema, generated unless given. -/
def schemaType (object : ObjectFacets) (name : String) : String :=
  match object.customType with
  | some custom => custom.type
  | none => generatedCustomType name

/-- The type of an element among the field types of the object around it. -/
def elementType (object : ObjectFacets) (name : String) : String :=
  match object.customType with
  | some custom => custom.type
  | none => emptyComposite (valueName name) ++ ".Type(ctx)"

def valueType (object : ObjectFacets) (name : String) : String :=
  match object.customType with
  | some custom => custom.valueType
  | none => valueName name

end ObjectFacets

/-- The framework type of a collection, given the type of its elements. -/
def collectionAttrType (kind : CollectionKind) (element : String) : String :=
  composite ("basetypes." ++ kind.name ++ "Type") ["ElemType: " ++ element ++ ","]

namespace Attribute

def modelField (name : String) : Attribute → ModelField
  | primitive kind facets _ => .resolve name facets.customType false kind.modelType
  | collection kind facets _ _ => .resolve name facets.customType false kind.modelType
  | nested kind facets _ _ _ => .resolve name facets.customType false kind.modelType
  | singleNested facets _ external _ =>
      .resolve name facets.customType external.isSome (valueName name)
  | object facets _ external _ => .resolve name facets.customType external.isSome "types.Object"

/-- The type of an attribute among the field types of the object around it. -/
def attrType (name : String) : Attribute → String
  | primitive kind facets _ =>
      facets.attrTypeOr (emptyComposite ("basetypes." ++ kind.name ++ "Type"))
  | collection kind facets element _ =>
      facets.attrTypeOr (collectionAttrType kind element.expression)
  | nested kind facets item _ _ =>
      facets.attrTypeOr (collectionAttrType kind (item.elementType name))
  | singleNested facets _ _ _ => facets.attrTypeOr (generatedAttrType name)
  | object facets fields external _ =>
      facets.attrTypeOr <|
        if external.isSome then generatedAttrType name
        else composite "basetypes.ObjectType" ["AttrTypes: " ++ Fields.literal fields ++ ","]

/-- The type of an attribute as a field of the value type of the object around it. -/
def valueType (name : String) : Attribute → String
  | primitive kind facets _ => facets.valueTypeOr kind.valueType
  | collection kind facets _ _ => facets.valueTypeOr kind.valueType
  | nested kind facets _ _ _ => facets.valueTypeOr kind.valueType
  | singleNested facets _ _ _ => facets.valueTypeOr (valueName name)
  | object facets _ external _ =>
      facets.valueTypeOr (if external.isSome then valueName name else "basetypes.ObjectValue")

end Attribute

namespace Block

def modelField (name : String) : Block → ModelField
  | nested kind facets _ _ _ => .resolve name facets.customType false kind.collection.modelType
  | singleNested facets _ _ external =>
      .resolve name facets.customType external.isSome (valueName name)

/-- The type of a block among the field types of the object around it. -/
def attrType (name : String) : Block → String
  | nested kind facets item _ _ =>
      facets.attrTypeOr (collectionAttrType kind.collection (item.elementType name))
  | singleNested facets _ _ _ => facets.attrTypeOr (generatedAttrType name)

/-- The type of a block as a field of the value type of the object around it. -/
def valueType (name : String) : Block → String
  | nested kind facets _ _ _ => facets.valueTypeOr kind.collection.valueType
  | singleNested facets _ _ _ => facets.valueTypeOr (valueName name)

end Block

def Attributes.modelFields (attributes : Attributes) : List ModelField :=
  attributes.map fun (name, node) => node.modelField name

def Blocks.modelFields (blocks : Blocks) : List ModelField :=
  blocks.map fun (name, node) => node.modelField name

end ProviderCodegen.Schema
