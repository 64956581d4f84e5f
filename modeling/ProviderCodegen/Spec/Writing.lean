import ProviderCodegen.Datum.Basic
import ProviderCodegen.Spec.Basic

/-! # Writing specifications

The datum of a specification has the fields of each record in their order, facets first. What is not
set is left out, and so are empty lists, except where a record holds its attributes, blocks or
fields, and except the schema of a resource.
-/

namespace ProviderCodegen

/-- Entries of a record. -/
abbrev Entries := List (String × Datum)

/-- The entry of a field that may be unset. -/
def optionalEntry {α : Type} (name : String) (write : α → Datum) : Option α → Entries
  | some value => [(name, write value)]
  | none => []

/-- The entry of a list that is left out when it is empty. -/
def listEntry {α : Type} (name : String) (write : α → Datum) (values : List α) : Entries :=
  if values.isEmpty then [] else [(name, .array (values.map write))]

namespace Source

def Import.toDatum (i : Import) : Datum :=
  .object (("path", .string i.path) :: optionalEntry "alias" .string i.localName)

end Source

namespace Spec

open Source (Import)

def Requirement.word : Requirement → String
  | .computed => "computed"
  | .computedOptional => "computed_optional"
  | .optional => "optional"
  | .required => "required"

def CustomType.toDatum (type : CustomType) : Datum :=
  .object (optionalEntry "import" Import.toDatum type.package ++
    [("type", .string type.type), ("value_type", .string type.valueType)])

def ExternalType.toDatum (type : ExternalType) : Datum :=
  .object (optionalEntry "import" Import.toDatum type.package ++ [("type", .string type.type)])

def Snippet.toDatum (snippet : Snippet) : Datum :=
  .object (listEntry "imports" Import.toDatum snippet.imports ++
    [("schema_definition", .string snippet.code)])

/-- The datum of a validator or a plan modifier. -/
def Hook.toDatum (hook : Hook) : Datum :=
  .object (optionalEntry "custom" Snippet.toDatum hook.custom)

def CustomDefault.toDatum (default : CustomDefault) : Datum :=
  .object (optionalEntry "custom" Snippet.toDatum default.custom)

def LiteralDefault.toDatum {α : Type} (write : α → Datum) (default : LiteralDefault α) : Datum :=
  .object (optionalEntry "static" write default.literal ++
    optionalEntry "custom" Snippet.toDatum default.custom)

def AttributeFacets.entries (facets : AttributeFacets) : Entries :=
  optionalEntry "computed_optional_required" (fun r => .string r.word) facets.requirement ++
  optionalEntry "custom_type" CustomType.toDatum facets.customType ++
  optionalEntry "deprecation_message" .string facets.deprecationMessage ++
  optionalEntry "description" .string facets.description ++
  optionalEntry "sensitive" .bool facets.sensitive ++
  listEntry "plan_modifiers" Hook.toDatum facets.planModifiers ++
  listEntry "validators" Hook.toDatum facets.validators

def BlockFacets.entries (facets : BlockFacets) : Entries :=
  optionalEntry "custom_type" CustomType.toDatum facets.customType ++
  optionalEntry "deprecation_message" .string facets.deprecationMessage ++
  optionalEntry "description" .string facets.description ++
  listEntry "plan_modifiers" Hook.toDatum facets.planModifiers ++
  listEntry "validators" Hook.toDatum facets.validators

def PrimitiveType.toDatum (type : PrimitiveType) : Datum :=
  .object (optionalEntry "custom_type" CustomType.toDatum type.customType)

mutual

def ElementType.entries : ElementType → Entries
  | ⟨bool, float64, int64, number, string, list, map, set, object⟩ =>
      optionalEntry "bool" PrimitiveType.toDatum bool ++
      optionalEntry "float64" PrimitiveType.toDatum float64 ++
      optionalEntry "int64" PrimitiveType.toDatum int64 ++
      optionalEntry "number" PrimitiveType.toDatum number ++
      optionalEntry "string" PrimitiveType.toDatum string ++
      CollectionType.entry "list" list ++ CollectionType.entry "map" map ++
      CollectionType.entry "set" set ++ ObjectType.entry "object" object

def CollectionType.entry (name : String) : Option CollectionType → Entries
  | none => []
  | some ⟨elementType, customType⟩ =>
      [(name, .object (("element_type", .object elementType.entries) ::
        optionalEntry "custom_type" CustomType.toDatum customType))]

def ObjectType.entry (name : String) : Option ObjectType → Entries
  | none => []
  | some ⟨attributeTypes, customType⟩ =>
      [(name, .object (("attribute_types", .array (ObjectField.listToData attributeTypes)) ::
        optionalEntry "custom_type" CustomType.toDatum customType))]

def ObjectField.listToData : List ObjectField → List Datum
  | [] => []
  | ⟨name, kind⟩ :: rest =>
      .object (("name", .string name) :: kind.entries) :: ObjectField.listToData rest

end

def PrimitiveAttribute.toDatum {δ : Type} (write : δ → Datum) (a : PrimitiveAttribute δ) :
    Datum :=
  .object (a.facets.entries ++ optionalEntry "default" write a.default)

def CollectionAttribute.toDatum (a : CollectionAttribute) : Datum :=
  .object (a.facets.entries ++ [("element_type", .object a.elementType.entries)] ++
    optionalEntry "default" CustomDefault.toDatum a.default)

def ObjectAttribute.toDatum (a : ObjectAttribute) : Datum :=
  .object (a.facets.entries ++
    [("attribute_types", .array (ObjectField.listToData a.attributeTypes))] ++
    optionalEntry "associated_external_type" ExternalType.toDatum a.externalType ++
    optionalEntry "default" CustomDefault.toDatum a.default)

mutual

def Attribute.toDatum : Attribute → Datum
  | ⟨name, bool, float64, int64, number, string, list, map, set, listNested, mapNested, setNested,
      singleNested, object⟩ =>
      .object (("name", .string name) ::
        optionalEntry "bool" (PrimitiveAttribute.toDatum (LiteralDefault.toDatum .bool)) bool ++
        optionalEntry "float64"
          (PrimitiveAttribute.toDatum (LiteralDefault.toDatum .float)) float64 ++
        optionalEntry "int64"
          (PrimitiveAttribute.toDatum (LiteralDefault.toDatum (.int ·.toInt))) int64 ++
        optionalEntry "number" (PrimitiveAttribute.toDatum CustomDefault.toDatum) number ++
        optionalEntry "string"
          (PrimitiveAttribute.toDatum (LiteralDefault.toDatum .string)) string ++
        optionalEntry "list" CollectionAttribute.toDatum list ++
        optionalEntry "map" CollectionAttribute.toDatum map ++
        optionalEntry "set" CollectionAttribute.toDatum set ++
        NestedAttribute.entry "list_nested" listNested ++
        NestedAttribute.entry "map_nested" mapNested ++
        NestedAttribute.entry "set_nested" setNested ++
        SingleNestedAttribute.entry "single_nested" singleNested ++
        optionalEntry "object" ObjectAttribute.toDatum object)

/-- The entry of a list, map or set of objects. -/
def NestedAttribute.entry (name : String) : Option NestedAttribute → Entries
  | none => []
  | some ⟨facets, nestedObject, default⟩ =>
      [(name, .object (facets.entries ++ [("nested_object", nestedObject.toDatum)] ++
        optionalEntry "default" CustomDefault.toDatum default))]

def NestedAttributeObject.toDatum : NestedAttributeObject → Datum
  | ⟨attributes, customType, externalType, planModifiers, validators⟩ =>
      .object (("attributes", .array (Attribute.listToData attributes)) ::
        optionalEntry "custom_type" CustomType.toDatum customType ++
        optionalEntry "associated_external_type" ExternalType.toDatum externalType ++
        listEntry "plan_modifiers" Hook.toDatum planModifiers ++
        listEntry "validators" Hook.toDatum validators)

def SingleNestedAttribute.entry (name : String) : Option SingleNestedAttribute → Entries
  | none => []
  | some ⟨facets, attributes, externalType, default⟩ =>
      [(name, .object (facets.entries ++
        [("attributes", .array (Attribute.listToData attributes))] ++
        optionalEntry "associated_external_type" ExternalType.toDatum externalType ++
        optionalEntry "default" CustomDefault.toDatum default))]

def Attribute.listToData : List Attribute → List Datum
  | [] => []
  | first :: rest => first.toDatum :: Attribute.listToData rest

end

mutual

def Block.toDatum : Block → Datum
  | ⟨name, listNested, setNested, singleNested⟩ =>
      .object (("name", .string name) ::
        NestedBlock.entry "list_nested" listNested ++
        NestedBlock.entry "set_nested" setNested ++
        SingleNestedBlock.entry "single_nested" singleNested)

/-- The entry of a list or set of objects. -/
def NestedBlock.entry (name : String) : Option NestedBlock → Entries
  | none => []
  | some ⟨facets, nestedObject⟩ =>
      [(name, .object (facets.entries ++ [("nested_object", nestedObject.toDatum)]))]

def NestedBlockObject.toDatum : NestedBlockObject → Datum
  | ⟨attributes, blocks, customType, externalType, planModifiers, validators⟩ =>
      .object (("attributes", .array (Attribute.listToData attributes)) ::
        ("blocks", .array (Block.listToData blocks)) ::
        optionalEntry "custom_type" CustomType.toDatum customType ++
        optionalEntry "associated_external_type" ExternalType.toDatum externalType ++
        listEntry "plan_modifiers" Hook.toDatum planModifiers ++
        listEntry "validators" Hook.toDatum validators)

def SingleNestedBlock.entry (name : String) : Option SingleNestedBlock → Entries
  | none => []
  | some ⟨facets, attributes, blocks, externalType⟩ =>
      [(name, .object (facets.entries ++
        [("attributes", .array (Attribute.listToData attributes)),
         ("blocks", .array (Block.listToData blocks))] ++
        optionalEntry "associated_external_type" ExternalType.toDatum externalType))]

def Block.listToData : List Block → List Datum
  | [] => []
  | first :: rest => first.toDatum :: Block.listToData rest

end

def Schema.toDatum (schema : Schema) : Datum :=
  .object (listEntry "attributes" Attribute.toDatum schema.attributes ++
    listEntry "blocks" Block.toDatum schema.blocks ++
    optionalEntry "description" .string schema.description ++
    optionalEntry "markdown_description" .string schema.markdownDescription ++
    optionalEntry "deprecation_message" .string schema.deprecationMessage)

def Resource.toDatum (resource : Resource) : Datum :=
  .object [("name", .string resource.name), ("schema", resource.schema.toDatum)]

end Spec

def Specification.toDatum (spec : Specification) : Datum :=
  .object (("version", .string spec.version) ::
    listEntry "resources" Spec.Resource.toDatum spec.resources)

end ProviderCodegen
