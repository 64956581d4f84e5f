import ProviderCodegen.Schema.Declaration
import ProviderCodegen.Schema.Types

/-! # The schema of attributes and blocks

The declaration of a node within the schema of a resource. Attributes and blocks inside are
declared by name, attributes first.
-/

namespace ProviderCodegen.Schema

open Spec (CustomType ExternalType)

def Facets.explicitType (facets : Facets) : Option String :=
  facets.customType.map (·.type)

/-- The entry of the object that a nested attribute or block repeats, given the entries of what is
inside. It always has a custom type. -/
def ObjectFacets.entry (object : ObjectFacets) (name type children : String) : String :=
  Schema.entry "NestedObject" <| schemaLiteral type <|
    children ++
    customTypeEntry (some (object.schemaType name)) ++
    planModifiersEntry "Object" object.planModifiers ++
    validatorsEntry "Object" object.validators

/-- The custom type of an object of typed fields, generated only for an external type. -/
def fixedObjectType (name : String) (facets : Facets) (external : Option ExternalType) :
    Option String :=
  match facets.customType with
  | some custom => some custom.type
  | none => if external.isSome then some (Source.generatedCustomType name) else none

namespace Attribute

mutual

def declaration (name : String) : Attribute → String
  | primitive kind facets default =>
      Schema.declaration name (AttributeKind.primitive kind).name <|
        facets.entries facets.explicitType kind.name ++ defaultEntry default
  | collection kind facets element default =>
      Schema.declaration name (AttributeKind.collection kind).name <|
        facets.entries facets.explicitType kind.name ++ defaultEntry default ++
        entry "ElementType" element.expression
  | nested kind facets item attributes default =>
      Schema.declaration name (AttributeKind.nested kind).name <|
        facets.entries facets.explicitType kind.name ++ defaultEntry default ++
        item.entry name "NestedAttributeObject"
          (childrenEntry "Attributes" "Attribute" (declarations attributes))
  | singleNested facets attributes external default =>
      Schema.declaration name AttributeKind.singleNested.name <|
        facets.entries (some ((ObjectFacets.single facets external).schemaType name)) "Object" ++
        defaultEntry default ++
        childrenEntry "Attributes" "Attribute" (declarations attributes)
  | object facets fields external default =>
      Schema.declaration name AttributeKind.object.name <|
        facets.entries (fixedObjectType name facets external) "Object" ++
        defaultEntry default ++
        entry "AttributeTypes" (Fields.literal fields)

/-- The declarations of attributes, in their order. -/
def declarations : List (String × Attribute) → List String
  | [] => []
  | (name, first) :: rest => first.declaration name :: declarations rest

end

end Attribute

def Attributes.entry (attributes : Attributes) : String :=
  childrenEntry "Attributes" "Attribute" (Attribute.declarations attributes)

namespace Block

mutual

def declaration (name : String) : Block → String
  | nested kind facets item attributes blocks =>
      Schema.declaration name (BlockKind.nested kind).name <|
        facets.entries facets.explicitType kind.collection.name ++
        item.entry name "NestedBlockObject"
          (Attributes.entry attributes ++
            childrenEntry "Blocks" "Block" (declarations blocks))
  | singleNested facets attributes blocks external =>
      Schema.declaration name BlockKind.singleNested.name <|
        facets.entries (some ((ObjectFacets.single facets external).schemaType name)) "Object" ++
        Attributes.entry attributes ++
        childrenEntry "Blocks" "Block" (declarations blocks)

/-- The declarations of blocks, in their order. -/
def declarations : List (String × Block) → List String
  | [] => []
  | (name, first) :: rest => first.declaration name :: declarations rest

end

end Block

def Blocks.entry (blocks : Blocks) : String :=
  childrenEntry "Blocks" "Block" (Block.declarations blocks)

end ProviderCodegen.Schema
