import ProviderCodegen.Schema.Node

/-! # Imports of a schema

What the code of a node and of everything below it needs. Each part of a node adds what it needs to
the set of those before it, the attributes inside by name and then the blocks inside by name.
-/

namespace ProviderCodegen.Schema

open Source (ImportSet)
open Spec (ExternalType)

/-- The imports of an object that holds attributes and blocks, given those of its hooks and those of
what is inside. -/
def ObjectFacets.imports (object : ObjectFacets) (hooks attributes blocks : ImportSet) : ImportSet :=
  externalTypeImports object.externalType ∪ generatedTypeImports object.customType ∪
    .ofPaths [Source.Framework.attr] ∪ hooks ∪ attributes ∪ blocks

/-- The imports of a collection of objects, given those of what is inside. -/
def nestedImports (facets : Facets) (object : ObjectFacets) (default : Option Default)
    (attributes blocks : ImportSet) : ImportSet :=
  externalTypeImports object.externalType ∪ facets.imports ∪ defaultImports default ∪
    object.imports (hookImports object.planModifiers object.validators) attributes blocks

/-- The imports of an object of typed fields. A type is generated for it only when it converts to an
external type. -/
def fixedObjectImports (facets : Facets) (fields : Fields) (external : Option ExternalType)
    (default : Option Default) : ImportSet :=
  let custom :=
    if external.isSome then generatedTypeImports facets.customType
    else customTypeImports facets.customType
  externalTypeImports external ∪ custom ∪ .ofPaths [Source.Framework.attr] ∪
    hookImports facets.planModifiers facets.validators ∪ defaultImports default ∪
    Fields.imports fields

namespace Attribute

mutual

def imports : Attribute → ImportSet
  | primitive _ facets default => facets.imports ∪ defaultImports default
  | collection _ facets element default =>
      facets.imports ∪ defaultImports default ∪ element.imports
  | nested _ facets item attributes default =>
      nestedImports facets item default (importsAll .empty attributes) .empty
  | singleNested facets attributes external default =>
      (ObjectFacets.single facets external).imports
        (hookImports facets.planModifiers facets.validators ∪ defaultImports default)
        (importsAll .empty attributes) .empty
  | object facets fields external default => fixedObjectImports facets fields external default

/-- Add the imports of attributes, in their order. -/
def importsAll (imports : ImportSet) : List (String × Attribute) → ImportSet
  | [] => imports
  | (_, first) :: rest => importsAll (imports ∪ first.imports) rest

end

end Attribute

def Attributes.imports (attributes : Attributes) : ImportSet :=
  Attribute.importsAll .empty attributes

namespace Block

mutual

def imports : Block → ImportSet
  | nested _ facets item attributes blocks =>
      nestedImports facets item none (Attributes.imports attributes) (importsAll .empty blocks)
  | singleNested facets attributes blocks external =>
      (ObjectFacets.single facets external).imports
        (hookImports facets.planModifiers facets.validators) (Attributes.imports attributes)
        (importsAll .empty blocks)

/-- Add the imports of blocks, in their order. -/
def importsAll (imports : ImportSet) : List (String × Block) → ImportSet
  | [] => imports
  | (_, first) :: rest => importsAll (imports ∪ first.imports) rest

end

end Block

def Blocks.imports (blocks : Blocks) : ImportSet :=
  Block.importsAll .empty blocks

end ProviderCodegen.Schema
