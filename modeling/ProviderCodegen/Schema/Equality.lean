import ProviderCodegen.Schema.Resource

/-! # Equal schemas

Two trees are equal when they have equal nodes under the same names. Children are in order of their
names, so the order in a specification makes no difference; the fields of an object keep theirs.
Numbers are compared as numbers: a default that is not a number differs even from itself.
-/

namespace ProviderCodegen.Schema

namespace ElementType

mutual

/-- Whether two element types are equal. -/
def isEqual : ElementType → ElementType → Bool
  | primitive kind custom, primitive kind' custom' => kind == kind' && custom == custom'
  | collection kind element custom, collection kind' element' custom' =>
      kind == kind' && element.isEqual element' && custom == custom'
  | object fields custom, object fields' custom' =>
      areEqual fields fields' && custom == custom'
  | _, _ => false

/-- Whether two lists of fields are equal. -/
def areEqual : Fields → Fields → Bool
  | [], [] => true
  | (name, type) :: rest, (name', type') :: rest' =>
      name == name' && type.isEqual type' && areEqual rest rest'
  | _, _ => false

end

end ElementType

namespace Attribute

mutual

def isEqual : Attribute → Attribute → Bool
  | primitive kind facets default, primitive kind' facets' default' =>
      kind == kind' && facets == facets' && default == default'
  | collection kind facets element default, collection kind' facets' element' default' =>
      kind == kind' && facets == facets' && element.isEqual element' && default == default'
  | nested kind facets item attributes default, nested kind' facets' item' attributes' default' =>
      kind == kind' && facets == facets' && item == item' && areEqual attributes attributes' &&
        default == default'
  | singleNested facets attributes external default,
      singleNested facets' attributes' external' default' =>
      facets == facets' && areEqual attributes attributes' && external == external' &&
        default == default'
  | object facets fields external default, object facets' fields' external' default' =>
      facets == facets' && ElementType.areEqual fields fields' && external == external' &&
        default == default'
  | _, _ => false

/-- Whether two lists of attributes are equal. -/
def areEqual : List (String × Attribute) → List (String × Attribute) → Bool
  | [], [] => true
  | (name, node) :: rest, (name', node') :: rest' =>
      name == name' && node.isEqual node' && areEqual rest rest'
  | _, _ => false

end

end Attribute

namespace Block

mutual

def isEqual : Block → Block → Bool
  | nested kind facets item attributes blocks, nested kind' facets' item' attributes' blocks' =>
      kind == kind' && facets == facets' && item == item' &&
        Attribute.areEqual attributes attributes' && areEqual blocks blocks'
  | singleNested facets attributes blocks external,
      singleNested facets' attributes' blocks' external' =>
      facets == facets' && Attribute.areEqual attributes attributes' &&
        areEqual blocks blocks' && external == external'
  | _, _ => false

/-- Whether two lists of blocks are equal. -/
def areEqual : List (String × Block) → List (String × Block) → Bool
  | [], [] => true
  | (name, node) :: rest, (name', node') :: rest' =>
      name == name' && node.isEqual node' && areEqual rest rest'
  | _, _ => false

end

end Block

instance : BEq ElementType := ⟨ElementType.isEqual⟩
instance : BEq Attribute := ⟨Attribute.isEqual⟩
instance : BEq Block := ⟨Block.isEqual⟩

def ResourceSchema.isEqual (a b : ResourceSchema) : Bool :=
  Attribute.areEqual a.attributes b.attributes && Block.areEqual a.blocks b.blocks &&
    a.description == b.description && a.markdownDescription == b.markdownDescription &&
    a.deprecationMessage == b.deprecationMessage

instance : BEq ResourceSchema := ⟨ResourceSchema.isEqual⟩

end ProviderCodegen.Schema
