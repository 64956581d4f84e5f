import ProviderCodegen.Spec.Basic

/-! # Equal specifications

Two specifications are equal when they are written with the same values in the same order. Nothing
is checked and no kind goes before another. Numbers are compared as numbers.
-/

namespace ProviderCodegen

namespace Spec

mutual

def ElementType.isEqual : ElementType → ElementType → Bool
  | ⟨bool, float64, int64, number, string, list, map, set, object⟩,
      ⟨bool', float64', int64', number', string', list', map', set', object'⟩ =>
      bool == bool' && float64 == float64' && int64 == int64' && number == number' &&
        string == string' && CollectionType.isEqual list list' &&
        CollectionType.isEqual map map' && CollectionType.isEqual set set' &&
        ObjectType.isEqual object object'

/-- Whether two collection types, which may be missing, are equal. -/
def CollectionType.isEqual : Option CollectionType → Option CollectionType → Bool
  | none, none => true
  | some ⟨element, custom⟩, some ⟨element', custom'⟩ =>
      element.isEqual element' && custom == custom'
  | _, _ => false

/-- Whether two object types, which may be missing, are equal. -/
def ObjectType.isEqual : Option ObjectType → Option ObjectType → Bool
  | none, none => true
  | some ⟨fields, custom⟩, some ⟨fields', custom'⟩ =>
      ObjectField.areEqual fields fields' && custom == custom'
  | _, _ => false

def ObjectField.areEqual : List ObjectField → List ObjectField → Bool
  | [], [] => true
  | ⟨name, kind⟩ :: rest, ⟨name', kind'⟩ :: rest' =>
      name == name' && kind.isEqual kind' && ObjectField.areEqual rest rest'
  | _, _ => false

end

instance : BEq ElementType := ⟨ElementType.isEqual⟩

def CollectionAttribute.isEqual (a b : CollectionAttribute) : Bool :=
  a.facets == b.facets && a.elementType == b.elementType && a.default == b.default

instance : BEq CollectionAttribute := ⟨CollectionAttribute.isEqual⟩

def ObjectAttribute.isEqual (a b : ObjectAttribute) : Bool :=
  a.facets == b.facets && ObjectField.areEqual a.attributeTypes b.attributeTypes &&
    a.externalType == b.externalType && a.default == b.default

instance : BEq ObjectAttribute := ⟨ObjectAttribute.isEqual⟩

mutual

def Attribute.isEqual : Attribute → Attribute → Bool
  | ⟨name, bool, float64, int64, number, string, list, map, set, listNested, mapNested, setNested,
      single, object⟩,
      ⟨name', bool', float64', int64', number', string', list', map', set', listNested',
        mapNested', setNested', single', object'⟩ =>
      name == name' && bool == bool' && float64 == float64' && int64 == int64' &&
        number == number' && string == string' && list == list' && map == map' && set == set' &&
        NestedAttribute.isEqual listNested listNested' &&
        NestedAttribute.isEqual mapNested mapNested' &&
        NestedAttribute.isEqual setNested setNested' &&
        SingleNestedAttribute.isEqual single single' && object == object'

/-- Whether two nested attributes, which may be missing, are equal. -/
def NestedAttribute.isEqual : Option NestedAttribute → Option NestedAttribute → Bool
  | none, none => true
  | some ⟨facets, ⟨attributes, custom, external, planModifiers, validators⟩, default⟩,
      some ⟨facets', ⟨attributes', custom', external', planModifiers', validators'⟩, default'⟩ =>
      facets == facets' && Attribute.areEqual attributes attributes' && custom == custom' &&
        external == external' && planModifiers == planModifiers' && validators == validators' &&
        default == default'
  | _, _ => false

/-- Whether two single nested attributes, which may be missing, are equal. -/
def SingleNestedAttribute.isEqual :
    Option SingleNestedAttribute → Option SingleNestedAttribute → Bool
  | none, none => true
  | some ⟨facets, attributes, external, default⟩,
      some ⟨facets', attributes', external', default'⟩ =>
      facets == facets' && Attribute.areEqual attributes attributes' && external == external' &&
        default == default'
  | _, _ => false

def Attribute.areEqual : List Attribute → List Attribute → Bool
  | [], [] => true
  | first :: rest, first' :: rest' => first.isEqual first' && Attribute.areEqual rest rest'
  | _, _ => false

end

mutual

def Block.isEqual : Block → Block → Bool
  | ⟨name, listNested, setNested, single⟩, ⟨name', listNested', setNested', single'⟩ =>
      name == name' && NestedBlock.isEqual listNested listNested' &&
        NestedBlock.isEqual setNested setNested' && SingleNestedBlock.isEqual single single'

/-- Whether two nested blocks, which may be missing, are equal. -/
def NestedBlock.isEqual : Option NestedBlock → Option NestedBlock → Bool
  | none, none => true
  | some ⟨facets, ⟨attributes, blocks, custom, external, planModifiers, validators⟩⟩,
      some ⟨facets', ⟨attributes', blocks', custom', external', planModifiers', validators'⟩⟩ =>
      facets == facets' && Attribute.areEqual attributes attributes' &&
        Block.areEqual blocks blocks' && custom == custom' && external == external' &&
        planModifiers == planModifiers' && validators == validators'
  | _, _ => false

/-- Whether two single nested blocks, which may be missing, are equal. -/
def SingleNestedBlock.isEqual : Option SingleNestedBlock → Option SingleNestedBlock → Bool
  | none, none => true
  | some ⟨facets, attributes, blocks, external⟩,
      some ⟨facets', attributes', blocks', external'⟩ =>
      facets == facets' && Attribute.areEqual attributes attributes' &&
        Block.areEqual blocks blocks' && external == external'
  | _, _ => false

def Block.areEqual : List Block → List Block → Bool
  | [], [] => true
  | first :: rest, first' :: rest' => first.isEqual first' && Block.areEqual rest rest'
  | _, _ => false

end

def Schema.isEqual (a b : Schema) : Bool :=
  Attribute.areEqual a.attributes b.attributes && Block.areEqual a.blocks b.blocks &&
    a.description == b.description && a.markdownDescription == b.markdownDescription &&
    a.deprecationMessage == b.deprecationMessage

instance : BEq Schema := ⟨Schema.isEqual⟩

def Resource.isEqual (a b : Resource) : Bool :=
  a.name == b.name && a.schema == b.schema

instance : BEq Resource := ⟨Resource.isEqual⟩

end Spec

def Specification.isEqual (a b : Specification) : Bool :=
  a.version == b.version && a.resources == b.resources

instance : BEq Specification := ⟨Specification.isEqual⟩

end ProviderCodegen
