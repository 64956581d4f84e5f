import ProviderCodegen.Spec.Basic

/-! # Imports that a specification supplies

A specification supplies imports with custom and external types, and with defaults and hooks that
have code. All of them are collected here, also those of kinds that do not count because an earlier
one is set.
-/

namespace ProviderCodegen.Spec

open Source (Import)

def CustomType.supplied (custom : Option CustomType) : List Import :=
  (custom.bind (·.package)).toList

def ExternalType.supplied (external : Option ExternalType) : List Import :=
  (external.bind (·.package)).toList

/-- The imports of code, if there is some. -/
def Snippet.supplied (snippet : Option Snippet) : List Import :=
  (snippet.map (·.imports)).getD []

/-- The imports of validators or plan modifiers. -/
def Hook.supplied (hooks : List Hook) : List Import :=
  hooks.flatMap fun hook => Snippet.supplied hook.custom

def AttributeFacets.supplied (facets : AttributeFacets) : List Import :=
  CustomType.supplied facets.customType ++ Hook.supplied facets.planModifiers ++
    Hook.supplied facets.validators

def BlockFacets.supplied (facets : BlockFacets) : List Import :=
  CustomType.supplied facets.customType ++ Hook.supplied facets.planModifiers ++
    Hook.supplied facets.validators

/-- The import of the code of a default. -/
def CustomDefault.supplied (default : Option CustomDefault) : List Import :=
  Snippet.supplied (default.bind (·.custom))

/-- The import of the code of a default that may have a literal too. -/
def LiteralDefault.supplied {α : Type} (default : Option (LiteralDefault α)) : List Import :=
  Snippet.supplied (default.bind (·.custom))

def PrimitiveType.supplied (type : Option PrimitiveType) : List Import :=
  CustomType.supplied (type.bind (·.customType))

mutual

/-- The imports that an element type supplies, with every kind that is set. -/
def ElementType.supplied : ElementType → List Import
  | ⟨bool, float64, int64, number, string, list, map, set, object⟩ =>
      PrimitiveType.supplied bool ++ PrimitiveType.supplied float64 ++
        PrimitiveType.supplied int64 ++ PrimitiveType.supplied number ++
        PrimitiveType.supplied string ++ CollectionType.supplied list ++
        CollectionType.supplied map ++ CollectionType.supplied set ++ ObjectType.supplied object

def CollectionType.supplied : Option CollectionType → List Import
  | none => []
  | some ⟨element, custom⟩ => CustomType.supplied custom ++ ElementType.supplied element

def ObjectType.supplied : Option ObjectType → List Import
  | none => []
  | some ⟨fields, custom⟩ => CustomType.supplied custom ++ ObjectField.supplied fields

def ObjectField.supplied : List ObjectField → List Import
  | [] => []
  | ⟨_, type⟩ :: rest => ElementType.supplied type ++ ObjectField.supplied rest

end

/-- The imports of an attribute of a primitive kind, given those of its default. -/
def PrimitiveAttribute.supplied {δ : Type} (ofDefault : Option δ → List Import) :
    Option (PrimitiveAttribute δ) → List Import
  | none => []
  | some given => given.facets.supplied ++ ofDefault given.default

def CollectionAttribute.supplied : Option CollectionAttribute → List Import
  | none => []
  | some given => given.facets.supplied ++ given.elementType.supplied ++
      CustomDefault.supplied given.default

def ObjectAttribute.supplied : Option ObjectAttribute → List Import
  | none => []
  | some given => given.facets.supplied ++ ObjectField.supplied given.attributeTypes ++
      ExternalType.supplied given.externalType ++ CustomDefault.supplied given.default

mutual

/-- The imports that an attribute supplies, with every kind that is set. -/
def Attribute.supplied : Attribute → List Import
  | ⟨_, bool, float64, int64, number, string, list, map, set, listNested, mapNested, setNested,
      single, object⟩ =>
      PrimitiveAttribute.supplied LiteralDefault.supplied bool ++
        PrimitiveAttribute.supplied LiteralDefault.supplied float64 ++
        PrimitiveAttribute.supplied LiteralDefault.supplied int64 ++
        PrimitiveAttribute.supplied CustomDefault.supplied number ++
        PrimitiveAttribute.supplied LiteralDefault.supplied string ++
        CollectionAttribute.supplied list ++ CollectionAttribute.supplied map ++
        CollectionAttribute.supplied set ++ NestedAttribute.supplied listNested ++
        NestedAttribute.supplied mapNested ++ NestedAttribute.supplied setNested ++
        SingleNestedAttribute.supplied single ++ ObjectAttribute.supplied object

def NestedAttribute.supplied : Option NestedAttribute → List Import
  | none => []
  | some ⟨facets, ⟨attributes, custom, external, planModifiers, validators⟩, default⟩ =>
      facets.supplied ++ CustomType.supplied custom ++ ExternalType.supplied external ++
        Hook.supplied planModifiers ++ Hook.supplied validators ++
        CustomDefault.supplied default ++ Attribute.suppliedAll attributes

def SingleNestedAttribute.supplied : Option SingleNestedAttribute → List Import
  | none => []
  | some ⟨facets, attributes, external, default⟩ =>
      facets.supplied ++ ExternalType.supplied external ++ CustomDefault.supplied default ++
        Attribute.suppliedAll attributes

def Attribute.suppliedAll : List Attribute → List Import
  | [] => []
  | first :: rest => first.supplied ++ Attribute.suppliedAll rest

end

mutual

/-- The imports that a block supplies, with every kind that is set. -/
def Block.supplied : Block → List Import
  | ⟨_, listNested, setNested, single⟩ =>
      NestedBlock.supplied listNested ++ NestedBlock.supplied setNested ++
        SingleNestedBlock.supplied single

def NestedBlock.supplied : Option NestedBlock → List Import
  | none => []
  | some ⟨facets, ⟨attributes, blocks, custom, external, planModifiers, validators⟩⟩ =>
      facets.supplied ++ CustomType.supplied custom ++ ExternalType.supplied external ++
        Hook.supplied planModifiers ++ Hook.supplied validators ++
        Attribute.suppliedAll attributes ++ Block.suppliedAll blocks

def SingleNestedBlock.supplied : Option SingleNestedBlock → List Import
  | none => []
  | some ⟨facets, attributes, blocks, external⟩ =>
      facets.supplied ++ ExternalType.supplied external ++ Attribute.suppliedAll attributes ++
        Block.suppliedAll blocks

def Block.suppliedAll : List Block → List Import
  | [] => []
  | first :: rest => first.supplied ++ Block.suppliedAll rest

end

theorem NestedAttribute.subset_supplied (given : NestedAttribute) :
    given.facets.supplied ++ CustomType.supplied given.nestedObject.customType ++
      ExternalType.supplied given.nestedObject.externalType ++
      Hook.supplied given.nestedObject.planModifiers ++
      Hook.supplied given.nestedObject.validators ++ CustomDefault.supplied given.default ++
      Attribute.suppliedAll given.nestedObject.attributes ⊆
      NestedAttribute.supplied (some given) := by
  obtain ⟨facets, ⟨attributes, custom, external, planModifiers, validators⟩, default⟩ := given
  exact List.Subset.refl _

theorem SingleNestedAttribute.subset_supplied (given : SingleNestedAttribute) :
    given.facets.supplied ++ ExternalType.supplied given.externalType ++
      CustomDefault.supplied given.default ++ Attribute.suppliedAll given.attributes ⊆
      SingleNestedAttribute.supplied (some given) := by
  obtain ⟨facets, attributes, external, default⟩ := given
  exact List.Subset.refl _

theorem NestedBlock.subset_supplied (given : NestedBlock) :
    given.facets.supplied ++ CustomType.supplied given.nestedObject.customType ++
      ExternalType.supplied given.nestedObject.externalType ++
      Hook.supplied given.nestedObject.planModifiers ++
      Hook.supplied given.nestedObject.validators ++
      Attribute.suppliedAll given.nestedObject.attributes ++
      Block.suppliedAll given.nestedObject.blocks ⊆ NestedBlock.supplied (some given) := by
  obtain ⟨facets, ⟨attributes, blocks, custom, external, planModifiers, validators⟩⟩ := given
  exact List.Subset.refl _

theorem SingleNestedBlock.subset_supplied (given : SingleNestedBlock) :
    given.facets.supplied ++ ExternalType.supplied given.externalType ++
      Attribute.suppliedAll given.attributes ++ Block.suppliedAll given.blocks ⊆
      SingleNestedBlock.supplied (some given) := by
  obtain ⟨facets, attributes, blocks, external⟩ := given
  exact List.Subset.refl _

def Schema.supplied (schema : Schema) : List Import :=
  Attribute.suppliedAll schema.attributes ++ Block.suppliedAll schema.blocks

end ProviderCodegen.Spec
