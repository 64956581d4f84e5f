import ProviderCodegen.Conversion.Methods
import ProviderCodegen.Schema.Types

/-! # Conversions of a schema

Which attributes and blocks convert, and which conversion methods a schema gives rise to. Only
objects with an external type get methods, only if their value type is one of the generated package,
and only if all objects around them have external types too. For lists and maps of such objects
nothing is generated.
-/

namespace ProviderCodegen

open Conversion (ConversionMethods ConvertedField Direction Plan collectionPlan elementPlan
  objectPlan)
open Source (isLocalType)
open Spec (ExternalType)

namespace Schema

/-! ## Plans -/

/-- A value of a kind converts unless its type is custom. -/
def requireKindType (facets : Facets) (word name : String) : Except Unsupported Unit :=
  if facets.customType.isSome then
    .error ⟨"conversion of " ++ word ++ " attribute " ++ name ++ " with a custom type"⟩
  else .ok ()

/-- Objects inside collections have no conversion. -/
def nestedUnsupported (kind : CollectionKind) (child : Spec.ChildKind) (name : String) :
    Unsupported :=
  ⟨"conversion of " ++ kind.word ++ "-nested " ++ child.word ++ " " ++ name⟩

/-- Single objects that hold attributes have no conversion. -/
def singleUnsupported (child : Spec.ChildKind) (name : String) : Unsupported :=
  ⟨"conversion of single-nested " ++ child.word ++ " " ++ name⟩

def fixedObjectPlan (direction : Direction) (name : String) (facets : Facets) (fields : Fields)
    (external : Option ExternalType) : Except Unsupported Plan :=
  match external with
  | some external =>
      let type := facets.valueTypeOr (Source.valueName name)
      if isLocalType type then .ok (.external external type)
      else .error ⟨"conversion of object attribute " ++ name ++ " with non-local value type " ++
        type⟩
  | none => do
      requireKindType facets "object" name
      objectPlan direction fields name

def Attribute.plan (direction : Direction) (name : String) : Attribute → Except Unsupported Plan
  | primitive kind facets _ => do
      requireKindType facets kind.word name
      return .value (.function (direction.function kind))
  | collection kind facets element _ => do
      requireKindType facets kind.word name
      return .value (← collectionPlan kind element name)
  | nested kind _ _ _ _ => .error (nestedUnsupported kind .attr name)
  | singleNested _ _ _ _ => .error (singleUnsupported .attr name)
  | object facets fields external _ => fixedObjectPlan direction name facets fields external

def Block.plan (name : String) : Block → Except Unsupported Plan
  | nested kind _ _ _ _ => .error (nestedUnsupported kind.collection .block name)
  | singleNested _ _ _ _ => .error (singleUnsupported .block name)

/-! ## Methods -/

def Attributes.converted (attributes : Attributes) : List ConvertedField :=
  attributes.filterMap fun (name, node) => ConvertedField.ofPlans? name (node.plan · name)

def Blocks.converted (blocks : Blocks) : List ConvertedField :=
  blocks.filterMap fun (name, node) => ConvertedField.ofPlans? name fun _ => node.plan name

def Fields.converted (fields : Fields) : List ConvertedField :=
  (NameMap.sorted fields).filterMap fun (name, type) =>
    ConvertedField.ofPlans? name fun direction => return .value (← elementPlan direction type name)

/-- The methods of an object, if its value type is local. -/
def ownMethods (receiver : String) (external : ExternalType) (fields : List ConvertedField) :
    List ConversionMethods :=
  if isLocalType receiver then [{ receiver, external, fields }] else []

/-- The methods of an object that holds attributes, and of what is inside: nothing without an
external type. -/
def ObjectFacets.methods (object : ObjectFacets) (name : String) (fields : List ConvertedField)
    (inside : Except Unsupported (List ConversionMethods)) :
    Except Unsupported (List ConversionMethods) :=
  match object.externalType with
  | some external => return ownMethods (object.valueType name) external fields ++ (← inside)
  | none => return []

/-- The methods of the objects in a collection: only sets of them convert. -/
def collectionMethods (kind : CollectionKind) (child : Spec.ChildKind) (name : String)
    (object : ObjectFacets) (methods : Except Unsupported (List ConversionMethods)) :
    Except Unsupported (List ConversionMethods) :=
  match kind with
  | .set => methods
  | kind =>
      if object.externalType.isSome then throw (nestedUnsupported kind child name) else return []

/-- The methods of a node, none for what does not convert. -/
def supported (methods : Except Unsupported (List ConversionMethods)) : List ConversionMethods :=
  match methods with
  | .ok methods => methods
  | .error _ => []

namespace Attribute

mutual

def methods (name : String) : Attribute → Except Unsupported (List ConversionMethods)
  | primitive _ _ _ => return []
  | collection _ _ _ _ => return []
  | nested kind _ item attributes _ =>
      collectionMethods kind .attr name item
        (item.methods name (Attributes.converted attributes) (methodsAll attributes))
  | singleNested facets attributes external _ =>
      (ObjectFacets.single facets external).methods name (Attributes.converted attributes)
        (methodsAll attributes)
  | object facets fields external _ =>
      (ObjectFacets.single facets external).methods name (Fields.converted fields) (.ok [])

/-- The methods of attributes, in their order, without those that do not convert. -/
def methodsAll : List (String × Attribute) → Except Unsupported (List ConversionMethods)
  | [] => return []
  | (name, first) :: rest => return supported (first.methods name) ++ (← methodsAll rest)

end

/-- What does not convert takes away its own methods and no others. -/
theorem methodsAll_eq (attributes : List (String × Attribute)) :
    methodsAll attributes =
      .ok (attributes.flatMap fun (name, node) => supported (node.methods name)) := by
  induction attributes with
  | nil => rfl
  | cons entry rest ih => rw [methodsAll, ih, List.flatMap_cons]; rfl

end Attribute

def Attributes.methods (attributes : Attributes) : Except Unsupported (List ConversionMethods) :=
  Attribute.methodsAll attributes

namespace Block

mutual

/-- The methods of a block and of what is inside. -/
def methods (name : String) : Block → Except Unsupported (List ConversionMethods)
  | nested kind _ item attributes blocks =>
      collectionMethods kind.collection .block name item
        (item.methods name (Attributes.converted attributes ++ Blocks.converted blocks)
          (return (← Attributes.methods attributes) ++ (← methodsAll blocks)))
  | singleNested facets attributes blocks external =>
      (ObjectFacets.single facets external).methods name
        (Attributes.converted attributes ++ Blocks.converted blocks)
        (return (← Attributes.methods attributes) ++ (← methodsAll blocks))

/-- The methods of blocks, in their order, without those that do not convert. -/
def methodsAll : List (String × Block) → Except Unsupported (List ConversionMethods)
  | [] => return []
  | (name, first) :: rest => return supported (first.methods name) ++ (← methodsAll rest)

end

theorem methodsAll_eq (blocks : List (String × Block)) :
    methodsAll blocks =
      .ok (blocks.flatMap fun (name, node) => supported (node.methods name)) := by
  induction blocks with
  | nil => rfl
  | cons entry rest ih => rw [methodsAll, ih, List.flatMap_cons]; rfl

end Block

def Blocks.methods (blocks : Blocks) : Except Unsupported (List ConversionMethods) :=
  Block.methodsAll blocks

end Schema

end ProviderCodegen
