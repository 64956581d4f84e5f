import ProviderCodegen.NameMap
import ProviderCodegen.Schema.Error
import ProviderCodegen.Schema.Facets

/-! # Element types

The types of collection elements and of object fields. A custom type takes the place of everything
below it: of the type expression, of the value type and of the imports.
-/

namespace ProviderCodegen.Schema

open Source (ImportSet composite emptyComposite inQuotes)
open Spec (CustomType)

/-- The type of an element or a field. The fields of an object keep their order. -/
inductive ElementType
  | primitive (kind : PrimitiveKind) (custom : Option CustomType)
  | collection (kind : CollectionKind) (element : ElementType) (custom : Option CustomType)
  | object (fields : List (String × ElementType)) (custom : Option CustomType)
deriving Inhabited

/-- The fields of an object. -/
abbrev Fields := List (String × ElementType)

/-- The literal of a map from names to types. -/
def attrTypesLiteral (types : List (String × String)) : String :=
  if types.isEmpty then emptyComposite "map[string]attr.Type"
  else composite "map[string]attr.Type"
    (types.map fun (name, type) => inQuotes name ++ ": " ++ type ++ ",")

namespace ElementType

def customType : ElementType → Option CustomType
  | primitive _ custom => custom
  | collection _ _ custom => custom
  | object _ custom => custom

mutual

def expression : ElementType → String
  | primitive _ (some custom) => custom.type
  | collection _ _ (some custom) => custom.type
  | object _ (some custom) => custom.type
  | primitive kind none => "types." ++ kind.name ++ "Type"
  | collection kind element none =>
      composite ("types." ++ kind.name ++ "Type") ["ElemType: " ++ element.expression ++ ","]
  | object fields none =>
      composite "types.ObjectType"
        ["AttrTypes: " ++ attrTypesLiteral (NameMap.sorted (expressions fields)) ++ ","]

/-- The expressions of the types of fields, under the names of the fields. -/
def expressions : Fields → List (String × String)
  | [] => []
  | (name, type) :: rest => (name, type.expression) :: expressions rest

end

def valueType : ElementType → String
  | primitive _ (some custom) => custom.valueType
  | collection _ _ (some custom) => custom.valueType
  | object _ (some custom) => custom.valueType
  | primitive kind none => kind.valueType
  | collection kind _ none => kind.valueType
  | object _ none => "basetypes.ObjectValue"

mutual

/-- The imports of an expression apart from those of the framework's types. -/
def partImports : ElementType → ImportSet
  | primitive _ (some custom) => .ofList custom.package.toList
  | collection _ _ (some custom) => .ofList custom.package.toList
  | object _ (some custom) => .ofList custom.package.toList
  | primitive _ none => .empty
  | collection _ element none => element.partImports
  | object fields none => partImportsAll (.ofPaths [Source.Framework.attr]) fields

/-- Add the imports of fields, in their order. -/
def partImportsAll (imports : ImportSet) : Fields → ImportSet
  | [] => imports
  | (_, type) :: rest => partImportsAll (imports ∪ type.partImports) rest

end

def imports (type : ElementType) : ImportSet :=
  .ofPaths [Source.Framework.types] ∪ type.partImports

end ElementType

namespace Fields

/-- The literal of the types of fields, by name. -/
def literal (fields : Fields) : String :=
  attrTypesLiteral (NameMap.sorted (ElementType.expressions fields))

def imports (fields : Fields) : ImportSet :=
  fields.foldl (fun imports field => imports ∪ field.2.imports)
    (.ofPaths [Source.Framework.types, Source.Framework.attr])

end Fields

/-! ## Building -/

/-- A primitive element type, if the kind is set. -/
def ElementType.buildPrimitive? (kind : PrimitiveKind) (spec : Option Spec.PrimitiveType) :
    Option (Except BuildError ElementType) :=
  spec.map fun spec => .ok (.primitive kind spec.customType)

mutual

/-- The element type that a kind gives, if the kind is set. -/
def ElementType.buildKind? (kind : ElementKind) :
    Spec.ElementType → Option (Except BuildError ElementType)
  | ⟨bool, float64, int64, number, string, list, map, set, objectType⟩ =>
      match kind with
      | .primitive .bool => buildPrimitive? .bool bool
      | .primitive .float64 => buildPrimitive? .float64 float64
      | .primitive .int64 => buildPrimitive? .int64 int64
      | .primitive .number => buildPrimitive? .number number
      | .primitive .string => buildPrimitive? .string string
      | .collection .list => buildCollection? .list list
      | .collection .map => buildCollection? .map map
      | .collection .set => buildCollection? .set set
      | .object => buildObject? objectType

/-- A collection, if the kind is set. -/
def ElementType.buildCollection? (kind : CollectionKind) :
    Option Spec.CollectionType → Option (Except BuildError ElementType)
  | none => none
  | some ⟨element, custom⟩ => some do
      let element ← (ElementKind.all.findSome? fun kind => buildKind? kind element).getD
        (.error .undefinedElement)
      return .collection kind element custom

/-- An object, if the kind is set. -/
def ElementType.buildObject? : Option Spec.ObjectType → Option (Except BuildError ElementType)
  | none => none
  | some ⟨fields, custom⟩ => some do return .object (← buildFields fields) custom

/-- The fields of an object, in their order. -/
def ElementType.buildFields : List Spec.ObjectField → Except BuildError Fields
  | [] => return []
  | ⟨name, kind⟩ :: rest => do
      let type ← (ElementKind.all.findSome? fun k => buildKind? k kind).getD
        (.error (.undefinedField name))
      return (name, type) :: (← buildFields rest)

end

/-- The element type of a specification: the first kind that is set. -/
def ElementType.build (spec : Spec.ElementType) : Except BuildError ElementType :=
  (ElementKind.all.findSome? fun kind => buildKind? kind spec).getD (.error .undefinedElement)

def Fields.build (specs : List Spec.ObjectField) : Except BuildError Fields :=
  ElementType.buildFields specs

end ProviderCodegen.Schema
