import ProviderCodegen.Source.Import

/-! # Specifications

A specification lists resources, and a resource has a schema of attributes and blocks. The types
here hold a specification as it is written: an attribute, a block and an element type may set any
number of their kinds, and nothing is checked yet. Which kind counts, and whether one is set at all,
is decided when a schema is built.
-/

namespace ProviderCodegen.Spec

open Source (Import)

/-- Whether a value comes from the provider, from the configuration or from either. -/
inductive Requirement
  | computed
  | computedOptional
  | optional
  | required
deriving Repr, DecidableEq

/-- Go types that take the place of the framework's. -/
structure CustomType where
  package : Option Import
  type : String
  valueType : String
deriving Repr, DecidableEq

/-- A Go type that values convert to and from. -/
structure ExternalType where
  package : Option Import
  type : String
deriving Repr, DecidableEq

/-- A piece of Go source and the imports it needs. -/
structure Snippet where
  imports : List Import
  code : String
deriving Repr, DecidableEq

/-- A validator or a plan modifier. Only custom ones have code. -/
structure Hook where
  custom : Option Snippet
deriving Repr, DecidableEq

/-- A default of a kind that has no literals. -/
structure CustomDefault where
  custom : Option Snippet
deriving Repr, DecidableEq

/-- A default of a kind with literals. A literal goes before code. -/
structure LiteralDefault (α : Type) where
  literal : Option α
  custom : Option Snippet
deriving BEq

/-- What attributes of every kind have in common. -/
structure AttributeFacets where
  requirement : Option Requirement := none
  customType : Option CustomType := none
  deprecationMessage : Option String := none
  description : Option String := none
  sensitive : Option Bool := none
  planModifiers : List Hook := []
  validators : List Hook := []
deriving Repr, DecidableEq

/-- What blocks of every kind have in common. -/
structure BlockFacets where
  customType : Option CustomType := none
  deprecationMessage : Option String := none
  description : Option String := none
  planModifiers : List Hook := []
  validators : List Hook := []
deriving Repr, DecidableEq

structure PrimitiveType where
  customType : Option CustomType
deriving Repr, DecidableEq

mutual

/-- The type of the elements of a collection, with every kind that is set. -/
structure ElementType where
  bool : Option PrimitiveType := none
  float64 : Option PrimitiveType := none
  int64 : Option PrimitiveType := none
  number : Option PrimitiveType := none
  string : Option PrimitiveType := none
  list : Option CollectionType := none
  map : Option CollectionType := none
  set : Option CollectionType := none
  object : Option ObjectType := none

/-- A list, map or set as an element type. -/
structure CollectionType where
  elementType : ElementType
  customType : Option CustomType

structure ObjectType where
  attributeTypes : List ObjectField
  customType : Option CustomType

structure ObjectField where
  name : String
  kind : ElementType

end

/-- An attribute of a primitive kind, whose defaults are of type `δ`. -/
structure PrimitiveAttribute (δ : Type) where
  facets : AttributeFacets
  default : Option δ
deriving BEq

/-- A list, map or set attribute. -/
structure CollectionAttribute where
  facets : AttributeFacets
  elementType : ElementType
  default : Option CustomDefault

structure ObjectAttribute where
  facets : AttributeFacets
  attributeTypes : List ObjectField
  externalType : Option ExternalType
  default : Option CustomDefault

mutual

/-- A named attribute, with every kind that is set. -/
structure Attribute where
  name : String
  bool : Option (PrimitiveAttribute (LiteralDefault Bool)) := none
  float64 : Option (PrimitiveAttribute (LiteralDefault Float)) := none
  int64 : Option (PrimitiveAttribute (LiteralDefault Int64)) := none
  number : Option (PrimitiveAttribute CustomDefault) := none
  string : Option (PrimitiveAttribute (LiteralDefault String)) := none
  list : Option CollectionAttribute := none
  map : Option CollectionAttribute := none
  set : Option CollectionAttribute := none
  listNested : Option NestedAttribute := none
  mapNested : Option NestedAttribute := none
  setNested : Option NestedAttribute := none
  singleNested : Option SingleNestedAttribute := none
  object : Option ObjectAttribute := none

/-- A list, map or set of objects. -/
structure NestedAttribute where
  facets : AttributeFacets
  nestedObject : NestedAttributeObject
  default : Option CustomDefault

structure NestedAttributeObject where
  attributes : List Attribute
  customType : Option CustomType
  externalType : Option ExternalType
  planModifiers : List Hook
  validators : List Hook

structure SingleNestedAttribute where
  facets : AttributeFacets
  attributes : List Attribute
  externalType : Option ExternalType
  default : Option CustomDefault

end

mutual

/-- A named block, with every kind that is set. -/
structure Block where
  name : String
  listNested : Option NestedBlock := none
  setNested : Option NestedBlock := none
  singleNested : Option SingleNestedBlock := none

structure NestedBlock where
  facets : BlockFacets
  nestedObject : NestedBlockObject

structure NestedBlockObject where
  attributes : List Attribute
  blocks : List Block
  customType : Option CustomType
  externalType : Option ExternalType
  planModifiers : List Hook
  validators : List Hook

structure SingleNestedBlock where
  facets : BlockFacets
  attributes : List Attribute
  blocks : List Block
  externalType : Option ExternalType

end

/-- The kinds of an element type, in the order in which they count. -/
def ElementType.kindNames : List String :=
  ["bool", "float64", "int64", "number", "string", "list", "map", "set", "object"]

/-- The kinds of an attribute, in the order in which they count. -/
def Attribute.kindNames : List String :=
  ["bool", "float64", "int64", "number", "string", "list", "map", "set", "list_nested",
   "map_nested", "set_nested", "single_nested", "object"]

/-- The kinds of a block, in the order in which they count. -/
def Block.kindNames : List String :=
  ["list_nested", "set_nested", "single_nested"]

/-- What a schema and a nested object hold under names. -/
inductive ChildKind
  | attr
  | block
deriving Repr, DecidableEq

def ChildKind.word : ChildKind → String
  | attr => "attribute"
  | block => "block"

structure Schema where
  attributes : List Attribute := []
  blocks : List Block := []
  description : Option String := none
  markdownDescription : Option String := none
  deprecationMessage : Option String := none

/-- A managed resource. -/
structure Resource where
  name : String
  schema : Schema

end ProviderCodegen.Spec

namespace ProviderCodegen

/-- A specification. -/
structure Specification where
  version : String
  resources : List Spec.Resource

end ProviderCodegen
