import ProviderCodegen.Schema.ElementType

/-! # Attributes and blocks

The tree of a schema. Every attribute and block is of one kind, and children are kept in order of
their names. Attributes hold attributes only; blocks hold attributes and blocks.
-/

namespace ProviderCodegen.Schema

open Spec (CustomType ExternalType Snippet)

/-- What an object that holds attributes has of its own: the object that a nested attribute or block
repeats, or a single nested one. -/
structure ObjectFacets where
  customType : Option CustomType := none
  externalType : Option ExternalType := none
  planModifiers : List Snippet := []
  validators : List Snippet := []
deriving Repr, DecidableEq

/-- The object of a single nested attribute or block, which has no facets beside the node's. -/
def ObjectFacets.single (facets : Facets) (external : Option ExternalType) : ObjectFacets where
  customType := facets.customType
  externalType := external
  planModifiers := facets.planModifiers
  validators := facets.validators

/-- An attribute. -/
inductive Attribute
  | primitive (kind : PrimitiveKind) (facets : Facets) (default : Option Default)
  | collection (kind : CollectionKind) (facets : Facets) (element : ElementType)
      (default : Option Default)
  | nested (kind : CollectionKind) (facets : Facets) (object : ObjectFacets)
      (attributes : List (String × Attribute)) (default : Option Default)
  | singleNested (facets : Facets) (attributes : List (String × Attribute))
      (external : Option ExternalType) (default : Option Default)
  | object (facets : Facets) (fields : Fields) (external : Option ExternalType)
      (default : Option Default)

abbrev Attributes := NameMap Attribute

/-- A block. -/
inductive Block
  | nested (kind : RepeatedKind) (facets : Facets) (object : ObjectFacets)
      (attributes : Attributes) (blocks : List (String × Block))
  | singleNested (facets : Facets) (attributes : Attributes) (blocks : List (String × Block))
      (external : Option ExternalType)

abbrev Blocks := NameMap Block

namespace Attribute

def kind : Attribute → AttributeKind
  | primitive kind _ _ => .primitive kind
  | collection kind _ _ _ => .collection kind
  | nested kind _ _ _ _ => .nested kind
  | singleNested _ _ _ _ => .singleNested
  | object _ _ _ _ => .object

/-- The attributes inside, `none` for kinds without. -/
def attributes? : Attribute → Option Attributes
  | nested _ _ _ attributes _ => some attributes
  | singleNested _ attributes _ _ => some attributes
  | _ => none

end Attribute

namespace Block

def kind : Block → BlockKind
  | nested kind _ _ _ _ => .nested kind
  | singleNested _ _ _ _ => .singleNested

def attributes : Block → Attributes
  | nested _ _ _ attributes _ => attributes
  | singleNested _ attributes _ _ => attributes

def blocks : Block → Blocks
  | nested _ _ _ _ blocks => blocks
  | singleNested _ _ blocks _ => blocks

end Block

/-! ## Building -/

def ObjectFacets.ofSpec (custom : Option CustomType) (external : Option ExternalType)
    (planModifiers validators : List Spec.Hook) : ObjectFacets where
  customType := custom
  externalType := external
  planModifiers := customHooks planModifiers
  validators := customHooks validators

/-- Put a node under its name. A name that is taken is an error whatever the node is, so the node
comes with its own outcome. -/
def addChild {α : Type} (kind : Spec.ChildKind) (built : NameMap α) (name : String)
    (node : Except BuildError α) : Except BuildError (NameMap α) :=
  if built.contains name then .error (.duplicateName kind name)
  else node.map fun node => built.insert name node

namespace Attribute

/-- A primitive attribute, if the kind is set. -/
def buildPrimitive? {δ : Type} (kind : PrimitiveKind) (default : Option δ → Option Default)
    (spec : Option (Spec.PrimitiveAttribute δ)) : Option (Except BuildError Attribute) :=
  spec.map fun spec => .ok (.primitive kind (.ofAttribute spec.facets) (default spec.default))

/-- A collection of elements, if the kind is set. -/
def buildCollection? (kind : CollectionKind) (spec : Option Spec.CollectionAttribute) :
    Option (Except BuildError Attribute) :=
  spec.map fun spec => do
    let element ← ElementType.build spec.elementType
    return .collection kind (.ofAttribute spec.facets) element (Default.ofCustom spec.default)

/-- An object of typed fields, if the kind is set. -/
def buildObject? (spec : Option Spec.ObjectAttribute) : Option (Except BuildError Attribute) :=
  spec.map fun spec => do
    let fields ← Fields.build spec.attributeTypes
    let facets := Facets.ofAttribute spec.facets
    return .object facets fields spec.externalType (Default.ofCustom spec.default)

mutual

/-- The attribute that a kind gives, if the kind is set. -/
def buildKind? (kind : AttributeKind) : Spec.Attribute → Option (Except BuildError Attribute)
  | ⟨_, bool, float64, int64, number, string, list, map, set, listNested, mapNested, setNested,
      single, fixed⟩ =>
      match kind with
      | .primitive .bool => buildPrimitive? .bool (Default.ofLiteral .bool) bool
      | .primitive .float64 => buildPrimitive? .float64 (Default.ofLiteral .float64) float64
      | .primitive .int64 => buildPrimitive? .int64 (Default.ofLiteral .int64) int64
      | .primitive .number => buildPrimitive? .number Default.ofCustom number
      | .primitive .string => buildPrimitive? .string (Default.ofLiteral .string) string
      | .collection .list => buildCollection? .list list
      | .collection .map => buildCollection? .map map
      | .collection .set => buildCollection? .set set
      | .nested .list => buildNested? .list listNested
      | .nested .map => buildNested? .map mapNested
      | .nested .set => buildNested? .set setNested
      | .singleNested => buildSingle? single
      | .object => buildObject? fixed

/-- A collection of objects, if the kind is set. -/
def buildNested? (kind : CollectionKind) :
    Option Spec.NestedAttribute → Option (Except BuildError Attribute)
  | none => none
  | some ⟨facets, ⟨attributes, custom, external, planModifiers, validators⟩, default⟩ => some do
      let attributes ← buildAll [] attributes
      return .nested kind (.ofAttribute facets)
        (.ofSpec custom external planModifiers validators) attributes (Default.ofCustom default)

/-- A single object, if the kind is set. -/
def buildSingle? : Option Spec.SingleNestedAttribute → Option (Except BuildError Attribute)
  | none => none
  | some ⟨facets, attributes, external, default⟩ => some do
      let attributes ← buildAll [] attributes
      return .singleNested (.ofAttribute facets) attributes external (Default.ofCustom default)

/-- Add attributes to those that are built already. -/
def buildAll (built : Attributes) : List Spec.Attribute → Except BuildError Attributes
  | [] => return built
  | spec :: rest => do
      let node := (AttributeKind.all.findSome? fun kind => buildKind? kind spec).getD
        (.error (.undefinedAttribute spec.name))
      buildAll (← addChild .attr built spec.name node) rest

end

/-- The attribute of a specification: the first kind that is set. -/
def build (spec : Spec.Attribute) : Except BuildError Attribute :=
  (AttributeKind.all.findSome? fun kind => buildKind? kind spec).getD
    (.error (.undefinedAttribute spec.name))

/-- The attribute that a specification describes as one of the given kind. -/
def buildAs (kind : AttributeKind) (spec : Spec.Attribute) : Except BuildError Attribute :=
  (buildKind? kind spec).getD (.error (.nilAttribute kind))

end Attribute

def Attributes.build (specs : List Spec.Attribute) : Except BuildError Attributes :=
  Attribute.buildAll [] specs

namespace Block

mutual

/-- The block that a kind gives, if the kind is set. -/
def buildKind? (kind : BlockKind) : Spec.Block → Option (Except BuildError Block)
  | ⟨_, listNested, setNested, single⟩ =>
      match kind with
      | .nested .list => buildNested? .list listNested
      | .nested .set => buildNested? .set setNested
      | .singleNested => buildSingle? single

def buildNested? (kind : RepeatedKind) :
    Option Spec.NestedBlock → Option (Except BuildError Block)
  | none => none
  | some ⟨facets, ⟨attributes, blocks, custom, external, planModifiers, validators⟩⟩ => some do
      let attributes ← Attributes.build attributes
      let blocks ← buildAll [] blocks
      return .nested kind (.ofBlock facets)
        (.ofSpec custom external planModifiers validators) attributes blocks

def buildSingle? : Option Spec.SingleNestedBlock → Option (Except BuildError Block)
  | none => none
  | some ⟨facets, attributes, blocks, external⟩ => some do
      let attributes ← Attributes.build attributes
      let blocks ← buildAll [] blocks
      return .singleNested (.ofBlock facets) attributes blocks external

/-- Add blocks to those that are built already. -/
def buildAll (built : Blocks) : List Spec.Block → Except BuildError Blocks
  | [] => return built
  | spec :: rest => do
      let node := (BlockKind.all.findSome? fun kind => buildKind? kind spec).getD
        (.error (.undefinedBlock spec.name))
      buildAll (← addChild .block built spec.name node) rest

end

/-- The block of a specification: the first kind that is set. -/
def build (spec : Spec.Block) : Except BuildError Block :=
  (BlockKind.all.findSome? fun kind => buildKind? kind spec).getD
    (.error (.undefinedBlock spec.name))

/-- The block that a specification describes as one of the given kind. -/
def buildAs (kind : BlockKind) (spec : Spec.Block) : Except BuildError Block :=
  (buildKind? kind spec).getD (.error (.nilBlock kind))

end Block

def Blocks.build (specs : List Spec.Block) : Except BuildError Blocks :=
  Block.buildAll [] specs

end ProviderCodegen.Schema
