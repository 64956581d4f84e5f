import ProviderCodegen.Generate
import ProviderCodegen.Proofs.Schema.Contributions
import ProviderCodegen.Proofs.Schema.Directions
import ProviderCodegen.Proofs.UsedPackages

/-! # Changes inside a schema

A change applies to what every node of a schema is given for itself: its facets, its element type or
typed fields, its default. Names and nesting stay. The model, the types and the conversions stay if
what they are made from does (`Change.KeepsCode`), and the whole file if its texts do
(`Change.KeepsText`); the imports are compared by the contributions of the nodes. A specification
that is rewritten part by part is built into a changed schema.
-/

namespace ProviderCodegen.Schema

open Conversion (ConvertedField Direction elementNativeType? objectPlan)
open Source (Import ImportSet)

/-- What becomes of the parts of nodes. -/
structure Change where
  facets : Facets → Facets := id
  element : ElementType → ElementType := id
  fields : Fields → Fields := id
  default : Default → Default := id

/-! ## Changed schemas -/

namespace Attribute

mutual

def changed (change : Change) : Attribute → Attribute
  | primitive kind facets default =>
      primitive kind (change.facets facets) (default.map change.default)
  | collection kind facets element default =>
      collection kind (change.facets facets) (change.element element) (default.map change.default)
  | nested kind facets item attributes default =>
      nested kind (change.facets facets) item (allChanged change attributes)
        (default.map change.default)
  | singleNested facets attributes external default =>
      singleNested (change.facets facets) (allChanged change attributes) external
        (default.map change.default)
  | object facets fields external default =>
      object (change.facets facets) (change.fields fields) external (default.map change.default)

def allChanged (change : Change) : List (String × Attribute) → List (String × Attribute)
  | [] => []
  | (name, first) :: rest => (name, first.changed change) :: allChanged change rest

end

theorem allChanged_eq (change : Change) (attributes : List (String × Attribute)) :
    allChanged change attributes = attributes.map (Prod.map id (changed change)) := by
  induction attributes with
  | nil => rfl
  | cons entry rest ih =>
    rw [allChanged, ih]
    rfl

end Attribute

namespace Block

mutual

/-- The block with a change in it and in all that is inside. -/
def changed (change : Change) : Block → Block
  | nested kind facets item attributes blocks =>
      nested kind (change.facets facets) item (Attribute.allChanged change attributes)
        (allChanged change blocks)
  | singleNested facets attributes blocks external =>
      singleNested (change.facets facets) (Attribute.allChanged change attributes)
        (allChanged change blocks) external

def allChanged (change : Change) : List (String × Block) → List (String × Block)
  | [] => []
  | (name, first) :: rest => (name, first.changed change) :: allChanged change rest

end

theorem allChanged_eq (change : Change) (blocks : List (String × Block)) :
    allChanged change blocks = blocks.map (Prod.map id (changed change)) := by
  induction blocks with
  | nil => rfl
  | cons entry rest ih =>
    rw [allChanged, ih]
    rfl

end Block

def Node.changed (change : Change) : Node → Node
  | attr node => attr (node.changed change)
  | block node => block (node.changed change)

def ResourceSchema.changed (change : Change) (schema : ResourceSchema) : ResourceSchema where
  __ := schema
  attributes := Attribute.allChanged change schema.attributes
  blocks := Block.allChanged change schema.blocks

variable {change : Change}

/-- A change keeps names, so attributes and blocks stay in their places. -/
theorem namedNodes_changed (change : Change) (attributes : Attributes) (blocks : Blocks) :
    namedNodes (Attribute.allChanged change attributes) (Block.allChanged change blocks) =
      (namedNodes attributes blocks).map (Prod.map id (Node.changed change)) := by
  rw [namedNodes, namedNodes, Attribute.allChanged_eq, Block.allChanged_eq, List.map_append,
    List.map_map, List.map_map, List.map_map, List.map_map]
  rfl

theorem Node.children_changed (change : Change) (node : Node) :
    (node.changed change).children = node.children.map (Prod.map id (changed change)) := by
  have inside (attributes : Attributes) (blocks : Blocks) :=
    namedNodes_changed change attributes blocks
  cases node with
  | attr node =>
    cases node with
    | nested kind facets item attributes default => exact inside attributes []
    | singleNested facets attributes external default => exact inside attributes []
    | primitive => rfl
    | collection => rfl
    | object => rfl
  | block node =>
    cases node with
    | nested kind facets item attributes blocks => exact inside attributes blocks
    | singleNested facets attributes blocks external => exact inside attributes blocks

/-- By induction on the node, as a change reaches all that is below it. -/
theorem Node.inside_changed (change : Change) (node : Node) :
    (node.changed change).inside = node.inside.map (Prod.map id (changed change)) := by
  induction node with
  | step node ih =>
    rw [inside_eq, inside_eq, children_changed, List.flatMap_map, List.map_flatMap]
    refine List.flatMap_congr fun child isChild => ?_
    exact congrArg (Prod.map id (changed change) child :: ·) (ih child isChild)

theorem ResourceSchema.children_changed (change : Change) (schema : ResourceSchema) :
    (schema.changed change).children = schema.children.map (Prod.map id (Node.changed change)) :=
  namedNodes_changed change schema.attributes schema.blocks

/-- All nodes at any depth are changed, in their order. -/
theorem ResourceSchema.nodes_changed (change : Change) (schema : ResourceSchema) :
    (schema.changed change).nodes = schema.nodes.map (Prod.map id (Node.changed change)) := by
  rw [nodes_eq, nodes_eq, children_changed, List.flatMap_map, List.map_flatMap]
  refine List.flatMap_congr fun entry _ => ?_
  exact congrArg (Prod.map id (Node.changed change) entry :: ·) (entry.2.inside_changed change)

/-! ## What shows in types -/

/-- Whether a change keeps the code that nodes are given, and all that the model, the generated
types and the conversions are made from. -/
structure Change.KeepsCode (change : Change) : Prop where
  customType : ∀ facets, (change.facets facets).customType = facets.customType
  planModifiers : ∀ facets, (change.facets facets).planModifiers = facets.planModifiers
  validators : ∀ facets, (change.facets facets).validators = facets.validators
  expression : ∀ type, (change.element type).expression = type.expression
  nativeType : ∀ type, elementNativeType? (change.element type) = elementNativeType? type
  literal : ∀ fields, Fields.literal (change.fields fields) = Fields.literal fields
  valueFields : ∀ fields, Fields.valueFields (change.fields fields) = Fields.valueFields fields
  converted : ∀ fields, Fields.converted (change.fields fields) = Fields.converted fields
  /-- Which field stops a plan may change. -/
  plan : ∀ direction fields subject,
    (objectPlan direction (change.fields fields) subject).toOption =
      (objectPlan direction fields subject).toOption

section Types

variable (keeps : change.KeepsCode)
include keeps

namespace Node

/-- Whether a type is generated depends on the kind and the custom type, which are kept. -/
theorem generatesType_changed (node : Node) :
    (node.changed change).generatesType = node.generatesType := by
  have custom := keeps.customType
  cases node with
  | attr node =>
    cases node <;> simp only [changed, Attribute.changed, generatesType, custom]
  | block node =>
    cases node <;> simp only [changed, Block.changed, generatesType, custom]

theorem modelField_changed (name : String) (node : Node) :
    (node.changed change).modelField name = node.modelField name := by
  have custom := keeps.customType
  cases node with
  | attr node =>
    cases node <;> simp only [changed, Attribute.changed, modelField, Attribute.modelField, custom]
  | block node =>
    cases node <;> simp only [changed, Block.changed, modelField, Block.modelField, custom]

theorem valueType_changed (name : String) (node : Node) :
    (node.changed change).valueType name = node.valueType name := by
  have custom := keeps.customType
  cases node with
  | attr node =>
    cases node <;> simp only [changed, Attribute.changed, valueType, Attribute.valueType,
      Facets.valueTypeOr, custom]
  | block node =>
    cases node <;> simp only [changed, Block.changed, valueType, Block.valueType,
      Facets.valueTypeOr, custom]

theorem valueField_changed (name : String) (node : Node) :
    (node.changed change).valueField name = node.valueField name := by
  have custom := keeps.customType
  have attrType : (node.changed change).attrType name = node.attrType name := by
    cases node with
    | attr node =>
      cases node <;> simp only [changed, Attribute.changed, Node.attrType, Attribute.attrType,
        Facets.attrTypeOr, custom, keeps.expression, keeps.literal]
    | block node =>
      cases node <;> simp only [changed, Block.changed, Node.attrType, Block.attrType,
        Facets.attrTypeOr, custom]
  rw [valueField, attrType, valueType_changed keeps, ← valueField]

theorem valueFields_changed (node : Node) :
    (node.changed change).valueFields = node.valueFields := by
  have ofChildren :
      ((node.changed change).children.map fun entry => entry.2.valueField entry.1) =
        node.children.map fun entry => entry.2.valueField entry.1 := by
    rw [children_changed, List.map_map]
    exact List.map_congr_left fun entry _ => valueField_changed keeps entry.1 entry.2
  cases node with
  | attr node =>
    cases node with
    | object facets fields external default => exact keeps.valueFields fields
    | _ => exact ofChildren
  | block node => exact ofChildren

/-- The types of nodes below are generated from the names and fields that they had. -/
theorem valueTypes_changed (node : Node) :
    ∀ name, (node.changed change).valueTypes name = node.valueTypes name := by
  induction node with
  | step node ih =>
    intro name
    rw [valueTypes_eq, valueTypes_eq, generatedType, generatesType_changed keeps,
      valueFields_changed keeps, ← generatedType, children_changed, List.flatMap_map]
    exact congrArg _ (List.flatMap_congr fun child isChild => ih child isChild child.1)

/-! ## What shows in conversions -/

omit keeps in
/-- Fields convert alike if they have the same plans. -/
private theorem ofPlans?_congr {name : String}
    {first second : Direction → Except Unsupported Conversion.Plan}
    (same : ∀ direction, (first direction).toOption = (second direction).toOption) :
    ConvertedField.ofPlans? name first = ConvertedField.ofPlans? name second := by
  have fromOptions (plan : Direction → Except Unsupported Conversion.Plan) :
      ConvertedField.ofPlans? name plan = (plan .toNative).toOption.bind fun toNative =>
        (plan .ofNative).toOption.map fun ofNative => { name, toNative, ofNative } := by
    unfold ConvertedField.ofPlans?
    cases plan .toNative <;> cases plan .ofNative <;> rfl
  rw [fromOptions, fromOptions, same, same]

/-- Which node stops a plan may change. -/
theorem plan_changed (direction : Direction) (name : String) (node : Node) :
    ((node.changed change).plan direction name).toOption = (node.plan direction name).toOption := by
  have custom := keeps.customType
  cases node with
  | attr node =>
    cases node with
    | object facets fields external default =>
      cases external with
      | some external =>
        simp only [changed, Attribute.changed, plan, Attribute.plan, fixedObjectPlan,
          Facets.valueTypeOr, custom]
        rfl
      | none =>
        have same := keeps.plan direction fields name
        simp only [changed, Attribute.changed, plan, Attribute.plan, fixedObjectPlan,
          requireKindType, custom]
        split_ifs
        · rfl
        · exact same
    | _ => simp only [changed, Attribute.changed, plan, Attribute.plan, requireKindType, custom,
        Conversion.collectionPlan, keeps.nativeType, keeps.expression]
  | block node => cases node <;> rfl

/-- Conversions are planned from element types, whose plans are kept. -/
theorem converted_changed (node : Node) : (node.changed change).converted = node.converted := by
  have ofChildren (holdsNodes : node.isTypedObject = false)
      (still : (node.changed change).isTypedObject = false) :
      (node.changed change).converted = node.converted := by
    rw [converted_eq still, converted_eq holdsNodes, children_changed, List.filterMap_map]
    refine List.filterMap_congr fun child _ => ?_
    exact ofPlans?_congr fun direction => plan_changed keeps direction child.1 child.2
  cases node with
  | attr node =>
    cases node with
    | object facets fields external default => exact keeps.converted fields
    | _ => exact ofChildren rfl rfl
  | block node => exact ofChildren rfl rfl

theorem receiver_changed (name : String) (node : Node) :
    (node.changed change).receiver name = node.receiver name := by
  have valueType := valueType_changed keeps name node
  cases node with
  | attr node =>
    cases node with
    | nested => rfl
    | _ => exact valueType
  | block node =>
    cases node with
    | nested => rfl
    | _ => exact valueType

/-- What is around a place plays no part, so it is left empty here. -/
theorem methods?_changed (name : String) (node : Node) :
    Place.methods? ⟨[], name, node.changed change⟩ = Place.methods? ⟨[], name, node⟩ := by
  have kinds : (node.changed change).isSingleOrSet = node.isSingleOrSet ∧
      (node.changed change).isTypedObject = node.isTypedObject ∧
      (node.changed change).externalType = node.externalType := by
    cases node with
    | attr node => cases node <;> exact ⟨rfl, rfl, rfl⟩
    | block node => cases node <;> exact ⟨rfl, rfl, rfl⟩
  obtain ⟨isSingleOrSet, isTypedObject, externalType⟩ := kinds
  simp only [Place.methods?, Place.converts, isSingleOrSet, isTypedObject, externalType,
    receiver_changed keeps, converted_changed keeps]
  rfl

theorem methods_changed (node : Node) :
    ∀ name, (node.changed change).methods name = node.methods name := by
  have opensInside (node : Node) : (node.changed change).opensInside = node.opensInside := by
    cases node with
    | attr node => cases node <;> rfl
    | block node => cases node <;> rfl
  induction node with
  | step node ih =>
    intro name
    rw [methods_eq, methods_eq, methods?_changed keeps, opensInside, children_changed,
      List.flatMap_map]
    have inside := List.flatMap_congr fun child isChild => ih child isChild child.1
    simp only [Prod.map_fst, Prod.map_snd, id_eq, inside]

end Node

namespace ResourceSchema

theorem model_changed (schema : ResourceSchema) (name : String) :
    (schema.changed change).model name = schema.model name := by
  have fields : (schema.changed change).modelFields = schema.modelFields := by
    rw [modelFields_eq, modelFields_eq, children_changed, List.map_map]
    exact List.map_congr_left fun entry _ => entry.2.modelField_changed keeps entry.1
  rw [model, model, fields]

theorem valueTypes_changed (schema : ResourceSchema) :
    (schema.changed change).valueTypes = schema.valueTypes := by
  have ofNodes (schema : ResourceSchema) : schema.valueTypes =
      schema.children.flatMap fun entry => entry.2.valueTypes entry.1 :=
    valueTypes_namedNodes schema.attributes schema.blocks
  rw [ofNodes, ofNodes, children_changed, List.flatMap_map]
  exact List.flatMap_congr fun entry _ => entry.2.valueTypes_changed keeps entry.1

theorem methods_changed (schema : ResourceSchema) :
    (schema.changed change).methods = schema.methods := by
  have ofNodes (schema : ResourceSchema) : schema.methods =
      schema.children.flatMap fun entry => entry.2.methods entry.1 :=
    Except.ok.inj (schema.collectMethods_eq_ok.symm.trans
      (methods_namedNodes schema.attributes schema.blocks))
  rw [ofNodes, ofNodes, children_changed, List.flatMap_map]
  exact List.flatMap_congr fun entry _ => entry.2.methods_changed keeps entry.1

end ResourceSchema

end Types

/-! ## What shows in the schema function -/

/-- Whether a change keeps all that a file is made from. -/
structure Change.KeepsText (change : Change) : Prop extends change.KeepsCode where
  entries : ∀ facets custom type,
    (change.facets facets).entries custom type = facets.entries custom type
  default : ∀ default, (change.default default).expression = default.expression

section Text

variable (keeps : change.KeepsText)
include keeps

private theorem defaultEntry_changed (default : Option Default) :
    defaultEntry (default.map change.default) = defaultEntry default := by
  cases default with
  | none => rfl
  | some default => exact congrArg (entry "Default") (keeps.default default)

omit keeps in
private theorem entries_changed (attributes : Attributes) (blocks : Blocks)
    (each : ∀ entry ∈ namedNodes attributes blocks,
      (entry.2.changed change).declaration entry.1 = entry.2.declaration entry.1) :
    Attributes.entry (Attribute.allChanged change attributes) = Attributes.entry attributes ∧
      Blocks.entry (Block.allChanged change blocks) = Blocks.entry blocks := by
  rw [Attributes.entry, Attributes.entry, Blocks.entry, Blocks.entry, Attribute.allChanged_eq,
    Block.allChanged_eq, Attribute.declarations_eq, Attribute.declarations_eq,
    Block.declarations_eq, Block.declarations_eq, List.map_map, List.map_map]
  constructor
  · refine congrArg (childrenEntry "Attributes" "Attribute") ?_
    refine List.map_congr_left fun entry listed => ?_
    exact each _ (mem_namedNodes.mpr (.inl ⟨entry, listed, rfl⟩))
  · refine congrArg (childrenEntry "Blocks" "Block") ?_
    refine List.map_congr_left fun entry listed => ?_
    exact each _ (mem_namedNodes.mpr (.inr ⟨entry, listed, rfl⟩))

/-- By induction on the node, since a declaration holds those of its children. -/
theorem Node.declaration_changed (node : Node) :
    ∀ name, (node.changed change).declaration name = node.declaration name := by
  have explicit (facets : Facets) : (change.facets facets).explicitType = facets.explicitType := by
    rw [Facets.explicitType, keeps.customType, Facets.explicitType]
  have single (facets : Facets) (external : Option Spec.ExternalType) :
      ObjectFacets.single (change.facets facets) external =
        ObjectFacets.single facets external := by
    rw [ObjectFacets.single, ObjectFacets.single, keeps.customType, keeps.planModifiers,
      keeps.validators]
  induction node with
  | step node ih =>
    intro name
    have inside := entries_changed node.attributes node.blocks fun entry isChild =>
      ih entry isChild entry.1
    have unfolded (attributes : Attributes) :
        childrenEntry "Attributes" "Attribute" (Attribute.declarations attributes) =
          Attributes.entry attributes := rfl
    have unfoldedBlocks (blocks : Blocks) :
        childrenEntry "Blocks" "Block" (Block.declarations blocks) = Blocks.entry blocks := rfl
    cases node with
    | attr node =>
      cases node with
      | nested kind facets item attributes default =>
        obtain ⟨(same : Attributes.entry (Attribute.allChanged change attributes) =
          Attributes.entry attributes), -⟩ := inside
        simp only [changed, Attribute.changed, Node.declaration, Attribute.declaration,
          keeps.entries, explicit, defaultEntry_changed keeps, unfolded, same]
      | singleNested facets attributes external default =>
        obtain ⟨(same : Attributes.entry (Attribute.allChanged change attributes) =
          Attributes.entry attributes), -⟩ := inside
        simp only [changed, Attribute.changed, Node.declaration, Attribute.declaration,
          keeps.entries, single, defaultEntry_changed keeps, unfolded, same]
      | _ => simp only [changed, Attribute.changed, Node.declaration, Attribute.declaration,
          keeps.entries, explicit, defaultEntry_changed keeps, fixedObjectType,
          keeps.customType, keeps.expression, keeps.literal]
    | block node =>
      cases node with
      | nested kind facets item attributes blocks =>
        obtain ⟨(same : Attributes.entry (Attribute.allChanged change attributes) =
            Attributes.entry attributes),
          (sameBlocks : Blocks.entry (Block.allChanged change blocks) = Blocks.entry blocks)⟩ :=
          inside
        simp only [changed, Block.changed, Node.declaration, Block.declaration, keeps.entries,
          explicit, unfoldedBlocks, same, sameBlocks]
      | singleNested facets attributes blocks external =>
        obtain ⟨(same : Attributes.entry (Attribute.allChanged change attributes) =
            Attributes.entry attributes),
          (sameBlocks : Blocks.entry (Block.allChanged change blocks) = Blocks.entry blocks)⟩ :=
          inside
        simp only [changed, Block.changed, Node.declaration, Block.declaration, keeps.entries,
          single, unfoldedBlocks, same, sameBlocks]

/-- The body of the schema function lists the declarations on the top level. -/
theorem ResourceSchema.function_changed (schema : ResourceSchema) (name : String) :
    (schema.changed change).function name = schema.function name := by
  obtain ⟨ofAttributes, ofBlocks⟩ := entries_changed schema.attributes schema.blocks
    fun entry _ => entry.2.declaration_changed keeps entry.1
  have entries : (schema.changed change).entries = schema.entries := by
    simp only [ResourceSchema.entries, changed, ofAttributes, ofBlocks]
  rw [function, function, entries]

/-- A change that keeps what a file is made from keeps all parts of the file. -/
theorem sections_changed (schema : ResourceSchema) (name : String) (options : GenerateOptions) :
    sections (schema.changed change) name options = sections schema name options := by
  have code := keeps.toKeepsCode
  rw [sections, sections, schema.function_changed keeps, schema.model_changed code,
    schema.valueTypes_changed code, schema.methods_changed code]

end Text

/-! ## Contributions -/

/-- Whether a relation of lists of imports is kept when lists are put together. -/
structure KeptByAppend (related : List Import → List Import → Prop) : Prop where
  refl : ∀ imports, related imports imports
  append : ∀ {first second other another}, related first other → related second another →
    related (first ++ second) (other ++ another)

/-- With equality, changed nodes have the very contributions they had. -/
theorem keptByAppend_eq : KeptByAppend Eq :=
  ⟨fun _ => rfl, fun first second => by rw [first, second]⟩

/-- With permutations, changed nodes may name their imports in another order. -/
theorem keptByAppend_perm : KeptByAppend List.Perm :=
  ⟨List.Perm.refl, List.Perm.append⟩

/-- Whether a change gives each part of a node contributions that are related to those it had. -/
structure Change.Contributes (change : Change) (related : List Import → List Import → Prop) :
    Prop extends change.KeepsCode where
  default : ∀ default, defaultParts (some (change.default default)) = defaultParts (some default)
  element : ∀ type, related (change.element type).contributions type.contributions
  fields : ∀ fields, related (Fields.contributions (change.fields fields))
    (Fields.contributions fields)

section Contributions

variable {related : List Import → List Import → Prop} (kept : KeptByAppend related)
include kept

theorem KeptByAppend.flatMap {α : Type} {items : List α} {first second : α → List Import}
    (each : ∀ item ∈ items, related (first item) (second item)) :
    related (items.flatMap first) (items.flatMap second) := by
  induction items with
  | nil => exact kept.refl []
  | cons item rest ih =>
    rw [List.flatMap_cons, List.flatMap_cons]
    exact kept.append (each item (List.mem_cons_self ..))
      (ih fun other member => each other (List.mem_cons_of_mem _ member))

variable (contributes : change.Contributes related)
include contributes

/-- Contributions of a node are put together from its parts, each of which keeps them. -/
theorem Node.contributions_changed (node : Node) :
    related (node.changed change).contributions node.contributions := by
  have custom := contributes.customType
  have modifiers := contributes.planModifiers
  have validators := contributes.validators
  have default (default : Option Default) :
      defaultParts (default.map change.default) = defaultParts default := by
    cases default with
    | none => rfl
    | some default => exact contributes.default default
  cases node with
  | attr node =>
    cases node with
    | collection kind facets element value =>
      simp only [changed, Attribute.changed, contributions, Facets.contributions, custom, modifiers,
        validators, default]
      exact kept.append (kept.refl _) (contributes.element element)
    | object facets fields external value =>
      simp only [changed, Attribute.changed, contributions, custom, modifiers, validators, default]
      exact kept.append (kept.refl _) (contributes.fields fields)
    | _ =>
      simp only [changed, Attribute.changed, contributions, Facets.contributions, custom, modifiers,
        validators, default]
      exact kept.refl _
  | block node =>
    cases node <;>
      simp only [changed, Block.changed, contributions, Facets.contributions, custom, modifiers,
        validators] <;>
      exact kept.refl _

theorem ResourceSchema.contributions_changed (schema : ResourceSchema) :
    related (schema.changed change).contributions schema.contributions := by
  rw [contributions, contributions, nodes_changed, List.flatMap_map]
  exact kept.append (kept.flatMap fun entry _ => entry.2.contributions_changed kept contributes)
    (kept.refl _)

end Contributions

/-! ## Building rewritten specifications -/

namespace Attribute

section Kinds

variable {kind : CollectionKind}

/-- Rewriting what is given and changing what is built come to the same if they agree on the
parts. -/
theorem buildPrimitive?_changed {kind : PrimitiveKind} {δ : Type}
    {default : Option δ → Option Default}
    {rewrite : Spec.PrimitiveAttribute δ → Spec.PrimitiveAttribute δ}
    (facets : ∀ given, Facets.ofAttribute (rewrite given).facets =
      change.facets (.ofAttribute given.facets))
    (value : ∀ given, default (rewrite given).default = (default given.default).map change.default)
    (spec : Option (Spec.PrimitiveAttribute δ)) :
    buildPrimitive? kind default (spec.map rewrite) =
      (buildPrimitive? kind default spec).map (Except.map (changed change)) := by
  cases spec with
  | none => rfl
  | some given =>
    simp only [buildPrimitive?, Option.map_some, Except.map, changed, facets, value]

theorem buildCollection?_changed {rewrite : Spec.CollectionAttribute → Spec.CollectionAttribute}
    (facets : ∀ given, Facets.ofAttribute (rewrite given).facets =
      change.facets (.ofAttribute given.facets))
    (element : ∀ given, ElementType.build (rewrite given).elementType =
      (ElementType.build given.elementType).map change.element)
    (value : ∀ given, Default.ofCustom (rewrite given).default =
      (Default.ofCustom given.default).map change.default)
    (spec : Option Spec.CollectionAttribute) :
    buildCollection? kind (spec.map rewrite) =
      (buildCollection? kind spec).map (Except.map (changed change)) := by
  cases spec with
  | none => rfl
  | some given =>
    simp only [buildCollection?, Option.map_some, facets, element, value]
    cases ElementType.build given.elementType <;> rfl

/-- An external type has no part that could be changed, so it must stay the same. -/
theorem buildObject?_changed {rewrite : Spec.ObjectAttribute → Spec.ObjectAttribute}
    (facets : ∀ given, Facets.ofAttribute (rewrite given).facets =
      change.facets (.ofAttribute given.facets))
    (fields : ∀ given, Fields.build (rewrite given).attributeTypes =
      (Fields.build given.attributeTypes).map change.fields)
    (external : ∀ given, (rewrite given).externalType = given.externalType)
    (value : ∀ given, Default.ofCustom (rewrite given).default =
      (Default.ofCustom given.default).map change.default)
    (spec : Option Spec.ObjectAttribute) :
    buildObject? (spec.map rewrite) =
      (buildObject? spec).map (Except.map (changed change)) := by
  cases spec with
  | none => rfl
  | some given =>
    simp only [buildObject?, Option.map_some, facets, fields, external, value]
    cases Fields.build given.attributeTypes <;> rfl

/-- The attributes inside are already known to agree, from the induction over the tree. -/
theorem buildNested?_changed {given rewritten : Spec.NestedAttribute}
    (facets : Facets.ofAttribute rewritten.facets = change.facets (.ofAttribute given.facets))
    (item : ObjectFacets.ofSpec rewritten.nestedObject.customType
        rewritten.nestedObject.externalType rewritten.nestedObject.planModifiers
        rewritten.nestedObject.validators =
      ObjectFacets.ofSpec given.nestedObject.customType given.nestedObject.externalType
        given.nestedObject.planModifiers given.nestedObject.validators)
    (inside : Attributes.build rewritten.nestedObject.attributes =
      (Attributes.build given.nestedObject.attributes).map (allChanged change))
    (value : Default.ofCustom rewritten.default =
      (Default.ofCustom given.default).map change.default) :
    buildNested? kind (some rewritten) =
      (buildNested? kind (some given)).map (Except.map (changed change)) := by
  rw [buildNested?_some, buildNested?_some, facets, item, inside, value]
  cases Attributes.build given.nestedObject.attributes <;> rfl

theorem buildSingle?_changed {given rewritten : Spec.SingleNestedAttribute}
    (facets : Facets.ofAttribute rewritten.facets = change.facets (.ofAttribute given.facets))
    (external : rewritten.externalType = given.externalType)
    (inside : Attributes.build rewritten.attributes =
      (Attributes.build given.attributes).map (allChanged change))
    (value : Default.ofCustom rewritten.default =
      (Default.ofCustom given.default).map change.default) :
    buildSingle? (some rewritten) =
      (buildSingle? (some given)).map (Except.map (changed change)) := by
  rw [buildSingle?_some, buildSingle?_some, facets, external, inside, value]
  cases Attributes.build given.attributes <;> rfl

end Kinds

/-- One attribute in front of others, with its name as it was. -/
theorem outcomes_cons_changed {spec rewritten : Spec.Attribute}
    {rest others : List Spec.Attribute} (name : rewritten.name = spec.name)
    (head : Attribute.build rewritten = (Attribute.build spec).map (changed change))
    (tail : outcomes others = (outcomes rest).map (Prod.map id (Except.map (changed change)))) :
    outcomes (rewritten :: others) =
      (outcomes (spec :: rest)).map (Prod.map id (Except.map (changed change))) := by
  rw [outcomes] at tail ⊢
  rw [List.map_cons, tail, name, head]
  rfl

end Attribute

/-- Whether two names clash does not depend on what the nodes are changed to. -/
theorem Attributes.build_changed {specs rewritten : List Spec.Attribute}
    (outcomes : Attribute.outcomes rewritten =
      (Attribute.outcomes specs).map (Prod.map id (Except.map (Attribute.changed change)))) :
    Attributes.build rewritten = (Attributes.build specs).map (Attribute.allChanged change) := by
  rw [Attributes.build_eq, Attributes.build_eq, outcomes, funext (Attribute.allChanged_eq change)]
  exact addChildren_map (Attribute.changed change) [] _

namespace Block

theorem buildNested?_changed {kind : RepeatedKind} {given rewritten : Spec.NestedBlock}
    (facets : Facets.ofBlock rewritten.facets = change.facets (.ofBlock given.facets))
    (item : ObjectFacets.ofSpec rewritten.nestedObject.customType
        rewritten.nestedObject.externalType rewritten.nestedObject.planModifiers
        rewritten.nestedObject.validators =
      ObjectFacets.ofSpec given.nestedObject.customType given.nestedObject.externalType
        given.nestedObject.planModifiers given.nestedObject.validators)
    (inside : Attributes.build rewritten.nestedObject.attributes =
      (Attributes.build given.nestedObject.attributes).map (Attribute.allChanged change))
    (below : Blocks.build rewritten.nestedObject.blocks =
      (Blocks.build given.nestedObject.blocks).map (allChanged change)) :
    buildNested? kind (some rewritten) =
      (buildNested? kind (some given)).map (Except.map (changed change)) := by
  rw [buildNested?_some, buildNested?_some, facets, item, inside, below]
  cases Attributes.build given.nestedObject.attributes with
  | error fault => rfl
  | ok attributes => cases Blocks.build given.nestedObject.blocks <;> rfl

theorem buildSingle?_changed {given rewritten : Spec.SingleNestedBlock}
    (facets : Facets.ofBlock rewritten.facets = change.facets (.ofBlock given.facets))
    (external : rewritten.externalType = given.externalType)
    (inside : Attributes.build rewritten.attributes =
      (Attributes.build given.attributes).map (Attribute.allChanged change))
    (below : Blocks.build rewritten.blocks =
      (Blocks.build given.blocks).map (allChanged change)) :
    buildSingle? (some rewritten) =
      (buildSingle? (some given)).map (Except.map (changed change)) := by
  rw [buildSingle?_some, buildSingle?_some, facets, external, inside, below]
  cases Attributes.build given.attributes with
  | error fault => rfl
  | ok attributes => cases Blocks.build given.blocks <;> rfl

theorem outcomes_cons_changed {spec rewritten : Spec.Block} {rest others : List Spec.Block}
    (name : rewritten.name = spec.name)
    (head : Block.build rewritten = (Block.build spec).map (changed change))
    (tail : outcomes others = (outcomes rest).map (Prod.map id (Except.map (changed change)))) :
    outcomes (rewritten :: others) =
      (outcomes (spec :: rest)).map (Prod.map id (Except.map (changed change))) := by
  rw [outcomes] at tail ⊢
  rw [List.map_cons, tail, name, head]
  rfl

end Block

/-- The same loop as for attributes. -/
theorem Blocks.build_changed {specs rewritten : List Spec.Block}
    (outcomes : Block.outcomes rewritten =
      (Block.outcomes specs).map (Prod.map id (Except.map (Block.changed change)))) :
    Blocks.build rewritten = (Blocks.build specs).map (Block.allChanged change) := by
  rw [Blocks.build_eq, Blocks.build_eq, outcomes, funext (Block.allChanged_eq change)]
  exact addChildren_map (Block.changed change) [] _

end ProviderCodegen.Schema
