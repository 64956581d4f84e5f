import ProviderCodegen.Proofs.Schema.Change

/-! # Prose in specifications and schemas

The prose of a specification are its descriptions, deprecation messages and static text defaults.
`withoutProse` empties all of these texts and keeps which of them are given, in specifications and
in schemas. Building looks at no prose, so it commutes with emptying it (`build_withoutProse`): two
specifications that differ in prose only have the same faults or schemas that differ in prose
only.
-/

namespace ProviderCodegen

namespace Spec

/-- A text without its content. -/
def emptied (text : Option String) : Option String :=
  text.map fun _ => ""

def AttributeFacets.withoutProse (facets : AttributeFacets) : AttributeFacets where
  __ := facets
  deprecationMessage := emptied facets.deprecationMessage
  description := emptied facets.description

def BlockFacets.withoutProse (facets : BlockFacets) : BlockFacets where
  __ := facets
  deprecationMessage := emptied facets.deprecationMessage
  description := emptied facets.description

/-- A default that may be a static text, without the text. -/
def LiteralDefault.withoutProse (default : LiteralDefault String) : LiteralDefault String where
  __ := default
  literal := emptied default.literal

/-- A primitive attribute without its prose, given what becomes of its default. -/
def PrimitiveAttribute.withoutProse {δ : Type} (onDefault : δ → δ) (spec : PrimitiveAttribute δ) :
    PrimitiveAttribute δ where
  facets := spec.facets.withoutProse
  default := spec.default.map onDefault

def CollectionAttribute.withoutProse (spec : CollectionAttribute) : CollectionAttribute where
  __ := spec
  facets := spec.facets.withoutProse

def ObjectAttribute.withoutProse (spec : ObjectAttribute) : ObjectAttribute where
  __ := spec
  facets := spec.facets.withoutProse

mutual

def Attribute.withoutProse : Attribute → Attribute
  | ⟨name, bool, float64, int64, number, string, list, map, set, listNested, mapNested, setNested,
      single, object⟩ =>
      ⟨name, bool.map (·.withoutProse id), float64.map (·.withoutProse id),
        int64.map (·.withoutProse id), number.map (·.withoutProse id),
        string.map (·.withoutProse LiteralDefault.withoutProse),
        list.map CollectionAttribute.withoutProse, map.map CollectionAttribute.withoutProse,
        set.map CollectionAttribute.withoutProse, NestedAttribute.withoutProse? listNested,
        NestedAttribute.withoutProse? mapNested, NestedAttribute.withoutProse? setNested,
        SingleNestedAttribute.withoutProse? single, object.map ObjectAttribute.withoutProse⟩

def NestedAttribute.withoutProse? : Option NestedAttribute → Option NestedAttribute
  | none => none
  | some ⟨facets, ⟨attributes, custom, external, planModifiers, validators⟩, default⟩ =>
      some ⟨facets.withoutProse,
        ⟨Attribute.allWithoutProse attributes, custom, external, planModifiers, validators⟩, default⟩

def SingleNestedAttribute.withoutProse? :
    Option SingleNestedAttribute → Option SingleNestedAttribute
  | none => none
  | some ⟨facets, attributes, external, default⟩ =>
      some ⟨facets.withoutProse, Attribute.allWithoutProse attributes, external, default⟩

def Attribute.allWithoutProse : List Attribute → List Attribute
  | [] => []
  | first :: rest => first.withoutProse :: Attribute.allWithoutProse rest

end

mutual

def Block.withoutProse : Block → Block
  | ⟨name, listNested, setNested, single⟩ =>
      ⟨name, NestedBlock.withoutProse? listNested, NestedBlock.withoutProse? setNested,
        SingleNestedBlock.withoutProse? single⟩

def NestedBlock.withoutProse? : Option NestedBlock → Option NestedBlock
  | none => none
  | some ⟨facets, ⟨attributes, blocks, custom, external, planModifiers, validators⟩⟩ =>
      some ⟨facets.withoutProse,
        ⟨Attribute.allWithoutProse attributes, Block.allWithoutProse blocks, custom, external,
          planModifiers, validators⟩⟩

def SingleNestedBlock.withoutProse? : Option SingleNestedBlock → Option SingleNestedBlock
  | none => none
  | some ⟨facets, attributes, blocks, external⟩ =>
      some ⟨facets.withoutProse, Attribute.allWithoutProse attributes, Block.allWithoutProse blocks,
        external⟩

def Block.allWithoutProse : List Block → List Block
  | [] => []
  | first :: rest => first.withoutProse :: Block.allWithoutProse rest

end

def Schema.withoutProse (spec : Schema) : Schema where
  attributes := Attribute.allWithoutProse spec.attributes
  blocks := Block.allWithoutProse spec.blocks
  description := emptied spec.description
  markdownDescription := emptied spec.markdownDescription
  deprecationMessage := emptied spec.deprecationMessage

def Resource.withoutProse (spec : Resource) : Resource where
  __ := spec
  schema := spec.schema.withoutProse

end Spec

namespace Schema

open Spec (emptied)

/-! ## Schemas without prose -/

def Facets.withoutProse (facets : Facets) : Facets where
  __ := facets
  deprecationMessage := emptied facets.deprecationMessage
  description := emptied facets.description

/-- The default without its text, if it is a static text. -/
def Default.withoutProse : Default → Default
  | string _ => string ""
  | bool value => bool value
  | float64 value => float64 value
  | int64 value => int64 value
  | custom snippet => custom snippet

mutual

def Attribute.withoutProse : Attribute → Attribute
  | primitive kind facets default =>
      primitive kind facets.withoutProse (default.map Default.withoutProse)
  | collection kind facets element default =>
      collection kind facets.withoutProse element (default.map Default.withoutProse)
  | nested kind facets item attributes default =>
      nested kind facets.withoutProse item (Attribute.allWithoutProse attributes)
        (default.map Default.withoutProse)
  | singleNested facets attributes external default =>
      singleNested facets.withoutProse (Attribute.allWithoutProse attributes) external
        (default.map Default.withoutProse)
  | object facets fields external default =>
      object facets.withoutProse fields external (default.map Default.withoutProse)

def Attribute.allWithoutProse : List (String × Attribute) → List (String × Attribute)
  | [] => []
  | (name, first) :: rest => (name, first.withoutProse) :: Attribute.allWithoutProse rest

end

mutual

def Block.withoutProse : Block → Block
  | nested kind facets item attributes blocks =>
      nested kind facets.withoutProse item (Attribute.allWithoutProse attributes)
        (Block.allWithoutProse blocks)
  | singleNested facets attributes blocks external =>
      singleNested facets.withoutProse (Attribute.allWithoutProse attributes)
        (Block.allWithoutProse blocks) external

def Block.allWithoutProse : List (String × Block) → List (String × Block)
  | [] => []
  | (name, first) :: rest => (name, first.withoutProse) :: Block.allWithoutProse rest

end

def ResourceSchema.withoutProse (schema : ResourceSchema) : ResourceSchema where
  attributes := Attribute.allWithoutProse schema.attributes
  blocks := Block.allWithoutProse schema.blocks
  description := emptied schema.description
  markdownDescription := emptied schema.markdownDescription
  deprecationMessage := emptied schema.deprecationMessage

/-! ## Emptying prose as a change -/

def Change.withoutProse : Change where
  facets := Facets.withoutProse
  default := Default.withoutProse

namespace Attribute

mutual

/-- Dropping prose is a change of each node by itself. -/
theorem changed_withoutProse : ∀ node : Attribute, node.changed .withoutProse = node.withoutProse
  | primitive .. => rfl
  | collection .. => rfl
  | object .. => rfl
  | nested kind facets item attributes default => by
    rw [changed, allChanged_withoutProse attributes]
    rfl
  | singleNested facets attributes external default => by
    rw [changed, allChanged_withoutProse attributes]
    rfl

theorem allChanged_withoutProse : ∀ attributes : List (String × Attribute),
    allChanged .withoutProse attributes = allWithoutProse attributes
  | [] => rfl
  | (_, first) :: rest => by
    rw [allChanged, changed_withoutProse first, allChanged_withoutProse rest, allWithoutProse]

end

theorem allWithoutProse_eq (attributes : List (String × Attribute)) :
    allWithoutProse attributes = attributes.map (Prod.map id withoutProse) := by
  rw [← allChanged_withoutProse, allChanged_eq, funext changed_withoutProse]

end Attribute

namespace Block

mutual

theorem changed_withoutProse : ∀ node : Block, node.changed .withoutProse = node.withoutProse
  | nested kind facets item attributes blocks => by
    rw [changed, Attribute.allChanged_withoutProse, allChanged_withoutProse blocks]
    rfl
  | singleNested facets attributes blocks external => by
    rw [changed, Attribute.allChanged_withoutProse, allChanged_withoutProse blocks]
    rfl

theorem allChanged_withoutProse : ∀ blocks : List (String × Block),
    allChanged .withoutProse blocks = allWithoutProse blocks
  | [] => rfl
  | (_, first) :: rest => by
    rw [allChanged, changed_withoutProse first, allChanged_withoutProse rest, allWithoutProse]

end

theorem allWithoutProse_eq (blocks : List (String × Block)) :
    allWithoutProse blocks = blocks.map (Prod.map id withoutProse) := by
  rw [← allChanged_withoutProse, allChanged_eq, funext changed_withoutProse]

end Block

/-! ## Building without prose -/

theorem Default.ofLiteral_textless {α : Type} {literal : α → Default}
    (textless : ∀ value, (literal value).withoutProse = literal value)
    (given : Option (Spec.LiteralDefault α)) :
    Default.ofLiteral literal (given.map id) =
      (Default.ofLiteral literal given).map Default.withoutProse := by
  rw [Option.map_id_fun, id_eq]
  rcases given with _ | ⟨_ | value, _ | snippet⟩
  · rfl
  · rfl
  · rfl
  · exact congrArg some (textless value).symm
  · exact congrArg some (textless value).symm

/-- The text of a default is prose, so it is emptied and the default stays. -/
theorem Default.ofLiteral_string (given : Option (Spec.LiteralDefault String)) :
    Default.ofLiteral .string (given.map Spec.LiteralDefault.withoutProse) =
      (Default.ofLiteral .string given).map Default.withoutProse := by
  rcases given with _ | ⟨_ | value, _ | snippet⟩ <;> rfl

/-- Code has no prose. -/
theorem Default.ofCustom_withoutProse (given : Option Spec.CustomDefault) :
    Default.ofCustom given = (Default.ofCustom given).map Default.withoutProse := by
  rcases given with _ | ⟨_ | snippet⟩ <;> rfl

namespace Attribute

private theorem buildPrimitive?_withoutProse {kind : PrimitiveKind} {δ : Type}
    {default : Option δ → Option Default} {onDefault : δ → δ}
    (same : ∀ given, default (given.map onDefault) = (default given).map Default.withoutProse)
    (spec : Option (Spec.PrimitiveAttribute δ)) :
    buildPrimitive? kind default (spec.map (·.withoutProse onDefault)) =
      (buildPrimitive? kind default spec).map (Except.map (changed .withoutProse)) := by
  refine buildPrimitive?_changed (fun given => ?_) (fun given => ?_) spec
  · rfl
  · exact same given.default

private theorem buildCollection?_withoutProse {kind : CollectionKind}
    (spec : Option Spec.CollectionAttribute) :
    buildCollection? kind (spec.map Spec.CollectionAttribute.withoutProse) =
      (buildCollection? kind spec).map (Except.map (changed .withoutProse)) := by
  refine buildCollection?_changed (fun given => ?_) (fun given => ?_) (fun given => ?_) spec
  · rfl
  · exact (congrFun Except.map_id _).symm
  · exact Default.ofCustom_withoutProse given.default

private theorem buildObject?_withoutProse (spec : Option Spec.ObjectAttribute) :
    buildObject? (spec.map Spec.ObjectAttribute.withoutProse) =
      (buildObject? spec).map (Except.map (changed .withoutProse)) := by
  refine buildObject?_changed (fun given => ?_) (fun given => ?_) (fun given => ?_)
    (fun given => ?_) spec
  · rfl
  · exact (congrFun Except.map_id _).symm
  · rfl
  · exact Default.ofCustom_withoutProse given.default

mutual

private theorem build_withoutProse : ∀ spec : Spec.Attribute,
    Attribute.build spec.withoutProse = (Attribute.build spec).map (changed .withoutProse)
  | ⟨name, bool, float64, int64, number, string, list, map, set, listNested, mapNested, setNested,
      single, fixed⟩ => by
    rw [Spec.Attribute.withoutProse]
    refine getD_findSome?_map _ _ fun kind => ?_
    cases kind with
    | primitive kind =>
      cases kind with
      | bool => exact buildPrimitive?_withoutProse (Default.ofLiteral_textless fun _ => rfl) bool
      | float64 =>
        exact buildPrimitive?_withoutProse (Default.ofLiteral_textless fun _ => rfl) float64
      | int64 => exact buildPrimitive?_withoutProse (Default.ofLiteral_textless fun _ => rfl) int64
      | number =>
        refine buildPrimitive?_withoutProse (fun given => ?_) number
        rw [Option.map_id_fun, id_eq, ← Default.ofCustom_withoutProse]
      | string => exact buildPrimitive?_withoutProse Default.ofLiteral_string string
    | collection kind => cases kind <;> exact buildCollection?_withoutProse _
    | nested kind =>
      cases kind with
      | list => exact buildNested?_withoutProse .list listNested
      | map => exact buildNested?_withoutProse .map mapNested
      | set => exact buildNested?_withoutProse .set setNested
    | singleNested => exact buildSingle?_withoutProse single
    | object => exact buildObject?_withoutProse fixed

private theorem buildNested?_withoutProse (kind : CollectionKind) :
    ∀ spec : Option Spec.NestedAttribute,
      buildNested? kind (Spec.NestedAttribute.withoutProse? spec) =
        (buildNested? kind spec).map (Except.map (changed .withoutProse))
  | none => rfl
  | some ⟨_, ⟨attributes, _, _, _, _⟩, default⟩ =>
    buildNested?_changed rfl rfl (Attributes.build_changed (outcomes_withoutProse attributes))
      (Default.ofCustom_withoutProse default)

private theorem buildSingle?_withoutProse : ∀ spec : Option Spec.SingleNestedAttribute,
    buildSingle? (Spec.SingleNestedAttribute.withoutProse? spec) =
      (buildSingle? spec).map (Except.map (changed .withoutProse))
  | none => rfl
  | some ⟨_, attributes, _, default⟩ =>
    buildSingle?_changed rfl rfl (Attributes.build_changed (outcomes_withoutProse attributes))
      (Default.ofCustom_withoutProse default)

private theorem outcomes_withoutProse : ∀ specs : List Spec.Attribute,
    outcomes (Spec.Attribute.allWithoutProse specs) =
      (outcomes specs).map (Prod.map id (Except.map (changed .withoutProse)))
  | [] => rfl
  | spec :: rest => by
    have name : spec.withoutProse.name = spec.name := by cases spec; rfl
    exact outcomes_cons_changed name (build_withoutProse spec) (outcomes_withoutProse rest)

end

end Attribute

/-- Prose has no part in what fails or clashes. -/
theorem Attributes.build_withoutProse (specs : List Spec.Attribute) :
    Attributes.build (Spec.Attribute.allWithoutProse specs) =
      (Attributes.build specs).map (Attribute.allChanged .withoutProse) :=
  Attributes.build_changed (Attribute.outcomes_withoutProse specs)

namespace Block

mutual

private theorem build_withoutProse : ∀ spec : Spec.Block,
    Block.build spec.withoutProse = (Block.build spec).map (changed .withoutProse)
  | ⟨name, listNested, setNested, single⟩ => by
    rw [Spec.Block.withoutProse]
    refine getD_findSome?_map _ _ fun kind => ?_
    cases kind with
    | nested kind =>
      cases kind with
      | list => exact buildNested?_withoutProse .list listNested
      | set => exact buildNested?_withoutProse .set setNested
    | singleNested => exact buildSingle?_withoutProse single

private theorem buildNested?_withoutProse (kind : RepeatedKind) :
    ∀ spec : Option Spec.NestedBlock,
      buildNested? kind (Spec.NestedBlock.withoutProse? spec) =
        (buildNested? kind spec).map (Except.map (changed .withoutProse))
  | none => rfl
  | some ⟨_, ⟨attributes, blocks, _, _, _, _⟩⟩ =>
    buildNested?_changed rfl rfl (Attributes.build_withoutProse attributes)
      (Blocks.build_changed (outcomes_withoutProse blocks))

private theorem buildSingle?_withoutProse : ∀ spec : Option Spec.SingleNestedBlock,
    buildSingle? (Spec.SingleNestedBlock.withoutProse? spec) =
      (buildSingle? spec).map (Except.map (changed .withoutProse))
  | none => rfl
  | some ⟨_, attributes, blocks, _⟩ =>
    buildSingle?_changed rfl rfl (Attributes.build_withoutProse attributes)
      (Blocks.build_changed (outcomes_withoutProse blocks))

private theorem outcomes_withoutProse : ∀ specs : List Spec.Block,
    outcomes (Spec.Block.allWithoutProse specs) =
      (outcomes specs).map (Prod.map id (Except.map (changed .withoutProse)))
  | [] => rfl
  | spec :: rest => by
    have name : spec.withoutProse.name = spec.name := by cases spec; rfl
    exact outcomes_cons_changed name (build_withoutProse spec) (outcomes_withoutProse rest)

end

end Block

theorem Blocks.build_withoutProse (specs : List Spec.Block) :
    Blocks.build (Spec.Block.allWithoutProse specs) =
      (Blocks.build specs).map (Block.allChanged .withoutProse) :=
  Blocks.build_changed (Block.outcomes_withoutProse specs)

namespace ResourceSchema

/-- Emptying the prose changes the nodes and the three texts of the schema itself. -/
theorem withoutProse_eq (schema : ResourceSchema) :
    schema.withoutProse = { schema.changed .withoutProse with
      description := emptied schema.description
      markdownDescription := emptied schema.markdownDescription
      deprecationMessage := emptied schema.deprecationMessage } := by
  rw [changed, Attribute.allChanged_withoutProse, Block.allChanged_withoutProse]
  rfl

/-- Without prose the same schema is built without prose, or the same fault is found. -/
theorem build_withoutProse (spec : Spec.Schema) :
    ResourceSchema.build spec.withoutProse =
      (ResourceSchema.build spec).map ResourceSchema.withoutProse := by
  rw [ResourceSchema.build, ResourceSchema.build, Spec.Schema.withoutProse,
    Attributes.build_withoutProse, Blocks.build_withoutProse, funext withoutProse_eq]
  cases Attributes.build spec.attributes with
  | error fault => rfl
  | ok attributes => cases Blocks.build spec.blocks <;> rfl

end ResourceSchema

end Schema

end ProviderCodegen
