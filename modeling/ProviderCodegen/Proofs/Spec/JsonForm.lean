import ProviderCodegen.Proofs.Datum.Record

/-! # JSON forms of specifications

The datum of a specification has a JSON form as soon as the numbers among its literal defaults have
one: everything else that is written is a text, a truth value, a whole number of 64 bits, a list or a
record. The numbers are collected at every depth and of every kind that is set (`floatDefaults`).
-/

namespace ProviderCodegen

open Entries

@[simp]
theorem Source.Import.hasJson (i : Source.Import) : i.toDatum.HasJson := by
  simp [toDatum]

namespace Spec

/-! ## Records without numbers -/

@[simp]
theorem CustomType.hasJson (type : CustomType) : type.toDatum.HasJson := by
  simp [toDatum]

@[simp]
theorem ExternalType.hasJson (type : ExternalType) : type.toDatum.HasJson := by
  simp [toDatum]

@[simp]
theorem Snippet.hasJson (snippet : Snippet) : snippet.toDatum.HasJson := by
  simp [toDatum]

@[simp]
theorem Hook.hasJson (hook : Hook) : hook.toDatum.HasJson := by
  simp [toDatum]

@[simp]
theorem CustomDefault.hasJson (default : CustomDefault) : default.toDatum.HasJson := by
  simp [toDatum]

@[simp]
theorem PrimitiveType.hasJson (type : PrimitiveType) : type.toDatum.HasJson := by
  simp [toDatum]

@[simp]
theorem AttributeFacets.hasJson (facets : AttributeFacets) : facets.entries.All Datum.HasJson := by
  simp [entries]

@[simp]
theorem BlockFacets.hasJson (facets : BlockFacets) : facets.entries.All Datum.HasJson := by
  simp [entries]

mutual

/-- The entries of an element type have a JSON form. -/
theorem ElementType.hasJson : ∀ type : ElementType, type.entries.All Datum.HasJson
  | ⟨bool, float64, int64, number, string, list, map, set, object⟩ => by
      have inList := CollectionType.hasJson "list" list
      have inMap := CollectionType.hasJson "map" map
      have inSet := CollectionType.hasJson "set" set
      have inObject := ObjectType.hasJson "object" object
      simp [ElementType.entries, inList, inMap, inSet, inObject]

private theorem CollectionType.hasJson (name : String) :
    ∀ type : Option CollectionType, (CollectionType.entry name type).All Datum.HasJson
  | none => all_nil
  | some ⟨elementType, customType⟩ => by
      have element := ElementType.hasJson elementType
      simp [CollectionType.entry, element]

private theorem ObjectType.hasJson (name : String) :
    ∀ type : Option ObjectType, (ObjectType.entry name type).All Datum.HasJson
  | none => all_nil
  | some ⟨attributeTypes, customType⟩ => by
      have fields := ObjectField.hasJson attributeTypes
      simpa [ObjectType.entry] using fields

/-- The data of the fields of objects have a JSON form. -/
theorem ObjectField.hasJson : ∀ fields : List ObjectField,
    ∀ datum ∈ ObjectField.listToData fields, datum.HasJson
  | [] => nofun
  | ⟨name, kind⟩ :: rest => by
      have ofKind := ElementType.hasJson kind
      have ofRest := ObjectField.hasJson rest
      simpa [ObjectField.listToData, ofKind] using ofRest

end

@[simp]
theorem CollectionAttribute.hasJson (a : CollectionAttribute) : a.toDatum.HasJson := by
  have element := a.elementType.hasJson
  simp [toDatum, element]

@[simp]
theorem ObjectAttribute.hasJson (a : ObjectAttribute) : a.toDatum.HasJson := by
  have fields := ObjectField.hasJson a.attributeTypes
  simpa [toDatum] using fields

/-! ## Literal defaults -/

/-- Whole numbers of 64 bits are all in range. -/
theorem hasJson_int64 (value : Int64) : (Datum.int value.toInt).HasJson := by
  have least := value.le_toInt
  have greatest := value.toInt_lt
  rw [Datum.HasJson, Json.negativeMax, Json.wordMax]
  omega

/-- Only the literal could fail, where it is a number. -/
theorem LiteralDefault.hasJson {α : Type} {write : α → Datum} {default : LiteralDefault α}
    (literal : ∀ value ∈ default.literal, (write value).HasJson) :
    (default.toDatum write).HasJson := by
  simpa [toDatum] using literal

theorem PrimitiveAttribute.hasJson {δ : Type} {write : δ → Datum} {a : PrimitiveAttribute δ}
    (default : ∀ given ∈ a.default, (write given).HasJson) : (a.toDatum write).HasJson := by
  simpa [toDatum] using default

/-- An attribute with a literal default has a JSON form if the literal has. -/
theorem PrimitiveAttribute.hasJson_literal {α : Type} {write : α → Datum}
    {attribute? : Option (PrimitiveAttribute (LiteralDefault α))}
    (literal : ∀ value ∈ ((attribute?.bind (·.default)).bind (·.literal)).toList,
      (write value).HasJson) :
    ∀ a ∈ attribute?, (a.toDatum (LiteralDefault.toDatum write)).HasJson := by
  rintro a rfl
  refine PrimitiveAttribute.hasJson fun default given => LiteralDefault.hasJson fun value set => ?_
  refine literal value (Option.mem_toList.mpr ?_)
  rw [Option.bind_some, Option.mem_def.mp given, Option.bind_some]
  exact set

/-! ## Attributes -/

mutual

/-- The numbers among the literal defaults of an attribute and of all attributes inside it. -/
def Attribute.floatDefaults : Attribute → List Float
  | ⟨_, _, float64, _, _, _, _, _, _, listNested, mapNested, setNested, singleNested, _⟩ =>
      ((float64.bind (·.default)).bind (·.literal)).toList ++
        NestedAttribute.floatDefaults listNested ++ NestedAttribute.floatDefaults mapNested ++
        NestedAttribute.floatDefaults setNested ++ SingleNestedAttribute.floatDefaults singleNested

def NestedAttribute.floatDefaults : Option NestedAttribute → List Float
  | none => []
  | some ⟨_, ⟨attributes, _, _, _, _⟩, _⟩ => Attribute.listFloatDefaults attributes

def SingleNestedAttribute.floatDefaults : Option SingleNestedAttribute → List Float
  | none => []
  | some ⟨_, attributes, _, _⟩ => Attribute.listFloatDefaults attributes

/-- The numbers among the literal defaults of attributes and of all attributes inside them. -/
def Attribute.listFloatDefaults : List Attribute → List Float
  | [] => []
  | first :: rest => first.floatDefaults ++ Attribute.listFloatDefaults rest

end

mutual

/-- An attribute has a JSON form if the numbers among its defaults have. -/
theorem Attribute.hasJson : ∀ a : Attribute, (∀ x ∈ a.floatDefaults, (Datum.float x).HasJson) →
    a.toDatum.HasJson
  | ⟨name, bool, float64, int64, number, string, list, map, set, listNested, mapNested, setNested,
      singleNested, object⟩, numbers => by
      simp only [Attribute.floatDefaults, List.forall_mem_append] at numbers
      obtain ⟨⟨⟨⟨ofFloat, ofList⟩, ofMap⟩, ofSet⟩, ofSingle⟩ := numbers
      have inBool : ∀ a ∈ bool, (a.toDatum (LiteralDefault.toDatum .bool)).HasJson :=
        PrimitiveAttribute.hasJson_literal fun value _ => Datum.hasJson_bool value
      have inFloat := PrimitiveAttribute.hasJson_literal ofFloat
      have inInt : ∀ a ∈ int64, (a.toDatum (LiteralDefault.toDatum (.int ·.toInt))).HasJson :=
        PrimitiveAttribute.hasJson_literal fun value _ => hasJson_int64 value
      have inNumber : ∀ a ∈ number, (a.toDatum CustomDefault.toDatum).HasJson :=
        fun a _ => PrimitiveAttribute.hasJson fun default _ => default.hasJson
      have inString : ∀ a ∈ string, (a.toDatum (LiteralDefault.toDatum .string)).HasJson :=
        PrimitiveAttribute.hasJson_literal fun value _ => Datum.hasJson_string value
      have inList := NestedAttribute.hasJson "list_nested" listNested ofList
      have inMap := NestedAttribute.hasJson "map_nested" mapNested ofMap
      have inSet := NestedAttribute.hasJson "set_nested" setNested ofSet
      have inSingle := SingleNestedAttribute.hasJson "single_nested" singleNested ofSingle
      simp only [Attribute.toDatum, Datum.hasJson_object, all_append, all_cons, all_optionalEntry]
      exact ⟨⟨⟨⟨⟨⟨⟨⟨⟨⟨⟨⟨⟨rfl, inBool⟩, inFloat⟩, inInt⟩, inNumber⟩, inString⟩,
        fun a _ => a.hasJson⟩, fun a _ => a.hasJson⟩, fun a _ => a.hasJson⟩, inList⟩, inMap⟩,
        inSet⟩, inSingle⟩, fun a _ => a.hasJson⟩

private theorem NestedAttribute.hasJson (name : String) : ∀ nested : Option NestedAttribute,
    (∀ x ∈ NestedAttribute.floatDefaults nested, (Datum.float x).HasJson) →
      (NestedAttribute.entry name nested).All Datum.HasJson
  | none, _ => all_nil
  | some ⟨facets, ⟨attributes, customType, externalType, planModifiers, validators⟩, default⟩,
      numbers => by
      have inside := Attribute.listHasJson attributes numbers
      simpa [NestedAttribute.entry, NestedAttributeObject.toDatum] using inside

private theorem SingleNestedAttribute.hasJson (name : String) :
    ∀ single : Option SingleNestedAttribute,
      (∀ x ∈ SingleNestedAttribute.floatDefaults single, (Datum.float x).HasJson) →
        (SingleNestedAttribute.entry name single).All Datum.HasJson
  | none, _ => all_nil
  | some ⟨facets, attributes, externalType, default⟩, numbers => by
      have inside := Attribute.listHasJson attributes numbers
      simpa [SingleNestedAttribute.entry] using inside

/-- Attributes have a JSON form if the numbers among their defaults have. -/
theorem Attribute.listHasJson : ∀ attributes : List Attribute,
    (∀ x ∈ Attribute.listFloatDefaults attributes, (Datum.float x).HasJson) →
      ∀ datum ∈ Attribute.listToData attributes, datum.HasJson
  | [], _ => nofun
  | first :: rest, numbers => by
      simp only [Attribute.listFloatDefaults, List.forall_mem_append] at numbers
      exact List.forall_mem_cons.mpr
        ⟨Attribute.hasJson first numbers.1, Attribute.listHasJson rest numbers.2⟩

end

/-! ## Blocks -/

mutual

/-- The numbers among the literal defaults of a block and of all blocks inside it. -/
def Block.floatDefaults : Block → List Float
  | ⟨_, listNested, setNested, singleNested⟩ =>
      NestedBlock.floatDefaults listNested ++ NestedBlock.floatDefaults setNested ++
        SingleNestedBlock.floatDefaults singleNested

def NestedBlock.floatDefaults : Option NestedBlock → List Float
  | none => []
  | some ⟨_, ⟨attributes, blocks, _, _, _, _⟩⟩ =>
      Attribute.listFloatDefaults attributes ++ Block.listFloatDefaults blocks

def SingleNestedBlock.floatDefaults : Option SingleNestedBlock → List Float
  | none => []
  | some ⟨_, attributes, blocks, _⟩ =>
      Attribute.listFloatDefaults attributes ++ Block.listFloatDefaults blocks

/-- The numbers among the literal defaults of blocks and of all blocks inside them. -/
def Block.listFloatDefaults : List Block → List Float
  | [] => []
  | first :: rest => first.floatDefaults ++ Block.listFloatDefaults rest

end

mutual

/-- A block has a JSON form if the numbers among its defaults have. -/
theorem Block.hasJson : ∀ b : Block, (∀ x ∈ b.floatDefaults, (Datum.float x).HasJson) →
    b.toDatum.HasJson
  | ⟨name, listNested, setNested, singleNested⟩, numbers => by
      simp only [Block.floatDefaults, List.forall_mem_append] at numbers
      obtain ⟨⟨ofList, ofSet⟩, ofSingle⟩ := numbers
      have inList := NestedBlock.hasJson "list_nested" listNested ofList
      have inSet := NestedBlock.hasJson "set_nested" setNested ofSet
      have inSingle := SingleNestedBlock.hasJson "single_nested" singleNested ofSingle
      simp [Block.toDatum, inList, inSet, inSingle]

private theorem NestedBlock.hasJson (name : String) : ∀ nested : Option NestedBlock,
    (∀ x ∈ NestedBlock.floatDefaults nested, (Datum.float x).HasJson) →
      (NestedBlock.entry name nested).All Datum.HasJson
  | none, _ => all_nil
  | some ⟨facets, ⟨attributes, blocks, customType, externalType, planModifiers, validators⟩⟩,
      numbers => by
      simp only [NestedBlock.floatDefaults, List.forall_mem_append] at numbers
      have attributesInside := Attribute.listHasJson attributes numbers.1
      have blocksInside := Block.listHasJson blocks numbers.2
      simpa [NestedBlock.entry, NestedBlockObject.toDatum] using ⟨attributesInside, blocksInside⟩

private theorem SingleNestedBlock.hasJson (name : String) : ∀ single : Option SingleNestedBlock,
    (∀ x ∈ SingleNestedBlock.floatDefaults single, (Datum.float x).HasJson) →
      (SingleNestedBlock.entry name single).All Datum.HasJson
  | none, _ => all_nil
  | some ⟨facets, attributes, blocks, externalType⟩, numbers => by
      simp only [SingleNestedBlock.floatDefaults, List.forall_mem_append] at numbers
      have attributesInside := Attribute.listHasJson attributes numbers.1
      have blocksInside := Block.listHasJson blocks numbers.2
      simpa [SingleNestedBlock.entry] using ⟨attributesInside, blocksInside⟩

/-- Blocks have a JSON form if the numbers among their defaults have. -/
theorem Block.listHasJson : ∀ blocks : List Block,
    (∀ x ∈ Block.listFloatDefaults blocks, (Datum.float x).HasJson) →
      ∀ datum ∈ Block.listToData blocks, datum.HasJson
  | [], _ => nofun
  | first :: rest, numbers => by
      simp only [Block.listFloatDefaults, List.forall_mem_append] at numbers
      exact List.forall_mem_cons.mpr
        ⟨Block.hasJson first numbers.1, Block.listHasJson rest numbers.2⟩

end

/-! ## Resources -/

theorem Attribute.listToData_eq (attributes : List Attribute) :
    listToData attributes = attributes.map toDatum := by
  induction attributes with
  | nil => rfl
  | cons first rest ih => rw [listToData, ih, List.map_cons]

theorem Block.listToData_eq (blocks : List Block) : listToData blocks = blocks.map toDatum := by
  induction blocks with
  | nil => rfl
  | cons first rest ih => rw [listToData, ih, List.map_cons]

def Resource.floatDefaults (resource : Resource) : List Float :=
  Attribute.listFloatDefaults resource.schema.attributes ++
    Block.listFloatDefaults resource.schema.blocks

/-- Nothing but the numbers in defaults could have no JSON form. -/
theorem Resource.hasJson {resource : Resource}
    (numbers : ∀ x ∈ resource.floatDefaults, (Datum.float x).HasJson) :
    resource.toDatum.HasJson := by
  obtain ⟨inAttributes, inBlocks⟩ := List.forall_mem_append.mp numbers
  have attributes := Attribute.listHasJson resource.schema.attributes inAttributes
  have blocks := Block.listHasJson resource.schema.blocks inBlocks
  rw [Attribute.listToData_eq, List.forall_mem_map] at attributes
  rw [Block.listToData_eq, List.forall_mem_map] at blocks
  have schema : resource.schema.toDatum.HasJson := by
    simpa [Schema.toDatum] using ⟨fun _ => attributes, fun _ => blocks⟩
  simp [toDatum, schema]

end Spec

def Specification.floatDefaults (spec : Specification) : List Float :=
  spec.resources.flatMap (·.floatDefaults)

/-- A specification has a JSON form if the numbers among its defaults have. -/
theorem Specification.hasJson {spec : Specification}
    (numbers : ∀ x ∈ spec.floatDefaults, (Datum.float x).HasJson) : spec.toDatum.HasJson := by
  have resources : ∀ resource ∈ spec.resources, resource.toDatum.HasJson :=
    fun resource member => Spec.Resource.hasJson fun x default =>
      numbers x (List.mem_flatMap.mpr ⟨resource, member, default⟩)
  simpa [toDatum] using fun _ => resources

end ProviderCodegen
