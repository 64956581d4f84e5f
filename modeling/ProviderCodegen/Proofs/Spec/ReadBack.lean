import ProviderCodegen.Proofs.Spec.JsonForm

/-! # Reading back specifications

The reader of each type of a specification takes the datum that is written for a value to the value.
A record is read back field by field: what is left out where it is unset or empty is what a reader
assumes for a field that is missing, and a record that shares its fields with another one has none of
the same name. Element types, attributes and blocks hold one another, so their readers go down one
level of the datum at a time; the induction is on the depth that a reader is given.
-/

namespace ProviderCodegen

open Datum (Fields ReadBack)
open Entries

/-! ## Scalars -/

namespace Datum

@[simp]
theorem text?_string (text : String) : text? (.string text) = some text := rfl

@[simp]
theorem readBack_text (text : String) : ReadBack text? .string text := ⟨rfl, rfl⟩

@[simp]
theorem readBack_bool (value : Bool) : ReadBack bool? .bool value := ⟨trivial, rfl⟩

@[simp]
theorem readBack_float (value : Float) : ReadBack float? .float value := ⟨trivial, rfl⟩

/-- Reading checks the range, which a number of 64 bits is in. -/
@[simp]
theorem readBack_int64 (value : Int64) : ReadBack int64? (.int ·.toInt) value := by
  refine ⟨trivial, ?_⟩
  have fits : fitsSigned 64 value.toInt = true := by
    have least := value.le_toInt
    have greatest := value.toInt_lt
    have bound : ((Nat.pow 2 (64 - 1) : Nat) : Int) = 2 ^ 63 := rfl
    simp only [fitsSigned, bound, Bool.and_eq_true, decide_eq_true_eq]
    omega
  simp only [int64?, Option.filter, fits, if_true, Option.map_some, Int64.ofInt_toInt]

end Datum

namespace Source

@[simp]
theorem Import.readBack (i : Import) : ReadBack Import.ofDatum? Import.toDatum i := by
  refine .of_record (fun _ => rfl) rfl ?_ (by decide) (by simp)
  exact (within_optionalEntry ..).cons

end Source

namespace Spec

open Source (Import)

/-- The words of the four requirements differ. -/
theorem Requirement.ofWord?_word (requirement : Requirement) :
    ofWord? requirement.word = some requirement := by
  cases requirement <;> rfl

@[simp]
theorem Requirement.readBack (shared : Bool) (requirement : Requirement) :
    ReadBack (Requirement.ofDatum? shared) (fun r => .string r.word) requirement :=
  ⟨rfl, ofWord?_word requirement⟩

/-- Fields that are unset are left out and read as missing. -/
@[simp]
theorem CustomType.readBack (type : CustomType) :
    ReadBack CustomType.ofDatum? CustomType.toDatum type := by
  refine .of_record (fun _ => rfl) rfl ?_ (by decide) (by simp)
  exact (within_optionalEntry ..).append within_nil.cons.cons

@[simp]
theorem ExternalType.readBack (type : ExternalType) :
    ReadBack ExternalType.ofDatum? ExternalType.toDatum type := by
  refine .of_record (fun _ => rfl) rfl ?_ (by decide) (by simp)
  exact (within_optionalEntry ..).append within_nil.cons

@[simp]
theorem Snippet.readBack (snippet : Snippet) :
    ReadBack Snippet.ofDatum? Snippet.toDatum snippet := by
  refine .of_record (fun _ => rfl) rfl ?_ (by decide) (by simp)
  exact (within_listEntry ..).append within_nil.cons

@[simp]
theorem Hook.readBack (hook : Hook) : ReadBack Hook.ofDatum? Hook.toDatum hook :=
  .of_record (fun _ => rfl) rfl (within_optionalEntry ..) (by decide) (by simp)

@[simp]
theorem CustomDefault.readBack (default : CustomDefault) :
    ReadBack CustomDefault.ofDatum? CustomDefault.toDatum default :=
  .of_record (fun _ => rfl) rfl (within_optionalEntry ..) (by decide) (by simp)

/-- A literal is read back if its own reader does so, and code is the same for all types. -/
@[simp]
theorem LiteralDefault.readBack {α : Type} {read : Datum → Option α} {write : α → Datum}
    (back : ∀ literal, ReadBack read write literal) (default : LiteralDefault α) :
    ReadBack (LiteralDefault.ofDatum? read) (LiteralDefault.toDatum write) default := by
  refine .of_record (fun _ => rfl) rfl ?_ (by decide) (by simp [back])
  exact (within_optionalEntry ..).optional

@[simp]
theorem PrimitiveType.readBack (type : PrimitiveType) :
    ReadBack PrimitiveType.ofDatum? PrimitiveType.toDatum type :=
  .of_record (fun _ => rfl) rfl (within_optionalEntry ..) (by decide) (by simp)

/-! ## Facets -/

/-- Entries stand in the order of the fields, so no name occurs twice. -/
theorem AttributeFacets.within_entries (facets : AttributeFacets) :
    Within facets.entries fieldNames :=
  (within_optionalEntry ..).optional.optional.optional.optional.list.list

/-- Facets share an object with the fields of the kind that they belong to. -/
@[simp]
theorem AttributeFacets.ofFields?_entries (shared : Bool) (facets : AttributeFacets) :
    ofFields? shared facets.entries = some facets := by
  simp [ofFields?, entries]

theorem BlockFacets.within_entries (facets : BlockFacets) : Within facets.entries fieldNames :=
  (within_optionalEntry ..).optional.optional.list.list

@[simp]
theorem BlockFacets.ofFields?_entries (facets : BlockFacets) :
    ofFields? facets.entries = some facets := by
  simp [ofFields?, entries]

/-! ## Element types -/

section Types

def CollectionType.toDatum : CollectionType → Datum
  | ⟨elementType, customType⟩ =>
      .object (("element_type", .object elementType.entries) ::
        optionalEntry "custom_type" CustomType.toDatum customType)

def ObjectField.toDatum : ObjectField → Datum
  | ⟨name, kind⟩ => .object ([("name", .string name)] ++ kind.entries)

def ObjectType.toDatum : ObjectType → Datum
  | ⟨attributeTypes, customType⟩ =>
      .object (("attribute_types", .array (attributeTypes.map ObjectField.toDatum)) ::
        optionalEntry "custom_type" CustomType.toDatum customType)

theorem CollectionType.entry_eq (name : String) (type : Option CollectionType) :
    entry name type = optionalEntry name toDatum type := by
  rcases type with _ | ⟨elementType, customType⟩ <;> rfl

theorem ObjectField.listToData_eq (fields : List ObjectField) :
    listToData fields = fields.map toDatum := by
  induction fields with
  | nil => rfl
  | cons first rest ih =>
    obtain ⟨name, kind⟩ := first
    rw [listToData, ih]
    rfl

theorem ObjectType.entry_eq (name : String) (type : Option ObjectType) :
    entry name type = optionalEntry name toDatum type := by
  rcases type with _ | ⟨attributeTypes, customType⟩
  · rfl
  · rw [entry, ObjectField.listToData_eq]
    rfl

/-- The entries of an element type are those of its kinds. -/
theorem ElementType.entries_eq (type : ElementType) :
    type.entries =
      optionalEntry "bool" PrimitiveType.toDatum type.bool ++
      optionalEntry "float64" PrimitiveType.toDatum type.float64 ++
      optionalEntry "int64" PrimitiveType.toDatum type.int64 ++
      optionalEntry "number" PrimitiveType.toDatum type.number ++
      optionalEntry "string" PrimitiveType.toDatum type.string ++
      optionalEntry "list" CollectionType.toDatum type.list ++
      optionalEntry "map" CollectionType.toDatum type.map ++
      optionalEntry "set" CollectionType.toDatum type.set ++
      optionalEntry "object" ObjectType.toDatum type.object := by
  obtain ⟨bool, float64, int64, number, string, list, map, set, object⟩ := type
  simp only [entries, CollectionType.entry_eq, ObjectType.entry_eq]

/-- Each kind that is set has an entry, even where only the first will count. -/
theorem ElementType.within_entries (type : ElementType) : Within type.entries kindNames := by
  rw [entries_eq]
  exact (within_optionalEntry ..).optional.optional.optional.optional.optional.optional.optional
    |>.optional

/-- A collection type is read back where its element type is. -/
theorem CollectionType.readBack {elementType? : Datum → Option ElementType} {type : CollectionType}
    (element : elementType? (.object type.elementType.entries) = some type.elementType) :
    ReadBack (CollectionType.ofDatum? elementType?) CollectionType.toDatum type := by
  obtain ⟨elementType, customType⟩ := type
  refine .of_record (fun _ => rfl) rfl ?_ (by decide) (by simp [element])
  exact (within_optionalEntry ..).cons

/-- The name and the kinds are entries of one object. -/
theorem ObjectField.readBack {ofFields? : Fields → Option ElementType} {field : ObjectField}
    (kind : ofFields? field.kind.entries = some field.kind) :
    ReadBack (ObjectField.ofDatum? ofFields?) ObjectField.toDatum field := by
  obtain ⟨name, type⟩ := field
  refine ⟨trivial, ?_⟩
  rw [ofDatum?, toDatum, sharedRecord?_own_shared within_nil.cons type.within_entries (by decide)
    type.hasJson]
  simp [kind]

/-- The reader for the kinds inside is a parameter, which the induction over types provides. -/
theorem ObjectType.readBack {ofFields? : Fields → Option ElementType} {type : ObjectType}
    (kinds : ∀ field ∈ type.attributeTypes, ofFields? field.kind.entries = some field.kind) :
    ReadBack (ObjectType.ofDatum? ofFields?) ObjectType.toDatum type := by
  obtain ⟨attributeTypes, customType⟩ := type
  have fields : ∀ field ∈ attributeTypes,
      ReadBack (ObjectField.ofDatum? ofFields?) ObjectField.toDatum field :=
    fun field member => ObjectField.readBack (kinds field member)
  refine .of_record (fun _ => rfl) rfl ?_ (by decide) (by simp [Datum.list?_array fields])
  exact (within_optionalEntry ..).cons

/-- An element type is read back from its entries where what it holds is. -/
private theorem ElementType.ofFields?_entries {elementType? : Datum → Option ElementType}
    {objectType? : Datum → Option ObjectType} {type : ElementType}
    (list : ∀ inside ∈ type.list,
      ReadBack (CollectionType.ofDatum? elementType?) CollectionType.toDatum inside)
    (map : ∀ inside ∈ type.map,
      ReadBack (CollectionType.ofDatum? elementType?) CollectionType.toDatum inside)
    (set : ∀ inside ∈ type.set,
      ReadBack (CollectionType.ofDatum? elementType?) CollectionType.toDatum inside)
    (object : ∀ inside ∈ type.object, ReadBack objectType? ObjectType.toDatum inside) :
    ElementType.ofFields? elementType? objectType? type.entries = some type := by
  obtain ⟨_, _, _, _, _, _, _, _, _⟩ := type
  rw [entries_eq, ofFields?]
  simp [Fields.foundD?_map list, Fields.foundD?_map map, Fields.foundD?_map set,
    Fields.foundD?_map object]

private theorem CollectionType.depth_element (type : CollectionType) :
    (Datum.object type.elementType.entries).depth < type.toDatum.depth := by
  obtain ⟨elementType, customType⟩ := type
  exact Datum.depth_lt_object (List.mem_cons_self ..)

private theorem ObjectField.depth_kind (field : ObjectField) :
    (Datum.object field.kind.entries).depth ≤ field.toDatum.depth := by
  obtain ⟨name, kind⟩ := field
  have whole := Datum.depth_object_le.mp (le_refl (toDatum ⟨name, kind⟩).depth)
  exact Datum.depth_object_le.mpr (all_append.mp whole).2

private theorem ObjectField.depth_mem {fields : List ObjectField} {field : ObjectField}
    (member : field ∈ fields) :
    (Datum.object field.kind.entries).depth < (Datum.array (fields.map toDatum)).depth := by
  have ofField : field.toDatum.depth < (Datum.array (fields.map toDatum)).depth :=
    Datum.depth_lt_array (List.mem_map_of_mem member)
  exact field.depth_kind.trans_lt ofField

private theorem ObjectType.depth_fields (type : ObjectType) :
    (Datum.array (type.attributeTypes.map ObjectField.toDatum)).depth < type.toDatum.depth := by
  obtain ⟨attributeTypes, customType⟩ := type
  exact Datum.depth_lt_object (List.mem_cons_self ..)

/-- An element type is read back from its entries, given enough depth. -/
theorem ElementType.ofFieldsWithin?_entries (depth : Nat) (type : ElementType)
    (enough : (Datum.object type.entries).depth ≤ depth) :
    ofFieldsWithin? depth type.entries = some type := by
  induction depth generalizing type with
  | zero => exact absurd enough (Nat.not_succ_le_zero _)
  | succ depth ih =>
    have collection : ∀ inside : CollectionType, inside.toDatum.depth ≤ depth →
        ReadBack (CollectionType.ofDatum? fun datum => do
          ofFieldsWithin? depth (← datum.record? kindNames)) CollectionType.toDatum inside := by
      intro inside shallow
      refine CollectionType.readBack ?_
      rw [record?_object inside.elementType.within_entries (by decide)]
      exact ih inside.elementType (inside.depth_element.le.trans shallow)
    have object : ∀ inside : ObjectType, inside.toDatum.depth ≤ depth →
        ReadBack (ObjectType.ofDatum? (ofFieldsWithin? depth)) ObjectType.toDatum inside := by
      intro inside shallow
      refine ObjectType.readBack fun field member => ih field.kind ?_
      exact ((ObjectField.depth_mem member).trans inside.depth_fields).le.trans shallow
    rw [Datum.depth_object_le, entries_eq] at enough
    simp only [all_append, all_optionalEntry] at enough
    obtain ⟨⟨⟨⟨-, ofList⟩, ofMap⟩, ofSet⟩, ofObject⟩ := enough
    exact ofFields?_entries (fun inside given => collection inside (ofList inside given))
      (fun inside given => collection inside (ofMap inside given))
      (fun inside given => collection inside (ofSet inside given))
      (fun inside given => object inside (ofObject inside given))

/-- All kinds that are set are read back, not only the one that counts. -/
@[simp]
theorem ElementType.ofDatum?_entries (type : ElementType) :
    ofDatum? (.object type.entries) = some type := by
  rw [ofDatum?, record?_object type.within_entries (by decide)]
  exact ofFieldsWithin?_entries _ type le_rfl

@[simp]
theorem ObjectField.listOfDatum?_listToData (fields : List ObjectField) :
    listOfDatum? (.array (listToData fields)) = some fields := by
  rw [listToData_eq]
  refine Datum.list?_array fun field member => ObjectField.readBack ?_
  exact ElementType.ofFieldsWithin?_entries _ field.kind (ObjectField.depth_mem member).le

end Types

/-! ## Attributes -/

section Attributes

/-- A kind of attribute is read back if its own fields are. -/
theorem AttributeFacets.readBack {α : Type} {own : List String}
    {read : AttributeFacets → Fields → Option α} {write : α → Datum} {value : α}
    {facets : AttributeFacets} {entries : Entries}
    (written : write value = .object (facets.entries ++ entries)) (within : Within entries own)
    (distinct : (fieldNames ++ own).Nodup)
    (reads : read facets entries = some value) : ReadBack (withFacets? own read) write value := by
  refine ⟨by rw [written]; trivial, ?_⟩
  rw [withFacets?, written,
    sharedRecord?_shared_own facets.within_entries within distinct facets.hasJson]
  simpa using reads

theorem PrimitiveAttribute.readBack {δ : Type} {read : Datum → Option δ} {write : δ → Datum}
    (back : ∀ default, ReadBack read write default) (a : PrimitiveAttribute δ) :
    ReadBack (PrimitiveAttribute.ofDatum? read) (PrimitiveAttribute.toDatum write) a :=
  AttributeFacets.readBack rfl (within_optionalEntry ..) (by decide) (by simp [back])

@[simp]
theorem PrimitiveAttribute.readBack_literal {α : Type} {read : Datum → Option α} {write : α → Datum}
    (back : ∀ literal, ReadBack read write literal) (a : PrimitiveAttribute (LiteralDefault α)) :
    ReadBack (PrimitiveAttribute.ofDatum? (LiteralDefault.ofDatum? read))
      (PrimitiveAttribute.toDatum (LiteralDefault.toDatum write)) a :=
  PrimitiveAttribute.readBack (LiteralDefault.readBack back) a

@[simp]
theorem CollectionAttribute.readBack (a : CollectionAttribute) :
    ReadBack CollectionAttribute.ofDatum? CollectionAttribute.toDatum a := by
  have written : a.toDatum = .object (a.facets.entries ++
      ([("element_type", .object a.elementType.entries)] ++
        optionalEntry "default" CustomDefault.toDatum a.default)) := by
    rw [toDatum, List.append_assoc]
  refine AttributeFacets.readBack written ?_ (by decide) (by simp)
  exact (within_optionalEntry ..).cons

@[simp]
theorem ObjectAttribute.readBack (a : ObjectAttribute) :
    ReadBack ObjectAttribute.ofDatum? ObjectAttribute.toDatum a := by
  have written : a.toDatum = .object (a.facets.entries ++
      ([("attribute_types", .array (ObjectField.listToData a.attributeTypes))] ++
        (optionalEntry "associated_external_type" ExternalType.toDatum a.externalType ++
          optionalEntry "default" CustomDefault.toDatum a.default))) := by
    rw [toDatum, List.append_assoc, List.append_assoc]
  refine AttributeFacets.readBack written ?_ (by decide) (by simp)
  exact (within_optionalEntry ..).optional.cons

/-- The datum of a list, map or set of objects. -/
def NestedAttribute.toDatum : NestedAttribute → Datum
  | ⟨facets, nestedObject, default⟩ =>
      .object (facets.entries ++ ([("nested_object", nestedObject.toDatum)] ++
        optionalEntry "default" CustomDefault.toDatum default))

def SingleNestedAttribute.toDatum : SingleNestedAttribute → Datum
  | ⟨facets, attributes, externalType, default⟩ =>
      .object (facets.entries ++ ([("attributes", .array (Attribute.listToData attributes))] ++
        optionalEntry "associated_external_type" ExternalType.toDatum externalType ++
        optionalEntry "default" CustomDefault.toDatum default))

theorem NestedAttribute.entry_eq (name : String) (nested : Option NestedAttribute) :
    entry name nested = optionalEntry name toDatum nested := by
  rcases nested with _ | ⟨facets, nestedObject, default⟩
  · rfl
  · rw [entry, List.append_assoc]
    rfl

theorem SingleNestedAttribute.entry_eq (name : String) (single : Option SingleNestedAttribute) :
    entry name single = optionalEntry name toDatum single := by
  rcases single with _ | ⟨facets, attributes, externalType, default⟩
  · rfl
  · rw [entry, List.append_assoc, List.append_assoc, ← List.append_assoc [_]]
    rfl

/-- The datum of an attribute is the record of its name and its kinds. -/
theorem Attribute.toDatum_eq (a : Attribute) :
    a.toDatum = .object (("name", .string a.name) ::
      optionalEntry "bool" (PrimitiveAttribute.toDatum (LiteralDefault.toDatum .bool)) a.bool ++
      optionalEntry "float64" (PrimitiveAttribute.toDatum (LiteralDefault.toDatum .float))
        a.float64 ++
      optionalEntry "int64" (PrimitiveAttribute.toDatum (LiteralDefault.toDatum (.int ·.toInt)))
        a.int64 ++
      optionalEntry "number" (PrimitiveAttribute.toDatum CustomDefault.toDatum) a.number ++
      optionalEntry "string" (PrimitiveAttribute.toDatum (LiteralDefault.toDatum .string))
        a.string ++
      optionalEntry "list" CollectionAttribute.toDatum a.list ++
      optionalEntry "map" CollectionAttribute.toDatum a.map ++
      optionalEntry "set" CollectionAttribute.toDatum a.set ++
      optionalEntry "list_nested" NestedAttribute.toDatum a.listNested ++
      optionalEntry "map_nested" NestedAttribute.toDatum a.mapNested ++
      optionalEntry "set_nested" NestedAttribute.toDatum a.setNested ++
      optionalEntry "single_nested" SingleNestedAttribute.toDatum a.singleNested ++
      optionalEntry "object" ObjectAttribute.toDatum a.object) := by
  obtain ⟨name, bool, float64, int64, number, string, list, map, set, listNested, mapNested,
    setNested, singleNested, object⟩ := a
  simp only [toDatum, NestedAttribute.entry_eq, SingleNestedAttribute.entry_eq]

variable {attributes? : Datum → Option (List Attribute)}

/-- The reader for the attributes inside is a parameter, as with object types. -/
theorem NestedAttributeObject.readBack {inside : NestedAttributeObject}
    (attributes : attributes? (.array (Attribute.listToData inside.attributes)) =
      some inside.attributes) :
    ReadBack (NestedAttributeObject.ofDatum? attributes?) NestedAttributeObject.toDatum inside := by
  obtain ⟨inner, customType, externalType, planModifiers, validators⟩ := inside
  refine .of_record (fun _ => rfl) rfl ?_ (by decide) (by simp [attributes])
  exact (within_optionalEntry ..).cons.optional.list.list

theorem NestedAttribute.readBack {nested : NestedAttribute}
    (attributes : attributes? (.array (Attribute.listToData nested.nestedObject.attributes)) =
      some nested.nestedObject.attributes) :
    ReadBack (NestedAttribute.ofDatum? attributes?) NestedAttribute.toDatum nested := by
  obtain ⟨facets, nestedObject, default⟩ := nested
  refine AttributeFacets.readBack rfl ?_ (by decide) ?_
  · exact (within_optionalEntry ..).cons
  · simp [(NestedAttributeObject.readBack attributes).reads]

theorem SingleNestedAttribute.readBack {single : SingleNestedAttribute}
    (attributes : attributes? (.array (Attribute.listToData single.attributes)) =
      some single.attributes) :
    ReadBack (SingleNestedAttribute.ofDatum? attributes?) SingleNestedAttribute.toDatum single := by
  obtain ⟨facets, inner, externalType, default⟩ := single
  refine AttributeFacets.readBack rfl ?_ (by decide) (by simp [attributes])
  exact (within_optionalEntry ..).cons.optional

/-- Kinds with attributes inside are read back by assumption, and all others are known to be. -/
theorem Attribute.readBack {a : Attribute}
    (list : ∀ nested ∈ a.listNested,
      ReadBack (NestedAttribute.ofDatum? attributes?) NestedAttribute.toDatum nested)
    (map : ∀ nested ∈ a.mapNested,
      ReadBack (NestedAttribute.ofDatum? attributes?) NestedAttribute.toDatum nested)
    (set : ∀ nested ∈ a.setNested,
      ReadBack (NestedAttribute.ofDatum? attributes?) NestedAttribute.toDatum nested)
    (single : ∀ nested ∈ a.singleNested,
      ReadBack (SingleNestedAttribute.ofDatum? attributes?) SingleNestedAttribute.toDatum nested) :
    ReadBack (Attribute.ofDatumWith? attributes?) Attribute.toDatum a := by
  refine .of_record (fun _ => rfl) a.toDatum_eq ?_ (by decide) ?_
  · exact (within_optionalEntry ..).cons.optional.optional.optional.optional.optional.optional
      |>.optional.optional.optional.optional.optional.optional
  · obtain ⟨_, _, _, _, _, _, _, _, _, _, _, _, _, _⟩ := a
    simp [Fields.foundD?_map list, Fields.foundD?_map map, Fields.foundD?_map set,
      Fields.foundD?_map single, PrimitiveAttribute.readBack]

private theorem NestedAttributeObject.depth_attributes (inside : NestedAttributeObject) :
    (Datum.array (Attribute.listToData inside.attributes)).depth < inside.toDatum.depth := by
  obtain ⟨inner, customType, externalType, planModifiers, validators⟩ := inside
  exact Datum.depth_lt_object (List.mem_cons_self ..)

private theorem NestedAttribute.depth_attributes (nested : NestedAttribute) :
    (Datum.array (Attribute.listToData nested.nestedObject.attributes)).depth <
      nested.toDatum.depth := by
  obtain ⟨facets, nestedObject, default⟩ := nested
  refine nestedObject.depth_attributes.trans ?_
  exact Datum.depth_lt_object (List.mem_append_right facets.entries (List.mem_cons_self ..))

private theorem SingleNestedAttribute.depth_attributes (single : SingleNestedAttribute) :
    (Datum.array (Attribute.listToData single.attributes)).depth < single.toDatum.depth := by
  obtain ⟨facets, inner, externalType, default⟩ := single
  exact Datum.depth_lt_object (List.mem_append_right facets.entries (List.mem_cons_self ..))

/-- Attributes are read back from their data, given enough depth. -/
theorem Attribute.listWithin?_listToData (depth : Nat) (attributes : List Attribute)
    (enough : (Datum.array (listToData attributes)).depth ≤ depth) :
    listWithin? depth (.array (listToData attributes)) = some attributes := by
  induction depth generalizing attributes with
  | zero => exact absurd enough (Nat.not_succ_le_zero _)
  | succ depth ih =>
    have nested : ∀ inside : NestedAttribute, inside.toDatum.depth ≤ depth →
        ReadBack (NestedAttribute.ofDatum? (listWithin? depth)) NestedAttribute.toDatum inside :=
      fun inside shallow => NestedAttribute.readBack
        (ih inside.nestedObject.attributes (inside.depth_attributes.le.trans shallow))
    have single : ∀ inside : SingleNestedAttribute, inside.toDatum.depth ≤ depth →
        ReadBack (SingleNestedAttribute.ofDatum? (listWithin? depth))
          SingleNestedAttribute.toDatum inside :=
      fun inside shallow => SingleNestedAttribute.readBack
        (ih inside.attributes (inside.depth_attributes.le.trans shallow))
    rw [listToData_eq, Datum.depth_array_le] at enough
    rw [listToData_eq]
    refine Datum.list?_array fun a member => ?_
    have shallow : a.toDatum.depth ≤ depth + 1 :=
      Nat.le_succ_of_le (enough _ (List.mem_map_of_mem member))
    rw [toDatum_eq, Datum.depth_object_le] at shallow
    simp only [all_append, all_cons, all_optionalEntry] at shallow
    obtain ⟨⟨⟨⟨⟨-, ofList⟩, ofMap⟩, ofSet⟩, ofSingle⟩, -⟩ := shallow
    exact Attribute.readBack (fun inside given => nested inside (ofList inside given))
      (fun inside given => nested inside (ofMap inside given))
      (fun inside given => nested inside (ofSet inside given))
      (fun inside given => single inside (ofSingle inside given))

/-- The reader looks no deeper than the tree goes, and that is deep enough. -/
@[simp]
theorem Attribute.listOfDatum?_listToData (attributes : List Attribute) :
    listOfDatum? (.array (listToData attributes)) = some attributes :=
  listWithin?_listToData _ attributes le_rfl

end Attributes

/-! ## Blocks -/

section Blocks

/-- The datum of a list or set of objects. -/
def NestedBlock.toDatum : NestedBlock → Datum
  | ⟨facets, nestedObject⟩ => .object (facets.entries ++ [("nested_object", nestedObject.toDatum)])

def SingleNestedBlock.toDatum : SingleNestedBlock → Datum
  | ⟨facets, attributes, blocks, externalType⟩ =>
      .object (facets.entries ++ ([("attributes", .array (Attribute.listToData attributes)),
        ("blocks", .array (Block.listToData blocks))] ++
        optionalEntry "associated_external_type" ExternalType.toDatum externalType))

theorem NestedBlock.entry_eq (name : String) (nested : Option NestedBlock) :
    entry name nested = optionalEntry name toDatum nested := by
  rcases nested with _ | ⟨facets, nestedObject⟩ <;> rfl

theorem SingleNestedBlock.entry_eq (name : String) (single : Option SingleNestedBlock) :
    entry name single = optionalEntry name toDatum single := by
  rcases single with _ | ⟨facets, attributes, blocks, externalType⟩
  · rfl
  · rw [entry, List.append_assoc]
    rfl

/-- The datum of a block is the record of its name and its kinds. -/
theorem Block.toDatum_eq (b : Block) :
    b.toDatum = .object (("name", .string b.name) ::
      optionalEntry "list_nested" NestedBlock.toDatum b.listNested ++
      optionalEntry "set_nested" NestedBlock.toDatum b.setNested ++
      optionalEntry "single_nested" SingleNestedBlock.toDatum b.singleNested) := by
  obtain ⟨name, listNested, setNested, singleNested⟩ := b
  simp only [toDatum, NestedBlock.entry_eq, SingleNestedBlock.entry_eq]

variable {blocks? : Datum → Option (List Block)}

/-- Attributes inside are known to be read back, so only the blocks are assumed. -/
theorem NestedBlockObject.readBack {inside : NestedBlockObject}
    (blocks : blocks? (.array (Block.listToData inside.blocks)) = some inside.blocks) :
    ReadBack (NestedBlockObject.ofDatum? blocks?) NestedBlockObject.toDatum inside := by
  obtain ⟨attributes, inner, customType, externalType, planModifiers, validators⟩ := inside
  refine .of_record (fun _ => rfl) rfl ?_ (by decide) (by simp [blocks])
  exact (within_optionalEntry ..).cons.cons.optional.list.list

theorem NestedBlock.readBack {nested : NestedBlock}
    (blocks : blocks? (.array (Block.listToData nested.nestedObject.blocks)) =
      some nested.nestedObject.blocks) :
    ReadBack (NestedBlock.ofDatum? blocks?) NestedBlock.toDatum nested := by
  obtain ⟨facets, nestedObject⟩ := nested
  refine ⟨trivial, ?_⟩
  rw [ofDatum?, toDatum, sharedRecord?_shared_own facets.within_entries within_nil.cons (by decide)
    facets.hasJson]
  simp [(NestedBlockObject.readBack blocks).reads]

theorem SingleNestedBlock.readBack {single : SingleNestedBlock}
    (blocks : blocks? (.array (Block.listToData single.blocks)) = some single.blocks) :
    ReadBack (SingleNestedBlock.ofDatum? blocks?) SingleNestedBlock.toDatum single := by
  obtain ⟨facets, attributes, inner, externalType⟩ := single
  have within : Within ([("attributes", .array (Attribute.listToData attributes)),
      ("blocks", .array (Block.listToData inner))] ++
      optionalEntry "associated_external_type" ExternalType.toDatum externalType)
      ["attributes", "blocks", "associated_external_type"] := (within_optionalEntry ..).cons.cons
  refine ⟨trivial, ?_⟩
  rw [ofDatum?, toDatum,
    sharedRecord?_shared_own facets.within_entries within (by decide) facets.hasJson]
  simp [blocks]

theorem Block.readBack {b : Block}
    (list : ∀ nested ∈ b.listNested,
      ReadBack (NestedBlock.ofDatum? blocks?) NestedBlock.toDatum nested)
    (set : ∀ nested ∈ b.setNested,
      ReadBack (NestedBlock.ofDatum? blocks?) NestedBlock.toDatum nested)
    (single : ∀ nested ∈ b.singleNested,
      ReadBack (SingleNestedBlock.ofDatum? blocks?) SingleNestedBlock.toDatum nested) :
    ReadBack (Block.ofDatumWith? blocks?) Block.toDatum b := by
  refine .of_record (fun _ => rfl) b.toDatum_eq ?_ (by decide) ?_
  · exact (within_optionalEntry ..).cons.optional.optional
  · obtain ⟨_, _, _, _⟩ := b
    simp [Fields.foundD?_map list, Fields.foundD?_map set, Fields.foundD?_map single]

private theorem NestedBlockObject.depth_blocks (inside : NestedBlockObject) :
    (Datum.array (Block.listToData inside.blocks)).depth < inside.toDatum.depth := by
  obtain ⟨attributes, inner, customType, externalType, planModifiers, validators⟩ := inside
  exact Datum.depth_lt_object (List.mem_cons_of_mem _ (List.mem_cons_self ..))

private theorem NestedBlock.depth_blocks (nested : NestedBlock) :
    (Datum.array (Block.listToData nested.nestedObject.blocks)).depth < nested.toDatum.depth := by
  obtain ⟨facets, nestedObject⟩ := nested
  refine nestedObject.depth_blocks.trans ?_
  exact Datum.depth_lt_object (List.mem_append_right facets.entries (List.mem_cons_self ..))

private theorem SingleNestedBlock.depth_blocks (single : SingleNestedBlock) :
    (Datum.array (Block.listToData single.blocks)).depth < single.toDatum.depth := by
  obtain ⟨facets, attributes, inner, externalType⟩ := single
  exact Datum.depth_lt_object
    (List.mem_append_right facets.entries (List.mem_cons_of_mem _ (List.mem_cons_self ..)))

/-- Blocks are read back from their data, given enough depth. -/
theorem Block.listWithin?_listToData (depth : Nat) (blocks : List Block)
    (enough : (Datum.array (listToData blocks)).depth ≤ depth) :
    listWithin? depth (.array (listToData blocks)) = some blocks := by
  induction depth generalizing blocks with
  | zero => exact absurd enough (Nat.not_succ_le_zero _)
  | succ depth ih =>
    have nested : ∀ inside : NestedBlock, inside.toDatum.depth ≤ depth →
        ReadBack (NestedBlock.ofDatum? (listWithin? depth)) NestedBlock.toDatum inside :=
      fun inside shallow => NestedBlock.readBack
        (ih inside.nestedObject.blocks (inside.depth_blocks.le.trans shallow))
    have single : ∀ inside : SingleNestedBlock, inside.toDatum.depth ≤ depth →
        ReadBack (SingleNestedBlock.ofDatum? (listWithin? depth)) SingleNestedBlock.toDatum inside :=
      fun inside shallow => SingleNestedBlock.readBack
        (ih inside.blocks (inside.depth_blocks.le.trans shallow))
    rw [listToData_eq, Datum.depth_array_le] at enough
    rw [listToData_eq]
    refine Datum.list?_array fun b member => ?_
    have shallow : b.toDatum.depth ≤ depth + 1 :=
      Nat.le_succ_of_le (enough _ (List.mem_map_of_mem member))
    rw [toDatum_eq, Datum.depth_object_le] at shallow
    simp only [all_append, all_cons, all_optionalEntry] at shallow
    obtain ⟨⟨⟨-, ofList⟩, ofSet⟩, ofSingle⟩ := shallow
    exact Block.readBack (fun inside given => nested inside (ofList inside given))
      (fun inside given => nested inside (ofSet inside given))
      (fun inside given => single inside (ofSingle inside given))

@[simp]
theorem Block.listOfDatum?_listToData (blocks : List Block) :
    listOfDatum? (.array (listToData blocks)) = some blocks :=
  listWithin?_listToData _ blocks le_rfl

end Blocks

/-! ## Resources -/

/-- The two trees of a schema are read back one after the other. -/
@[simp]
theorem Schema.readBack (schema : Schema) : ReadBack Schema.ofDatum? Schema.toDatum schema := by
  refine .of_record (fun _ => rfl) rfl ?_ (by decide) ?_
  · exact (within_listEntry ..).list.optional.optional.optional
  · simp [← Attribute.listToData_eq, ← Block.listToData_eq]

@[simp]
theorem Resource.readBack (resource : Resource) :
    ReadBack Resource.ofDatum? Resource.toDatum resource := by
  refine .of_record (fun _ => rfl) rfl within_nil.cons.cons (by decide) ?_
  simp [(Schema.readBack resource.schema).reads]

end Spec

/-- A specification is read back from its datum. -/
theorem Specification.ofDatum?_toDatum (spec : Specification) :
    ofDatum? spec.toDatum = some spec := by
  have within : Within (("version", .string spec.version) ::
    listEntry "resources" Spec.Resource.toDatum spec.resources) ["version", "resources"] :=
      (within_listEntry ..).cons
  rw [ofDatum?, toDatum, record?_object within (by decide)]
  simp

end ProviderCodegen
