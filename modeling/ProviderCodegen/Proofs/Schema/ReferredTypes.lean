import ProviderCodegen.Proofs.SourceLines

/-! # The generated types that are referred to

What is written for a node depends on the node's name only where a type is generated for the node,
and there only by the names of the type and the value type (`NamesTypes`): all else in it is fixed.
These are the names that the generated types declare, so no type is referred to and not declared.
-/

namespace ProviderCodegen.Schema

open Source (composite emptyComposite generatedAttrType generatedCustomType inQuotes structs typeName
  valueName)
open Spec (CustomType ExternalType)

/-! ## Texts that are made from names of types -/

/-- Whether what is written for a name is put together from fixed texts and the names of the types
that are generated for it. -/
inductive OfTypeNames : (String → String) → Prop
  | fixed (text : String) : OfTypeNames fun _ => text
  | typeName : OfTypeNames Source.typeName
  | valueName : OfTypeNames Source.valueName
  | append {first second : String → String} (ofFirst : OfTypeNames first)
      (ofSecond : OfTypeNames second) : OfTypeNames fun name => first name ++ second name

section OfTypeNames

variable {type entry : String → String}

/-- Braces and line breaks around an entry are fixed texts. -/
theorem OfTypeNames.composite (ofType : OfTypeNames type) (ofEntry : OfTypeNames entry) :
    OfTypeNames fun name => composite (type name) [entry name] := by
  simp only [Source.composite, List.map_cons, List.map_nil, String.join_cons, String.join_nil,
    String.append_empty]
  have ofLine := (OfTypeNames.fixed "\n").append ofEntry
  exact (((ofType.append (.fixed _)).append ofLine).append (.fixed _)).append (.fixed _)

private theorem ofTypeNames_fields : OfTypeNames Source.generatedFields := by
  have ofValue : OfTypeNames fun name => emptyComposite (valueName name) :=
    (OfTypeNames.valueName.append (.fixed _)).append (.fixed _)
  exact ((OfTypeNames.fixed _).append ofValue).append (.fixed _)

theorem ofTypeNames_customType : OfTypeNames generatedCustomType := by
  have ofObject := (OfTypeNames.fixed "types.ObjectType").composite ofTypeNames_fields
  exact OfTypeNames.typeName.composite (((OfTypeNames.fixed _).append ofObject).append (.fixed _))

theorem ofTypeNames_attrType : OfTypeNames generatedAttrType := by
  have ofObject := (OfTypeNames.fixed "basetypes.ObjectType").composite ofTypeNames_fields
  exact OfTypeNames.typeName.composite (ofObject.append (.fixed _))

private theorem ofTypeNames_attrTypeOr (facets : Facets) (ofType : OfTypeNames type) :
    OfTypeNames fun name => facets.attrTypeOr (type name) := by
  unfold Facets.attrTypeOr
  cases facets.customType with
  | none => exact ofType
  | some custom => exact .fixed _

private theorem ofTypeNames_valueTypeOr (facets : Facets) (ofType : OfTypeNames type) :
    OfTypeNames fun name => facets.valueTypeOr (type name) := by
  unfold Facets.valueTypeOr
  cases facets.customType with
  | none => exact ofType
  | some custom => exact .fixed _

private theorem ofTypeNames_elements (kind : CollectionKind) (item : ObjectFacets) :
    OfTypeNames fun name => collectionAttrType kind (item.elementType name) := by
  have ofItem : OfTypeNames item.elementType := by
    unfold ObjectFacets.elementType
    cases item.customType with
    | none => exact (OfTypeNames.valueName.append (.fixed _)).append (.fixed _) |>.append (.fixed _)
    | some custom => exact .fixed _
  exact (OfTypeNames.fixed _).composite (((OfTypeNames.fixed _).append ofItem).append (.fixed _))

private theorem ofTypeNames_resolve (custom : Option CustomType) (isGenerated : Bool)
    (ofKind : OfTypeNames type) :
    OfTypeNames fun name => (ModelField.resolve name custom isGenerated (type name)).valueType := by
  cases custom with
  | some custom => exact .fixed _
  | none => cases isGenerated with
    | true => exact .valueName
    | false => exact ofKind

end OfTypeNames

namespace Node

/-! ## What is written for a node -/

/-- Whether what is written for a node depends on its name: the literal behind the key that declares
the node, its type among those of the fields around it, the type of the field that holds its value,
or the type of its field in the model. Only names of generated types are made from it there. -/
def RefersToGenerated (node : Node) : Prop :=
  (¬ ∃ literal, ∀ name, node.declaration name = inQuotes name ++ ": " ++ literal) ∨
    (¬ ∃ type, ∀ name, node.attrType name = type) ∨
    (¬ ∃ type, ∀ name, node.valueType name = type) ∨
    ¬ ∃ type, ∀ name, (node.modelField name).valueType = type

private theorem declaration_eq (name type entries : String) :
    Schema.declaration name type entries =
      inQuotes name ++ ": " ++ (schemaLiteral type entries ++ ",") :=
  String.append_assoc ..

private theorem exists_custom {custom : Option CustomType} (without : custom.isNone = false) :
    ∃ given, custom = some given :=
  Option.isSome_iff_exists.mp (Option.isNone_eq_false_iff.mp without)

private theorem object_cases {external : Option ExternalType} {custom : Option CustomType}
    (without : (external.isSome && custom.isNone) = false) :
    external = none ∨ ∃ given, custom = some given := by
  cases external with
  | none => exact .inl rfl
  | some external => exact .inr (exists_custom without)

variable {node : Node}

private theorem fixed_declaration (without : node.generatesType = false) :
    ∃ literal, ∀ name, node.declaration name = inQuotes name ++ ": " ++ literal := by
  cases node with
  | attr node =>
    cases node with
    | primitive kind facets default => exact ⟨_, fun name => declaration_eq name _ _⟩
    | collection kind facets element default => exact ⟨_, fun name => declaration_eq name _ _⟩
    | nested kind facets item attributes default =>
      obtain ⟨custom, given⟩ := exists_custom without
      simp only [declaration, Attribute.declaration, ObjectFacets.entry, ObjectFacets.schemaType,
        given]
      exact ⟨_, fun name => declaration_eq name _ _⟩
    | singleNested facets attributes external default =>
      obtain ⟨custom, given⟩ := exists_custom without
      simp only [declaration, Attribute.declaration, ObjectFacets.single, ObjectFacets.schemaType,
        given]
      exact ⟨_, fun name => declaration_eq name _ _⟩
    | object facets fields external default =>
      rcases object_cases without with rfl | ⟨custom, given⟩
      · simp only [declaration, Attribute.declaration, fixedObjectType, Option.isSome_none,
          Bool.false_eq_true, if_false]
        exact ⟨_, fun name => declaration_eq name _ _⟩
      · simp only [declaration, Attribute.declaration, fixedObjectType, given]
        exact ⟨_, fun name => declaration_eq name _ _⟩
  | block node =>
    cases node with
    | nested kind facets item attributes blocks =>
      obtain ⟨custom, given⟩ := exists_custom without
      simp only [declaration, Block.declaration, ObjectFacets.entry, ObjectFacets.schemaType, given]
      exact ⟨_, fun name => declaration_eq name _ _⟩
    | singleNested facets attributes blocks external =>
      obtain ⟨custom, given⟩ := exists_custom without
      simp only [declaration, Block.declaration, ObjectFacets.single, ObjectFacets.schemaType, given]
      exact ⟨_, fun name => declaration_eq name _ _⟩

private theorem fixed_attrType (without : node.generatesType = false) :
    ∃ type, ∀ name, node.attrType name = type := by
  cases node with
  | attr node =>
    cases node with
    | primitive kind facets default => exact ⟨_, fun _ => rfl⟩
    | collection kind facets element default => exact ⟨_, fun _ => rfl⟩
    | nested kind facets item attributes default =>
      obtain ⟨custom, given⟩ := exists_custom without
      simp only [attrType, Attribute.attrType, ObjectFacets.elementType, given]
      exact ⟨_, fun _ => rfl⟩
    | singleNested facets attributes external default =>
      obtain ⟨custom, given⟩ := exists_custom without
      simp only [attrType, Attribute.attrType, Facets.attrTypeOr, given]
      exact ⟨_, fun _ => rfl⟩
    | object facets fields external default =>
      rcases object_cases without with rfl | ⟨custom, given⟩
      · simp only [attrType, Attribute.attrType, Option.isSome_none, Bool.false_eq_true, if_false]
        exact ⟨_, fun _ => rfl⟩
      · simp only [attrType, Attribute.attrType, Facets.attrTypeOr, given]
        exact ⟨_, fun _ => rfl⟩
  | block node =>
    cases node with
    | nested kind facets item attributes blocks =>
      obtain ⟨custom, given⟩ := exists_custom without
      simp only [attrType, Block.attrType, ObjectFacets.elementType, given]
      exact ⟨_, fun _ => rfl⟩
    | singleNested facets attributes blocks external =>
      obtain ⟨custom, given⟩ := exists_custom without
      simp only [attrType, Block.attrType, Facets.attrTypeOr, given]
      exact ⟨_, fun _ => rfl⟩

private theorem fixed_valueType (without : node.generatesType = false) :
    ∃ type, ∀ name, node.valueType name = type := by
  cases node with
  | attr node =>
    cases node with
    | primitive kind facets default => exact ⟨_, fun _ => rfl⟩
    | collection kind facets element default => exact ⟨_, fun _ => rfl⟩
    | nested kind facets item attributes default => exact ⟨_, fun _ => rfl⟩
    | singleNested facets attributes external default =>
      obtain ⟨custom, given⟩ := exists_custom without
      simp only [valueType, Attribute.valueType, Facets.valueTypeOr, given]
      exact ⟨_, fun _ => rfl⟩
    | object facets fields external default =>
      rcases object_cases without with rfl | ⟨custom, given⟩
      · simp only [valueType, Attribute.valueType, Option.isSome_none, Bool.false_eq_true, if_false]
        exact ⟨_, fun _ => rfl⟩
      · simp only [valueType, Attribute.valueType, Facets.valueTypeOr, given]
        exact ⟨_, fun _ => rfl⟩
  | block node =>
    cases node with
    | nested kind facets item attributes blocks => exact ⟨_, fun _ => rfl⟩
    | singleNested facets attributes blocks external =>
      obtain ⟨custom, given⟩ := exists_custom without
      simp only [valueType, Block.valueType, Facets.valueTypeOr, given]
      exact ⟨_, fun _ => rfl⟩

private theorem fixed_resolve (custom : Option CustomType) (kindType : String) :
    ∃ type, ∀ name, (ModelField.resolve name custom false kindType).valueType = type := by
  cases custom with
  | some custom => exact ⟨_, fun _ => rfl⟩
  | none => exact ⟨kindType, fun _ => rfl⟩

private theorem fixed_modelField (without : node.generatesType = false) :
    ∃ type, ∀ name, (node.modelField name).valueType = type := by
  cases node with
  | attr node =>
    cases node with
    | primitive kind facets default => exact fixed_resolve ..
    | collection kind facets element default => exact fixed_resolve ..
    | nested kind facets item attributes default => exact fixed_resolve ..
    | singleNested facets attributes external default =>
      obtain ⟨custom, given⟩ := exists_custom without
      simp only [modelField, Attribute.modelField, ModelField.resolve, given]
      exact ⟨_, fun _ => rfl⟩
    | object facets fields external default =>
      rcases object_cases without with rfl | ⟨custom, given⟩
      · exact fixed_resolve ..
      · simp only [modelField, Attribute.modelField, ModelField.resolve, given]
        exact ⟨_, fun _ => rfl⟩
  | block node =>
    cases node with
    | nested kind facets item attributes blocks => exact fixed_resolve ..
    | singleNested facets attributes blocks external =>
      obtain ⟨custom, given⟩ := exists_custom without
      simp only [modelField, Block.modelField, ModelField.resolve, given]
      exact ⟨_, fun _ => rfl⟩

/-- Whether a text has the custom type that is generated for a name in a fixed context. -/
private def Carries (text : String → String) : Prop :=
  ∃ before after, ∀ name, text name = before ++ generatedCustomType name ++ after

private theorem Carries.behind {text : String → String} (carries : Carries text) (fixed : String) :
    Carries fun name => fixed ++ text name := by
  obtain ⟨before, after, same⟩ := carries
  exact ⟨fixed ++ before, after, fun name => by simp only [same, String.append_assoc]⟩

private theorem Carries.before {text : String → String} (carries : Carries text) (fixed : String) :
    Carries fun name => text name ++ fixed := by
  obtain ⟨before, after, same⟩ := carries
  exact ⟨before, after ++ fixed, fun name => by simp only [same, String.append_assoc]⟩

private theorem carries_customTypeEntry :
    Carries fun name => customTypeEntry (some (generatedCustomType name)) :=
  ⟨"\n" ++ "CustomType" ++ ": ", ",", fun _ => rfl⟩

private theorem carries_facets (facets : Facets) (hookType : String) :
    Carries fun name => facets.entries (some (generatedCustomType name)) hookType := by
  unfold Facets.entries
  exact (((((carries_customTypeEntry.before _).before _).before _).before _).before _).before _

private theorem carries_schemaLiteral {text : String → String} (carries : Carries text)
    (type : String) : Carries fun name => schemaLiteral type (text name) :=
  ((carries.behind _).before _).before _

private theorem carries_objectEntry {object : ObjectFacets} (without : object.customType = none)
    (type children : String) : Carries fun name => object.entry name type children := by
  simp only [ObjectFacets.entry, ObjectFacets.schemaType, without]
  exact ((carries_schemaLiteral
    (((carries_customTypeEntry.behind _).before _).before _) _).behind _).before _

private theorem carries_declaration (generated : node.generatesType = true) :
    ∃ literal, Carries literal ∧
      ∀ name, node.declaration name = inQuotes name ++ ": " ++ literal name := by
  cases node with
  | attr node =>
    cases node with
    | primitive kind facets default => cases generated
    | collection kind facets element default => cases generated
    | nested kind facets item attributes default =>
      have without : item.customType = none := Option.isNone_iff_eq_none.mp generated
      exact ⟨_, (carries_schemaLiteral ((carries_objectEntry without _ _).behind _) _).before ",",
        fun name => declaration_eq name _ _⟩
    | singleNested facets attributes external default =>
      have without : facets.customType = none := Option.isNone_iff_eq_none.mp generated
      simp only [declaration, Attribute.declaration, ObjectFacets.single, ObjectFacets.schemaType,
        without]
      exact ⟨_, (carries_schemaLiteral (((carries_facets facets _).before _).before _) _).before ",",
        fun name => declaration_eq name _ _⟩
    | object facets fields external default =>
      obtain ⟨converts, without⟩ := (Bool.and_eq_true _ _).mp generated
      rw [Option.isNone_iff_eq_none] at without
      simp only [declaration, Attribute.declaration, fixedObjectType, without, converts, if_true]
      exact ⟨_, (carries_schemaLiteral (((carries_facets facets _).before _).before _) _).before ",",
        fun name => declaration_eq name _ _⟩
  | block node =>
    cases node with
    | nested kind facets item attributes blocks =>
      have without : item.customType = none := Option.isNone_iff_eq_none.mp generated
      exact ⟨_, (carries_schemaLiteral ((carries_objectEntry without _ _).behind _) _).before ",",
        fun name => declaration_eq name _ _⟩
    | singleNested facets attributes blocks external =>
      have without : facets.customType = none := Option.isNone_iff_eq_none.mp generated
      simp only [declaration, Block.declaration, ObjectFacets.single, ObjectFacets.schemaType,
        without]
      exact ⟨_, (carries_schemaLiteral (((carries_facets facets _).before _).before _) _).before ",",
        fun name => declaration_eq name _ _⟩

/-- Whether what is written for a node under a name, in each of the places where its types stand, is
made from the names of the types that are generated for this name. -/
structure NamesTypes (node : Node) : Prop where
  declaration : ∃ literal, OfTypeNames literal ∧
    ∀ name, node.declaration name = inQuotes name ++ ": " ++ literal name
  attrType : OfTypeNames fun name => node.attrType name
  valueType : OfTypeNames fun name => node.valueType name
  model : OfTypeNames fun name => (node.modelField name).valueType

/-- Nothing that is written for a node refers to a type by another name. -/
theorem namesTypes (node : Node) : node.NamesTypes where
  declaration := by
    cases generated : node.generatesType with
    | false =>
      obtain ⟨literal, same⟩ := fixed_declaration generated
      exact ⟨_, .fixed literal, same⟩
    | true =>
      obtain ⟨literal, ⟨before, after, carries⟩, same⟩ := carries_declaration generated
      refine ⟨literal, ?_, same⟩
      rw [funext carries]
      exact ((OfTypeNames.fixed before).append ofTypeNames_customType).append (.fixed after)
  attrType := by
    cases node with
    | attr node =>
      cases node with
      | primitive kind facets default => exact .fixed _
      | collection kind facets element default => exact .fixed _
      | nested kind facets item attributes default =>
        exact ofTypeNames_attrTypeOr facets (ofTypeNames_elements kind item)
      | singleNested facets attributes external default =>
        exact ofTypeNames_attrTypeOr facets ofTypeNames_attrType
      | object facets fields external default =>
        refine ofTypeNames_attrTypeOr facets ?_
        cases external with
        | none => exact .fixed _
        | some external => exact ofTypeNames_attrType
    | block node =>
      cases node with
      | nested kind facets item attributes blocks =>
        exact ofTypeNames_attrTypeOr facets (ofTypeNames_elements kind.collection item)
      | singleNested facets attributes blocks external =>
        exact ofTypeNames_attrTypeOr facets ofTypeNames_attrType
  valueType := by
    cases node with
    | attr node =>
      cases node with
      | singleNested facets attributes external default =>
        exact ofTypeNames_valueTypeOr facets .valueName
      | object facets fields external default =>
        refine ofTypeNames_valueTypeOr facets ?_
        cases external with
        | none => exact .fixed _
        | some external => exact .valueName
      | _ => exact .fixed _
    | block node =>
      cases node with
      | nested => exact .fixed _
      | singleNested facets attributes blocks external =>
        exact ofTypeNames_valueTypeOr facets .valueName
  model := by
    cases node with
    | attr node =>
      cases node with
      | singleNested facets attributes external default =>
        exact ofTypeNames_resolve _ _ .valueName
      | _ => exact ofTypeNames_resolve _ _ (.fixed _)
    | block node =>
      cases node with
      | nested => exact ofTypeNames_resolve _ _ (.fixed _)
      | singleNested => exact ofTypeNames_resolve _ _ .valueName

private theorem generatedCustomType_ne : generatedCustomType "a" ≠ generatedCustomType "b" := by
  decide

/-- What is written for a node refers to a generated type exactly when one is generated. -/
theorem refersToGenerated_iff : node.RefersToGenerated ↔ node.generatesType = true := by
  constructor
  · intro refers
    by_contra without
    rw [Bool.not_eq_true] at without
    rcases refers with inSchema | asType | asValue | inModel
    · exact inSchema (fixed_declaration without)
    · exact asType (fixed_attrType without)
    · exact asValue (fixed_valueType without)
    · exact inModel (fixed_modelField without)
  · intro generated
    obtain ⟨literal, ⟨before, after, carries⟩, declared⟩ := carries_declaration generated
    refine .inl ?_
    -- A literal for all names would have the generated types of both names in the same place.
    rintro ⟨fixed, same⟩
    have constant (name : String) : literal name = fixed := by
      have both := (declared name).symm.trans (same name)
      exact String.append_right_inj _ |>.mp both
    have equal := (constant "a").trans (constant "b").symm
    rw [carries, carries, String.append_left_inj, String.append_right_inj] at equal
    exact generatedCustomType_ne equal

end Node

/-- The names that the lines of the generated types declare. -/
def ResourceSchema.declaredTypes (schema : ResourceSchema) : List String :=
  (schema.valueTypes.flatMap fun type => structs type.lines).map (·.name)

/-- A generated type declares two names, both made from that of its node. -/
theorem ResourceSchema.mem_declaredTypes {schema : ResourceSchema} {type : ValueType}
    (generated : type ∈ schema.valueTypes) :
    ∀ name ∈ [typeName type.name, valueName type.name], name ∈ schema.declaredTypes := by
  intro name listed
  rw [declaredTypes, List.map_flatMap, List.mem_flatMap]
  refine ⟨type, generated, ?_⟩
  rw [type.structs_lines]
  exact listed

/-- Every generated type that the output refers to is declared. The types of a schema that is built
are those of its nodes that generate one, in pre-order: at every level attributes by name, then
blocks by name, each node before what is inside, whatever custom types there are around. What is
written for a node refers to a type generated for the node only if that type is among them, and
refers to it by no other names than those of the type and its value type, which the lines of the
type declare. -/
theorem ResourceSchema.declares_generated_types {spec : Spec.Schema} {schema : ResourceSchema}
    (built : ResourceSchema.build spec = .ok schema) :
    schema.valueTypes =
        (schema.nodes.filter (·.2.generatesType)).map (fun (name, node) =>
          { name, fields := node.valueFields }) ∧
      (NameMap.Ordered schema.attributes ∧ NameMap.Ordered schema.blocks) ∧
      ∀ entry ∈ schema.nodes,
        (NameMap.Ordered entry.2.attributes ∧ NameMap.Ordered entry.2.blocks) ∧
        (entry.2.RefersToGenerated →
          { name := entry.1, fields := entry.2.valueFields } ∈ schema.valueTypes) ∧
        entry.2.NamesTypes ∧
        (entry.2.RefersToGenerated →
          ∀ name ∈ [typeName entry.1, valueName entry.1], name ∈ schema.declaredTypes) := by
  obtain ⟨inside, below⟩ := build_eq_ok built
  refine ⟨valueTypes_eq schema,
    ⟨Attributes.ordered_of_build inside, Blocks.ordered_of_build below⟩, fun entry member => ?_⟩
  have declared (refers : entry.2.RefersToGenerated) :
      { name := entry.1, fields := entry.2.valueFields } ∈ schema.valueTypes := by
    rw [valueTypes_eq]
    exact List.mem_map_of_mem (List.mem_filter.mpr ⟨member, Node.refersToGenerated_iff.mp refers⟩)
  refine ⟨ordered_nodes built entry member, declared, entry.2.namesTypes, fun refers => ?_⟩
  have names := mem_declaredTypes (declared refers)
  exact names

/-- A list of objects with a custom type, each with a single object inside. -/
def targetsSpec : Spec.Schema where
  attributes := [{
    name := "rule"
    listNested := some {
      facets := {}
      nestedObject := {
        attributes := [{
          name := "target"
          singleNested := some
            { facets := {}, attributes := [], externalType := none, default := none } }]
        customType := some { package := none, type := "RuleType", valueType := "RuleValue" }
        externalType := none
        planModifiers := []
        validators := [] }
      default := none } }]

/-- The outer object has a custom type, so only the one inside has a type generated. -/
theorem declares_target_below_custom_type :
    ∃ schema, ResourceSchema.build targetsSpec = .ok schema ∧
      schema.valueTypes = [{ name := "target", fields := [] }] ∧
      ∀ name ∈ ["TargetType", "TargetValue"], name ∈ schema.declaredTypes := by
  obtain ⟨types, -, nodes⟩ := ResourceSchema.declares_generated_types
    (show ResourceSchema.build targetsSpec = .ok _ from rfl)
  obtain ⟨-, -, -, declared⟩ := nodes ("target", _) (List.mem_cons_of_mem _ (List.mem_cons_self ..))
  exact ⟨_, rfl, types.trans rfl, declared (Node.refersToGenerated_iff.mpr rfl)⟩

end ProviderCodegen.Schema
