import ProviderCodegen.Generate
import ProviderCodegen.Proofs.Schema.GeneratedTypes
import ProviderCodegen.Proofs.Source.Use

/-! # Packages that generated code uses

Which packages of the framework the parts of a file use. A text around a part uses what the part
uses, so for every part one piece of code is shown for every package. What the declaration of a node
at any depth uses, the schema function uses.
-/

namespace ProviderCodegen

open Source

/-! ## Generated types -/

namespace Schema.ValueType

variable {name signature : String} (type : ValueType)

private theorem linesUse_typeMethod (uses : Uses name signature) (body : List Line) :
    LinesUse name (type.typeMethod signature body) :=
  linesUse_signature (uses.behind _) body

private theorem typeDeclaration_uses_basetypes : LinesUse "basetypes" type.typeDeclaration := by
  have uses : Uses "basetypes" ("var _ basetypes.ObjectTypable = " ++
      emptyComposite type.typeName) := (uses_of_space (by decide)).append _
  exact LinesUse.paragraphs (linesUse_code uses (List.mem_singleton_self _)) (List.mem_cons_self ..)

private theorem typeEqual_uses_attr : LinesUse "attr" type.typeEqual :=
  linesUse_typeMethod type (uses_of_space (by decide)) _

private theorem valueFromObject_uses_diag : LinesUse "diag" type.valueFromObject :=
  linesUse_typeMethod type ((uses_of_space (by decide)).behind _) _

private theorem valueFromTerraform_uses_context : LinesUse "context" type.valueFromTerraform :=
  linesUse_typeMethod type (uses_of_space (by decide)) _

private theorem valueFromTerraform_uses_tftypes : LinesUse "tftypes" type.valueFromTerraform :=
  linesUse_typeMethod type (uses_of_space (by decide)) _

private theorem valueFromTerraform_uses_fmt : LinesUse "fmt" type.valueFromTerraform := by
  have uses : Uses "fmt"
      "return nil, fmt.Errorf(\"expected %s, got %s\", t.TerraformType(ctx), in.Type())" :=
    uses_of_space (by decide)
  have returned := (linesUse_line uses).when "!in.Type().Equal(t.TerraformType(ctx))"
  exact (returned.paragraphs (List.mem_cons_of_mem _ (List.mem_cons_self ..))).block _

private theorem toObjectValue_uses_types : LinesUse "types" type.toObjectValue := by
  have uses : Uses "types" "return types.ObjectNull(attributeTypes), nil" :=
    uses_of_space (by decide)
  have returned := (linesUse_line uses).when "v.IsNull()"
  exact (returned.paragraphs (List.mem_cons_of_mem _ (List.mem_cons_self ..))).block _

/-- The names of the packages that every generated type uses. -/
def usedNames : List String :=
  ["types", "basetypes", "attr", "diag", "tftypes", "context", "fmt"]

/-- Every generated type has methods that use each of these packages. -/
theorem uses_render (member : name ∈ usedNames) : Uses name type.render := by
  have inLines : LinesUse name type.lines := by
    simp only [usedNames, List.mem_cons, List.not_mem_nil, or_false] at member
    rcases member with rfl | rfl | rfl | rfl | rfl | rfl | rfl
    · exact (toObjectValue_uses_types type).paragraphs (by simp)
    · exact (typeDeclaration_uses_basetypes type).paragraphs (by simp)
    · exact (typeEqual_uses_attr type).paragraphs (by simp)
    · exact (valueFromObject_uses_diag type).paragraphs (by simp)
    · exact (valueFromTerraform_uses_tftypes type).paragraphs (by simp)
    · exact (valueFromTerraform_uses_context type).paragraphs (by simp)
    · exact (valueFromTerraform_uses_fmt type).paragraphs (by simp)
  exact inLines.renderLines

end Schema.ValueType

/-! ## Conversion methods -/

namespace Conversion

open Spec (ExternalType)

variable {name receiver : String} {external : ExternalType} {fields : List FieldText}

private theorem toNativeLines_uses_context :
    LinesUse "context" (toNativeLines receiver external fields) := by
  have uses : Uses "context" "(ctx context.Context) (" := uses_of_space (by decide)
  exact linesUse_signature (((uses.behind _).append _).append _) _

private theorem toNativeLines_uses_diag :
    LinesUse "diag" (toNativeLines receiver external fields) := by
  have uses : Uses "diag" ", diag.Diagnostics)" := uses_of_space (by decide)
  exact linesUse_signature (uses.behind _) _

/-- What the entries of the returned value use is used by the method that makes the value. -/
private theorem ofNativeLines_uses_entries (use : LinesUse name
      (fields.map FieldText.valueEntry ++ [line "state: attr.ValueStateKnown,"])) :
    LinesUse name (ofNativeLines receiver external fields) := by
  have returned := use.enclosed ("return " ++ receiver ++ openBrace) (closeBrace ++ ", diags")
  refine LinesUse.block (returned.paragraphs ?_) _
  exact List.mem_append_right _ (List.mem_cons_of_mem _ (List.mem_cons_self ..))

private theorem ofNativeLines_uses_attr :
    LinesUse "attr" (ofNativeLines receiver external fields) := by
  have uses : Uses "attr" "state: attr.ValueStateKnown," := uses_of_space (by decide)
  exact ofNativeLines_uses_entries ((linesUse_line uses).mono (List.subset_append_right _ _))

/-- What the entry of a field uses is used by the method that makes the value. -/
private theorem ofNativeLines_uses_entry {field : FieldText} (member : field ∈ fields)
    (uses : Uses name (field.name ++ ": " ++ field.value.getD missingValue ++ ",")) :
    LinesUse name (ofNativeLines receiver external fields) := by
  have listed : field.valueEntry ∈ fields.map FieldText.valueEntry ++
      [line "state: attr.ValueStateKnown,"] :=
    List.mem_append_left _ (List.mem_map_of_mem member)
  exact ofNativeLines_uses_entries (linesUse_code uses listed)

/-- The statements for a field are lines of the method that makes the value. -/
theorem preamble_mem_ofNativeLines {field : FieldText} {text : String} (member : field ∈ fields)
    (inPreamble : text ∈ field.preamble) : .code 1 text ∈ ofNativeLines receiver external fields := by
  refine mem_block (mem_paragraphs (List.mem_singleton_self (line text)) ?_) _
  refine List.mem_append_left _ (List.mem_append_right _ (List.mem_map.mpr ⟨text, ?_, rfl⟩))
  exact List.mem_flatMap.mpr ⟨field, member, inPreamble⟩

private theorem ofNativeLines_uses_statement {field : FieldText} {text : String}
    (member : field ∈ fields) (inPreamble : text ∈ field.preamble) (uses : Uses name text) :
    LinesUse name (ofNativeLines receiver external fields) :=
  linesUse_code uses (preamble_mem_ofNativeLines member inPreamble)

/-- Whether a plan is for an object with methods of its own. -/
def Plan.isExternal : Plan → Bool
  | .external _ _ => true
  | _ => false

private theorem startsWith_render {text : String} (starts : StartsWith "types" text)
    (rest : Expression) : StartsWith "types" (Expression.render (.text text :: rest)) := by
  rw [Expression.render, List.map_cons, String.join_cons]
  exact starts.append _

private theorem define_uses_types {value : Expression}
    (starts : StartsWith "types" (Expression.render value)) (result : String) :
    Uses "types" (Statement.define result value).render := by
  have uses := starts.behind (show ", d := ".toList.getLast? = some ' ' by decide)
  have split : (Statement.define result value).render =
      result ++ (", d := " ++ Expression.render value) := String.append_assoc
  exact split ▸ uses.behind _

/-- All conversions from the native form but those of external types make a framework value. -/
private theorem ofNativeLines_uses_types {plan : Plan} {field : String}
    (internal : plan.isExternal = false) (member : (plan.ofNative field).render ∈ fields) :
    LinesUse "types" (ofNativeLines receiver external fields) := by
  have starts (text : String) : StartsWith "types" ("types." ++ text) :=
    StartsWith.append (show StartsWith "types" "types." by decide) _
  cases plan with
  | external => cases internal
  | value plan =>
    cases plan with
    | function name =>
      have value := startsWith_render ((((starts name).append "(").append
        (nativeField field)).append ")") []
      exact ofNativeLines_uses_entry member (value.field (Text.pascalCase field))
    | collection kind elementType nativeType =>
      have value := startsWith_render
        ((((((starts kind.name).append "ValueFrom(ctx, ").append elementType).append ", ").append
          (nativeField field)).append ")") []
      exact ofNativeLines_uses_statement member (List.mem_cons_self ..)
        (define_uses_types value (valueVariable field))
  | object parts =>
    have opening : StartsWith "types" "types.ObjectValue(" := by decide
    have value := startsWith_render (((opening.append
      (Schema.attrTypesLiteral (parts.map fun part => (part.1, part.2.attrType)))).append
        (", map[string]attr.Value")).append openBrace |>.append "\n")
      (joinLines (parts.map (partEntry field)) ++ [.text ("\n" ++ closeBrace ++ ")")])
    refine ofNativeLines_uses_statement member ?_ (define_uses_types value (valueVariable field))
    exact List.mem_map_of_mem (List.mem_append_right _ (List.mem_cons_self ..))

namespace ConversionMethods

variable {methods : ConversionMethods}

variable {line : Line}

/-- The text of a pair has the lines of both methods. -/
theorem hasLine_of_toNative (member : line ∈ toNativeLines methods.receiver methods.external
    (methods.toNative.map FieldCode.render)) : HasLine line methods.render := by
  rw [render, methodsText]
  exact ⟨_, rfl, mem_paragraphs member (List.mem_cons_self ..)⟩

/-- Methods are rendered one below the other, each with its lines whole. -/
theorem hasLine_of_ofNative (member : line ∈ ofNativeLines methods.receiver methods.external
    (methods.ofNative.map FieldCode.render)) : HasLine line methods.render := by
  rw [render, methodsText]
  exact ⟨_, rfl, mem_paragraphs member (List.mem_cons_of_mem _ (List.mem_cons_self ..))⟩

private theorem uses_of_toNative (use : LinesUse name (toNativeLines methods.receiver
      methods.external (methods.toNative.map FieldCode.render))) : Uses name methods.render := by
  obtain ⟨line, member, uses⟩ := use
  exact (hasLine_of_toNative member).uses uses

private theorem uses_of_ofNative (use : LinesUse name (ofNativeLines methods.receiver
      methods.external (methods.ofNative.map FieldCode.render))) : Uses name methods.render := by
  obtain ⟨line, member, uses⟩ := use
  exact (hasLine_of_ofNative member).uses uses

/-- The names of the packages that every pair of conversion methods uses. -/
def usedNames : List String :=
  ["attr", "diag", "context"]

/-- The signatures and the state of the value account for all of them. -/
theorem uses_render (member : name ∈ usedNames) : Uses name methods.render := by
  simp only [usedNames, List.mem_cons, List.not_mem_nil, or_false] at member
  rcases member with rfl | rfl | rfl
  · exact uses_of_ofNative ofNativeLines_uses_attr
  · exact uses_of_toNative toNativeLines_uses_diag
  · exact uses_of_toNative toNativeLines_uses_context

/-- A pair uses the framework's types as soon as it converts a field without methods of its own. -/
theorem uses_types {field : ConvertedField} (member : field ∈ methods.fields)
    (internal : field.ofNative.isExternal = false) : Uses "types" methods.render := by
  refine uses_of_ofNative (@ofNativeLines_uses_types _ _ _ _ field.name internal ?_)
  exact List.mem_map_of_mem (List.mem_map_of_mem member)

end ConversionMethods

end Conversion

namespace Schema

/-! ## The schema function -/

section Declarations

variable {name : String}

theorem uses_entry {value : String} (uses : Uses name value) (field : String) :
    Uses name (entry field value) :=
  (uses.behind _).append _

private theorem uses_schemaLiteral {entries : String} (uses : Uses name entries) (type : String) :
    Uses name (schemaLiteral type entries) :=
  ((uses.behind _).append _).append _

theorem uses_declaration {entries : String} (uses : Uses name entries)
    (key type : String) : Uses name (declaration key type entries) :=
  ((uses_schemaLiteral uses type).behind _).append _

private theorem uses_childrenEntry {declarations : List String} {text : String}
    (uses : Uses name text) (member : text ∈ declarations) (field type : String) :
    Uses name (childrenEntry field type declarations) := by
  unfold childrenEntry
  split_ifs with empty
  · rw [List.isEmpty_iff.mp empty] at member
    exact absurd member List.not_mem_nil
  · exact uses_entry (uses_composite_entry uses member _) _

theorem Attribute.declarations_eq (attributes : List (String × Attribute)) :
    Attribute.declarations attributes = attributes.map fun (name, node) => node.declaration name := by
  induction attributes with
  | nil => rfl
  | cons entry rest ih => rw [declarations, ih, List.map_cons]

theorem Block.declarations_eq (blocks : List (String × Block)) :
    Block.declarations blocks = blocks.map fun (name, node) => node.declaration name := by
  induction blocks with
  | nil => rfl
  | cons entry rest ih => rw [declarations, ih, List.map_cons]

private theorem uses_attributesEntry {attributes : Attributes} {entry : String × Attribute}
    (listed : entry ∈ attributes) (uses : Uses name (entry.2.declaration entry.1)) :
    Uses name (Attributes.entry attributes) := by
  refine uses_childrenEntry uses ?_ _ _
  rw [Attribute.declarations_eq]
  exact List.mem_map.mpr ⟨entry, listed, rfl⟩

private theorem uses_blocksEntry {blocks : Blocks} {entry : String × Block}
    (listed : entry ∈ blocks) (uses : Uses name (entry.2.declaration entry.1)) :
    Uses name (Blocks.entry blocks) := by
  refine uses_childrenEntry uses ?_ _ _
  rw [Block.declarations_eq]
  exact List.mem_map.mpr ⟨entry, listed, rfl⟩

/-- The entries of attributes and blocks use what the declaration of one of them uses. -/
private theorem uses_entries_of_named {attributes : Attributes} {blocks : Blocks}
    {entry : String × Node} (member : entry ∈ namedNodes attributes blocks)
    (uses : Uses name (entry.2.declaration entry.1)) :
    Uses name (Attributes.entry attributes) ∨ Uses name (Blocks.entry blocks) := by
  obtain ⟨entry, listed, rfl⟩ | ⟨entry, listed, rfl⟩ := mem_namedNodes.mp member
  · exact .inl (uses_attributesEntry listed uses)
  · exact .inr (uses_blocksEntry listed uses)

private theorem uses_objectEntry {children : String} (uses : Uses name children)
    (object : ObjectFacets) (key type : String) : Uses name (object.entry key type children) :=
  uses_entry (uses_schemaLiteral (((uses.append _).append _).append _) _) _

/-- The declaration of a node uses what the declaration of a child uses. -/
private theorem uses_declaration_of_child (key : String) (node : Node) {child : String × Node}
    (isChild : child ∈ node.children) (uses : Uses name (child.2.declaration child.1)) :
    Uses name (node.declaration key) := by
  have inside := uses_entries_of_named isChild uses
  cases node with
  | attr node =>
    have inAttributes := inside.resolve_right not_uses_empty
    cases node with
    | primitive => exact absurd isChild List.not_mem_nil
    | collection => exact absurd isChild List.not_mem_nil
    | object => exact absurd isChild List.not_mem_nil
    | nested kind facets item attributes default =>
      exact uses_declaration ((uses_objectEntry inAttributes item key _).behind _) key _
    | singleNested facets attributes external default =>
      exact uses_declaration (inAttributes.behind _) key _
  | block node =>
    cases node with
    | nested kind facets item attributes blocks =>
      have both : Uses name (Attributes.entry attributes ++ Blocks.entry blocks) :=
        inside.elim (fun above => above.append _) (fun below => below.behind _)
      exact uses_declaration ((uses_objectEntry both item key _).behind _) key _
    | singleNested facets attributes blocks external =>
      rcases inside with above | below
      · exact uses_declaration ((above.behind _).append _) key _
      · exact uses_declaration (below.behind _) key _

variable {schema : ResourceSchema}

private theorem uses_function_of_entries {key : String} (uses : Uses name schema.entries) :
    Uses name (schema.function key) :=
  (((uses_schemaLiteral uses _).behind _).append _).append _

/-- What the declaration of a node at any depth uses, the schema function uses. -/
theorem ResourceSchema.uses_function (key : String) :
    ∀ entry ∈ schema.nodes, Uses name (entry.2.declaration entry.1) →
      Uses name (schema.function key) := by
  refine forall_nodes
    (motive := fun own node => Uses name (node.declaration own) → Uses name (schema.function key))
    (fun entry top uses => ?_) fun own node used child isChild uses => ?_
  · refine uses_function_of_entries ((((?_ : Uses name _).append _).append _).append _)
    exact (uses_entries_of_named top uses).elim (fun above => above.append _)
      (fun below => below.behind _)
  · exact used (uses_declaration_of_child own node isChild uses)

/-- The names of the packages that every schema function uses. -/
def ResourceSchema.usedNames : List String :=
  ["context", "schema"]

/-- The signature names the context and the schema package, whatever is declared. -/
theorem ResourceSchema.uses_signature (key : String) (member : name ∈ usedNames) :
    Uses name (schema.function key) := by
  have signature : Uses name "ResourceSchema(ctx context.Context) schema.Schema " := by
    simp only [usedNames, List.mem_cons, List.not_mem_nil, or_false] at member
    rcases member with rfl | rfl
    · exact uses_of_space (by decide)
    · exact uses_of_space (by decide)
  exact (((((signature.behind _).append _).append _).append _).append _).append _

end Declarations

end Schema

end ProviderCodegen
