import ProviderCodegen.Proofs.Schema.ConvertingPlaces
import ProviderCodegen.Proofs.Schema.DeclarationLines

/-! # Where the types of a node come from

The declaration of a node, its field in the model, its type and its value type are each written by a
choice of their own between a custom type, a generated one and those of the framework. The choices
agree: every node takes all four from one origin.
-/

namespace ProviderCodegen.Schema

open Source (closeBrace composite emptyComposite generatedAttrType generatedCustomType inQuotes
  openBrace valueName)
open Spec (CustomType)

def ElementKind.name : ElementKind → String
  | primitive kind => kind.name
  | collection kind => kind.name
  | object => "Object"

/-- The origin of the types of a node. -/
inductive TypeOrigin
  | custom (type : CustomType)
  /-- The type and value type generated for the node. -/
  | generated
  /-- The types of the framework for a kind. -/
  | framework (kind : ElementKind)

namespace Node

/-- The kind of framework types that fits a node. None does for a single object with nodes inside. -/
def elementKind? : Node → Option ElementKind
  | attr (.primitive kind _ _) => some (.primitive kind)
  | attr (.collection kind _ _ _) => some (.collection kind)
  | attr (.nested kind _ _ _ _) => some (.collection kind)
  | attr (.singleNested _ _ _ _) => none
  | attr (.object _ _ _ _) => some .object
  | block (.nested kind _ _ _ _) => some (.collection kind.collection)
  | block (.singleNested _ _ _ _) => none

/-- The object that a nested node repeats. -/
def item? : Node → Option ObjectFacets
  | attr (.nested _ _ item _ _) => some item
  | block (.nested _ _ item _ _) => some item
  | _ => none

variable {node : Node} {name : String}

/-- Whether a node has a custom type, and that type everywhere. -/
structure TakesCustom (node : Node) (name : String) (custom : CustomType) : Prop where
  given : node.facets.customType = some custom
  declaration : (node.lines name).head? = some ("CustomType: " ++ custom.type ++ ",")
  model : (node.modelField name).valueType = custom.valueType
  valueType : node.valueType name = custom.valueType
  attrType : node.attrType name = custom.type

/-- Whether a node without a custom type is a single object with nodes inside, or an object of typed
fields that converts to an external type, and has the types generated for it everywhere. -/
structure TakesGenerated (node : Node) (name : String) : Prop where
  without : node.facets.customType = none
  ofKind : node.elementKind? = none ∨ node.isTypedObject = true ∧ node.externalType.isSome = true
  declaration : (node.lines name).head? = some ("CustomType: " ++ generatedCustomType name ++ ",")
  model : (node.modelField name).valueType = valueName name
  valueType : node.valueType name = valueName name
  attrType : node.attrType name = generatedAttrType name

/-- Whether a node without a custom type is of a kind of the framework, and no object with an
external type, and has the types of that kind everywhere. The elements of a collection of objects
are of the objects' own custom type or of the generated one. -/
structure TakesFramework (node : Node) (name : String) (kind : ElementKind) : Prop where
  without : node.facets.customType = none
  ofKind : node.elementKind? = some kind
  fixed : node.isTypedObject = true → node.externalType = none
  declaration : ∀ line ∈ node.lines name, ¬ "CustomType:".toList <+: line.toList
  model : (node.modelField name).valueType = "types." ++ kind.name
  valueType : node.valueType name = "basetypes." ++ kind.name ++ "Value"
  attrType : ∃ inside, node.attrType name =
    "basetypes." ++ kind.name ++ "Type" ++ openBrace ++ inside ++ closeBrace
  element : ∀ item, node.item? = some item →
    node.attrType name = composite ("basetypes." ++ kind.name ++ "Type")
      ["ElemType: " ++ (match item.customType with
        | some custom => custom.type
        | none => emptyComposite (valueName name) ++ ".Type(ctx)") ++ ","]

/-- Whether all types of a node are of an origin. -/
def Takes (node : Node) (name : String) : TypeOrigin → Prop
  | .custom type => node.TakesCustom name type
  | .generated => node.TakesGenerated name
  | .framework kind => node.TakesFramework name kind

/-! ## The custom type in the declaration -/

/-- A custom type is on the first line of a declaration. -/
theorem head?_lines {type : String} (given : node.schemaType name = some type) :
    (node.lines name).head? = some ("CustomType: " ++ type ++ ",") := by
  obtain ⟨rest, settings, -⟩ := node.settings_eq_cons name
  rw [lines, settings, given]
  rfl

/-- A declaration without a custom type has no line for one. -/
theorem not_customType_of_mem_lines (without : node.schemaType name = none) :
    ∀ line ∈ node.lines name, ¬ "CustomType:".toList <+: line.toList := by
  obtain ⟨rest, settings, others⟩ := node.settings_eq_cons name
  have apart : ∀ field ∈ otherFields, ':' ∉ field.toList ∧ field ≠ "CustomType" := by decide
  have ofOthers : ∀ line ∈ rest.lines, ¬ ("CustomType" ++ ":").toList <+: line.toList :=
    Settings.not_starts_of_mem_lines (by decide) fun setting member =>
      apart setting.1 (others setting member)
  rw [lines, settings, without]
  exact ofOthers

/-! ## Types without a custom type -/

section Without

variable {facets : Facets}

private theorem attrTypeOr_of_without (without : facets.customType = none) (type : String) :
    facets.attrTypeOr type = type := by
  simp only [Facets.attrTypeOr, without]

private theorem valueTypeOr_of_without (without : facets.customType = none) (type : String) :
    facets.valueTypeOr type = type := by
  simp only [Facets.valueTypeOr, without]

private theorem explicitType_of_without (without : facets.customType = none) :
    facets.explicitType = none := by
  rw [Facets.explicitType, without, Option.map_none]

private theorem resolve_eq_of_without (without : facets.customType = none) (name kindType : String)
    (isGenerated : Bool) :
    (ModelField.resolve name facets.customType isGenerated kindType).valueType =
      if isGenerated then valueName name else kindType := by
  rw [without]
  rfl

end Without

/-! ## Which origin a node takes -/

theorem takesCustom {custom : CustomType} (given : node.facets.customType = some custom) :
    node.TakesCustom name custom := by
  have declared : node.schemaType name = some custom.type := by
    cases node with
    | attr node =>
      cases node <;>
        simp only [facets] at given <;>
        simp only [schemaType, facets, Facets.explicitType, ObjectFacets.schemaType,
          ObjectFacets.single, fixedObjectType, given, Option.map_some]
    | block node =>
      cases node <;>
        simp only [facets] at given <;>
        simp only [schemaType, facets, Facets.explicitType, ObjectFacets.schemaType,
          ObjectFacets.single, given, Option.map_some]
  refine ⟨given, head?_lines declared, ?_, ?_, ?_⟩
  all_goals
    cases node with
    | attr node =>
      cases node <;>
        simp only [facets] at given <;>
        simp only [modelField, Attribute.modelField, ModelField.resolve, valueType,
          Attribute.valueType, Facets.valueTypeOr, attrType, Attribute.attrType,
          Facets.attrTypeOr, given]
    | block node =>
      cases node <;>
        simp only [facets] at given <;>
        simp only [modelField, Block.modelField, ModelField.resolve, valueType,
          Block.valueType, Facets.valueTypeOr, attrType, Block.attrType, Facets.attrTypeOr, given]

/-- The custom type of a single object without a given one is generated. -/
private theorem single_schemaType {facets : Facets} (without : facets.customType = none)
    (external : Option Spec.ExternalType) (name : String) :
    some ((ObjectFacets.single facets external).schemaType name) =
      some (generatedCustomType name) := by
  simp only [ObjectFacets.schemaType, ObjectFacets.single, without]

/-- Objects have a type generated for them, and typed objects only if it stands for an external
one. -/
theorem takesGenerated (without : node.facets.customType = none)
    (ofKind : node.elementKind? = none ∨
      node.isTypedObject = true ∧ node.externalType.isSome = true) :
    node.TakesGenerated name := by
  cases node with
  | attr node =>
    cases node with
    | singleNested facets attributes external default =>
      have own : facets.customType = none := without
      refine ⟨without, ofKind, head?_lines (single_schemaType own external name), ?_,
        valueTypeOr_of_without own _, attrTypeOr_of_without own _⟩
      exact (resolve_eq_of_without own name _ _).trans (ite_self _)
    | object facets fields external default =>
      have own : facets.customType = none := without
      have converts : external.isSome = true := (ofKind.resolve_left nofun).2
      refine ⟨without, ofKind, head?_lines ?_, ?_, ?_, ?_⟩
      · simp only [schemaType, fixedObjectType, own, converts, if_true]
      · exact (resolve_eq_of_without own name _ _).trans (if_pos converts)
      · exact (valueTypeOr_of_without own _).trans (if_pos converts)
      · exact (attrTypeOr_of_without own _).trans (if_pos converts)
    | _ => rcases ofKind with single | ⟨typed, -⟩ <;> contradiction
  | block node =>
    cases node with
    | nested => rcases ofKind with single | ⟨typed, -⟩ <;> contradiction
    | singleNested facets attributes blocks external =>
      have own : facets.customType = none := without
      refine ⟨without, ofKind, head?_lines (single_schemaType own external name), ?_,
        valueTypeOr_of_without own _, attrTypeOr_of_without own _⟩
      exact (resolve_eq_of_without own name _ _).trans (ite_self _)

/-- A literal has its entries between braces. -/
private theorem exists_inside_composite {text type : String} {entries : List String}
    (same : text = composite type entries) :
    ∃ inside, text = type ++ openBrace ++ inside ++ closeBrace :=
  ⟨_, same.trans (congrArg (· ++ closeBrace) (String.append_assoc ..))⟩

/-- What is left are single values, collections and plain objects. -/
theorem takesFramework {kind : ElementKind} (without : node.facets.customType = none)
    (ofKind : node.elementKind? = some kind)
    (fixed : node.isTypedObject = true → node.externalType = none) :
    node.TakesFramework name kind := by
  cases node with
  | attr node =>
    cases node with
    | primitive kind facets default =>
      cases ofKind
      have own : facets.customType = none := without
      have noLine : ∀ line ∈ lines name (.attr (.primitive kind facets default)),
          ¬ "CustomType:".toList <+: line.toList :=
        not_customType_of_mem_lines (explicitType_of_without own)
      refine ⟨without, rfl, fixed, noLine, resolve_eq_of_without own _ _ _,
        valueTypeOr_of_without own _, ⟨"", ?_⟩, nofun⟩
      rw [String.append_empty]
      exact attrTypeOr_of_without own _
    | collection kind facets element default =>
      cases ofKind
      have own : facets.customType = none := without
      exact ⟨without, rfl, fixed, not_customType_of_mem_lines (explicitType_of_without own),
        resolve_eq_of_without own _ _ _, valueTypeOr_of_without own _,
        exists_inside_composite (attrTypeOr_of_without own _), nofun⟩
    | nested kind facets item attributes default =>
      cases ofKind
      have own : facets.customType = none := without
      refine ⟨without, rfl, fixed, not_customType_of_mem_lines (explicitType_of_without own),
        resolve_eq_of_without own _ _ _, valueTypeOr_of_without own _,
        exists_inside_composite (attrTypeOr_of_without own _), ?_⟩
      rintro _ ⟨⟩
      exact attrTypeOr_of_without own _
    | singleNested => cases ofKind
    | object facets fields external default =>
      cases ofKind
      have own : facets.customType = none := without
      have plain : external = none := fixed rfl
      subst plain
      refine ⟨without, rfl, fixed, not_customType_of_mem_lines ?_,
        resolve_eq_of_without own _ _ _, valueTypeOr_of_without own _,
        exists_inside_composite (attrTypeOr_of_without own _), nofun⟩
      simp only [schemaType, fixedObjectType, own]
      rfl
  | block node =>
    cases node with
    | nested kind facets item attributes blocks =>
      cases ofKind
      have own : facets.customType = none := without
      refine ⟨without, rfl, fixed, not_customType_of_mem_lines (explicitType_of_without own),
        resolve_eq_of_without own _ _ _, valueTypeOr_of_without own _,
        exists_inside_composite (attrTypeOr_of_without own _), ?_⟩
      rintro _ ⟨⟩
      exact attrTypeOr_of_without own _
    | singleNested => cases ofKind

/-- The types of a node agree, whatever its kind and under every name. Its declaration is a literal
with the lines of the node; and there is exactly one origin such that the first of these lines, the
field in the model, the value type and the type inside the object around the node are all of that
origin. This is the custom type, if the node has one. Else it is the generated type for a single
object with nodes inside and for an object of typed fields with an external type. Else it is the
framework, with one kind for all types, and then no line is for a custom type. -/
theorem existsUnique_origin (node : Node) (name : String) :
    node.declaration name =
        inQuotes name ++ ": " ++ composite ("schema." ++ node.kindName) (node.lines name) ++ "," ∧
      ∃! origin, node.Takes name origin := by
  refine ⟨node.declaration_eq_lines name, ?_⟩
  cases given : node.facets.customType with
  | some custom =>
    refine ⟨.custom custom, takesCustom given, ?_⟩
    rintro (other | _ | kind) takes
    · exact congrArg TypeOrigin.custom (Option.some.inj (takes.given.symm.trans given))
    · exact nomatch takes.without.symm.trans given
    · exact nomatch takes.without.symm.trans given
  | none =>
    by_cases ofKind : node.elementKind? = none ∨
        node.isTypedObject = true ∧ node.externalType.isSome = true
    · refine ⟨.generated, takesGenerated given ofKind, ?_⟩
      rintro (other | _ | kind) takes
      · exact nomatch takes.given.symm.trans given
      · rfl
      · exfalso
        rcases ofKind with single | ⟨typed, external⟩
        · exact nomatch takes.ofKind.symm.trans single
        · rw [takes.fixed typed] at external
          cases external
    · obtain ⟨hasKind, fixed⟩ := not_or.mp ofKind
      obtain ⟨kind, hasKind⟩ := Option.ne_none_iff_exists'.mp hasKind
      have plain (typed : node.isTypedObject = true) : node.externalType = none :=
        Option.not_isSome_iff_eq_none.mp fun external => fixed ⟨typed, external⟩
      refine ⟨.framework kind, takesFramework given hasKind plain, ?_⟩
      rintro (other | _ | other) takes
      · exact nomatch takes.given.symm.trans given
      · exact absurd takes.ofKind ofKind
      · exact congrArg TypeOrigin.framework (Option.some.inj (takes.ofKind.symm.trans hasKind))

end Node

end ProviderCodegen.Schema
