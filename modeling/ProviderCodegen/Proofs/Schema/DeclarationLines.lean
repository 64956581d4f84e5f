import ProviderCodegen.Proofs.Schema.GeneratedTypes
import ProviderCodegen.Proofs.Source.Declared

/-! # The lines of a declaration

A declaration sets fields of a composite literal of the framework, each on a line of its own. Which
fields a node can set, and in which order, depends on its kind only; `Node.settings` lists them with
what they are set to. The custom type is always the first and no other line sets it.
-/

namespace ProviderCodegen.Schema

open Source (composite inQuotes upTo upTo_append)
open Spec (Snippet)

/-- The fields of a literal in their order, each with the value it is set to, if it is set. -/
abbrev Settings := List (String × Option String)

namespace Settings

def line (field value : String) : String :=
  field ++ ": " ++ value ++ ","

def lines (settings : Settings) : List String :=
  settings.filterMap fun (field, value) => value.map (line field)

/-- The lines, each behind a line break. -/
def written (settings : Settings) : String :=
  String.join (settings.lines.map ("\n" ++ ·))

theorem lines_append (first second : Settings) :
    lines (first ++ second) = lines first ++ lines second :=
  List.filterMap_append

theorem written_append (first second : Settings) :
    written (first ++ second) = written first ++ written second := by
  rw [written, lines_append, List.map_append, String.join_append, written, written]

theorem written_singleton (field : String) (value : Option String) :
    written [(field, value)] = optionalEntry field value := by
  cases value with
  | none => rfl
  | some value =>
    have joined : written [(field, some value)] = "\n" ++ line field value := by
      simp [written, lines]
    rw [joined, line, optionalEntry, entry]
    simp only [String.append_assoc]

theorem written_cons (field : String) (value : Option String) (rest : Settings) :
    written ((field, value) :: rest) = optionalEntry field value ++ written rest := by
  rw [← written_singleton]
  exact written_append [(field, value)] rest

theorem written_nil : written [] = "" := rfl

/-- The lines for some fields are no lines for another one. -/
theorem not_starts_of_mem_lines {settings : Settings} {field : String} (noColon : ':' ∉ field.toList)
    (others : ∀ setting ∈ settings, ':' ∉ setting.1.toList ∧ setting.1 ≠ field) :
    ∀ line ∈ settings.lines, ¬ (field ++ ":").toList <+: line.toList := by
  rintro _ member ⟨behind, starts⟩
  obtain ⟨⟨other, value⟩, listed, isLine⟩ := List.mem_filterMap.mp member
  obtain ⟨value, -, rfl⟩ := Option.map_eq_some_iff.mp isLine
  obtain ⟨noColon', differs⟩ := others _ listed
  apply differs
  -- Both are the text up to the first colon of the line.
  have ofLine : upTo ':' (line other value).toList = other.toList := by
    simp only [line, String.toList_append, List.append_assoc]
    exact upTo_append noColon' _
  have ofStart : upTo ':' (line other value).toList = field.toList := by
    rw [← starts, String.toList_append, List.append_assoc]
    exact upTo_append noColon _
  exact String.toList_injective (ofLine.symm.trans ofStart)

end Settings

/-! ## Fields that facets set -/

/-- A flag, if it is set. -/
def flagValue (isSet : Bool) : Option String :=
  if isSet then some "true" else none

/-- A list of pieces of code, if there are any. -/
def snippetsValue (type : String) (snippets : List Snippet) : Option String :=
  if snippets.isEmpty then none else some (composite type (snippets.map (·.code ++ ",")))

/-- A map of declarations, if there are any. -/
def childrenValue (type : String) (declarations : List String) : Option String :=
  if declarations.isEmpty then none
  else some (composite ("map[string]schema." ++ type) declarations)

/-- The fields that facets set, given the custom type and the type that hooks are for. -/
def Facets.settings (facets : Facets) (customType : Option String) (hookType : String) : Settings :=
  [("CustomType", customType),
   ("Computed", flagValue
      (facets.requirement = some .computed ∨ facets.requirement = some .computedOptional)),
   ("Optional", flagValue
      (facets.requirement = some .computedOptional ∨ facets.requirement = some .optional)),
   ("Required", flagValue (facets.requirement = some .required)),
   ("Sensitive", flagValue (facets.sensitive = some true)),
   ("Description", facets.description.map Text.goLiteral),
   ("MarkdownDescription", facets.description.map Text.goLiteral),
   ("DeprecationMessage", facets.deprecationMessage.map Text.goLiteral),
   ("PlanModifiers", snippetsValue ("[]planmodifier." ++ hookType) facets.planModifiers),
   ("Validators", snippetsValue ("[]validator." ++ hookType) facets.validators)]

private theorem optionalEntry_some (field value : String) :
    optionalEntry field (some value) = entry field value := rfl

private theorem optionalEntry_snippetsValue (field type : String) (snippets : List Snippet) :
    optionalEntry field (snippetsValue type snippets) = snippetsEntry field type snippets := by
  unfold snippetsValue snippetsEntry
  split <;> rfl

private theorem optionalEntry_childrenValue (field type : String) (declarations : List String) :
    optionalEntry field (childrenValue type declarations) =
      childrenEntry field type declarations := by
  unfold childrenValue childrenEntry
  split <;> rfl

private theorem requirementEntries_eq (requirement : Option Spec.Requirement) :
    requirementEntries requirement =
      optionalEntry "Computed" (flagValue
        (requirement = some .computed ∨ requirement = some .computedOptional)) ++
      (optionalEntry "Optional" (flagValue
        (requirement = some .computedOptional ∨ requirement = some .optional)) ++
      optionalEntry "Required" (flagValue (requirement = some .required))) := by
  rcases requirement with _ | ⟨⟨⟩⟩ <;> rfl

private theorem sensitiveEntry_eq (sensitive : Option Bool) :
    sensitiveEntry sensitive =
      optionalEntry "Sensitive" (flagValue (sensitive = some true)) := by
  rcases sensitive with _ | ⟨⟨⟩⟩ <;> rfl

/-- The entries of facets are those of a list of settings in a fixed order. -/
theorem Facets.entries_eq_written (facets : Facets) (customType : Option String)
    (hookType : String) :
    facets.entries customType hookType = (facets.settings customType hookType).written := by
  simp only [Facets.entries, Facets.settings, Settings.written_cons, Settings.written_nil,
    requirementEntries_eq, sensitiveEntry_eq, descriptionEntries, textEntry, customTypeEntry,
    planModifiersEntry, validatorsEntry, optionalEntry_snippetsValue, String.append_assoc,
    String.append_empty]

/-! ## Fields that nodes set -/

/-- The literal of the object that a nested attribute or block repeats. -/
def ObjectFacets.literal (object : ObjectFacets) (name type children : String) : String :=
  schemaLiteral type <|
    children ++
    customTypeEntry (some (object.schemaType name)) ++
    planModifiersEntry "Object" object.planModifiers ++
    validatorsEntry "Object" object.validators

namespace Node

/-- What a node has in common with all others. -/
def facets : Node → Facets
  | attr (.primitive _ facets _) => facets
  | attr (.collection _ facets _ _) => facets
  | attr (.nested _ facets _ _ _) => facets
  | attr (.singleNested facets _ _ _) => facets
  | attr (.object facets _ _ _) => facets
  | block (.nested _ facets _ _ _) => facets
  | block (.singleNested facets _ _ _) => facets

/-- The name of the framework type that declares a node. -/
def kindName : Node → String
  | attr node => node.kind.name
  | block node => node.kind.name

/-- The custom type in the declaration of a node, given or generated. -/
def schemaType (name : String) : Node → Option String
  | attr (.singleNested facets _ external _) =>
      some ((ObjectFacets.single facets external).schemaType name)
  | attr (.object facets _ external _) => fixedObjectType name facets external
  | block (.singleNested facets _ _ external) =>
      some ((ObjectFacets.single facets external).schemaType name)
  | node => node.facets.explicitType

/-- The kind of values that the validators and plan modifiers of a node are for. -/
def hookType : Node → String
  | attr (.primitive kind _ _) => kind.name
  | attr (.collection kind _ _ _) => kind.name
  | attr (.nested kind _ _ _ _) => kind.name
  | block (.nested kind _ _ _ _) => kind.collection.name
  | _ => "Object"

/-- The fields that a node sets behind those of its facets. -/
def kindSettings (name : String) : Node → Settings
  | attr (.primitive _ _ default) => [("Default", default.map Default.expression)]
  | attr (.collection _ _ element default) =>
      [("Default", default.map Default.expression), ("ElementType", some element.expression)]
  | attr (.nested _ _ item attributes default) =>
      [("Default", default.map Default.expression),
       ("NestedObject", some (item.literal name "NestedAttributeObject"
          (childrenEntry "Attributes" "Attribute" (Attribute.declarations attributes))))]
  | attr (.singleNested _ attributes _ default) =>
      [("Default", default.map Default.expression),
       ("Attributes", childrenValue "Attribute" (Attribute.declarations attributes))]
  | attr (.object _ fields _ default) =>
      [("Default", default.map Default.expression),
       ("AttributeTypes", some (Fields.literal fields))]
  | block (.nested _ _ item attributes blocks) =>
      [("NestedObject", some (item.literal name "NestedBlockObject"
          (Attributes.entry attributes ++
            childrenEntry "Blocks" "Block" (Block.declarations blocks))))]
  | block (.singleNested _ attributes blocks _) =>
      [("Attributes", childrenValue "Attribute" (Attribute.declarations attributes)),
       ("Blocks", childrenValue "Block" (Block.declarations blocks))]

/-- The fields that the declaration of a node sets, at its own level. -/
def settings (name : String) (node : Node) : Settings :=
  node.facets.settings (node.schemaType name) node.hookType ++ node.kindSettings name

/-- The lines of the declaration of a node, at its own level. -/
def lines (name : String) (node : Node) : List String :=
  (node.settings name).lines

private theorem declaration_eq_written (name : String) (node : Node) :
    node.declaration name =
      Schema.declaration name node.kindName (node.settings name).written := by
  rw [settings, Settings.written_append, ← Facets.entries_eq_written]
  cases node with
  | attr node =>
    cases node <;>
      simp only [declaration, Attribute.declaration, kindName, Attribute.kind, facets, schemaType,
        hookType, kindSettings, Settings.written_cons, Settings.written_nil, defaultEntry,
        optionalEntry_childrenValue, ObjectFacets.entry, ObjectFacets.literal, optionalEntry_some,
        String.append_assoc, String.append_empty]
  | block node =>
    cases node <;>
      simp only [declaration, Block.declaration, kindName, Block.kind, facets, schemaType,
        hookType, kindSettings, Settings.written_cons, Settings.written_nil, Attributes.entry,
        optionalEntry_childrenValue, ObjectFacets.entry, ObjectFacets.literal, optionalEntry_some,
        String.append_assoc, String.append_empty]

/-- A declaration is a literal with the lines of the node. -/
theorem declaration_eq_lines (name : String) (node : Node) :
    node.declaration name =
      inQuotes name ++ ": " ++ composite ("schema." ++ node.kindName) (node.lines name) ++ "," := by
  rw [declaration_eq_written, Schema.declaration, schemaLiteral, composite, lines]
  simp only [Settings.written, String.append_assoc]

/-! ## The custom type -/

/-- The fields that declarations can set beside the custom type. -/
def otherFields : List String :=
  ["Computed", "Optional", "Required", "Sensitive", "Description", "MarkdownDescription",
   "DeprecationMessage", "PlanModifiers", "Validators", "Default", "ElementType", "NestedObject",
   "Attributes", "AttributeTypes", "Blocks"]

/-- The custom type comes first, and no other field is the custom type. -/
theorem settings_eq_cons (name : String) (node : Node) :
    ∃ rest : Settings, node.settings name = ("CustomType", node.schemaType name) :: rest ∧
      ∀ setting ∈ rest, setting.1 ∈ otherFields := by
  refine ⟨_, rfl, ?_⟩
  have named (rest : Settings) (fields : (rest.map Prod.fst) ⊆ otherFields) :
      ∀ setting ∈ rest, setting.1 ∈ otherFields :=
    fun setting member => fields (List.mem_map_of_mem member)
  apply named
  cases node with
  | attr node => cases node <;> exact of_decide_eq_true rfl
  | block node => cases node <;> exact of_decide_eq_true rfl

end Node

end ProviderCodegen.Schema
