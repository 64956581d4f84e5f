import ProviderCodegen.Proofs.Schema.DeclarationLines
import ProviderCodegen.Proofs.Schema.FieldsByName
import ProviderCodegen.Proofs.Schema.ObjectPlans

/-! # Objects as they are declared and converted

An object of typed fields is declared with a literal of its types, made from a value with the same
literal and one of values, and taken apart with a statement for each field. The declaration is
written from the typed fields, the conversions from their plan. If the fields have different names,
all three are written from one list of parts, in its order (`WrittenFrom`).
-/

namespace ProviderCodegen

open Schema (ElementType attrTypesLiteral)
open Source (closeBrace composite inQuotes openBrace)
open Text (pascalCase)

namespace Conversion

/-! ## Texts of a field -/

/-- The value that is made for a field of the object `field`. -/
def Part.value (field : String) : Part → String
  | (name, .primitive kind) =>
      "types." ++ kind.ofNative ++ "(" ++ nativeField field ++ "." ++ pascalCase name ++ ")"
  | (name, .collection ..) => partVariable field name

def Part.preparation (field : String) : Part → List String
  | (_, .primitive _) => []
  | (name, .collection kind element _) =>
      [partVariable field name ++ ", d := types." ++ kind.name ++ "ValueFrom(ctx, types." ++
        element.name ++ "Type, " ++ nativeField field ++ "." ++ pascalCase name ++ ")",
       "diags.Append(d...)"]

/-- The statement that sets `destination` to the matched value of a field. -/
def Part.assignment (destination : String) : Part → String
  | (_, .primitive kind) => destination ++ " = val." ++ kind.toNative ++ "()"
  | (_, .collection ..) => "diags.Append(val.ElementsAs(ctx, &" ++ destination ++ ", false)...)"

/-- The statement that takes a field of the object `field` to the native form held by `target`, if
its value is of the field's own type. -/
def Part.assertion (field target : String) (part : Part) : String :=
  "if val, ok := " ++ valueField field ++ ".Attributes()[" ++ inQuotes part.1 ++ "].(" ++
    part.2.asElement.valueType ++ "); ok " ++ openBrace ++ "\n" ++
    part.assignment (target ++ "." ++ pascalCase field ++ "." ++ pascalCase part.1) ++ "\n" ++
    closeBrace

def typesLiteral (parts : List Part) : String :=
  attrTypesLiteral (parts.map fun part => (part.1, part.2.asElement.expression))

def valuesLiteral (field : String) (parts : List Part) : String :=
  "map[string]attr.Value" ++ openBrace ++ "\n" ++
    "\n".intercalate (parts.map fun part => inQuotes part.1 ++ ": " ++ part.value field ++ ",") ++
    "\n" ++ closeBrace

/-! ## Texts of expressions and statements -/

namespace Statement

theorem render_declare (name type : String) :
    (declare name type).render = "var " ++ name ++ " " ++ type := rfl

theorem render_define (name : String) (value : Expression) :
    (define name value).render = name ++ ", d := " ++ Expression.render value := rfl

theorem render_readElements (source : String) (destination : Expression) :
    (readElements source destination).render =
      "diags.Append(" ++ source ++ ".ElementsAs(ctx, &" ++ Expression.render destination ++
        ", false)...)" := rfl

theorem render_store (destination function : String) :
    (store destination function).render = destination ++ " = val." ++ function ++ "()" := rfl

theorem render_whenTyped (source type : String) (body : Statement) :
    (whenTyped source type body).render =
      "if val, ok := " ++ source ++ ".(" ++ type ++ "); ok " ++ openBrace ++ "\n" ++
        body.render ++ "\n" ++ closeBrace := rfl

end Statement

theorem render_append (first second : Expression) :
    Expression.render (first ++ second) = Expression.render first ++ Expression.render second := by
  rw [Expression.render, List.map_append, String.join_append]
  rfl

theorem render_singleton (piece : Piece) : Expression.render [piece] = piece.render := by
  rw [Expression.render, List.map_singleton, String.join_cons, String.join_nil, String.append_empty]

theorem render_joinLines (entries : List Expression) :
    Expression.render (joinLines entries) = "\n".intercalate (entries.map Expression.render) := by
  induction entries with
  | nil => rfl
  | cons first rest ih =>
    cases rest with
    | nil => rw [joinLines, List.map_singleton, String.intercalate_singleton]
    | cons second rest =>
      have split : joinLines (first :: second :: rest) =
          first ++ [.text "\n"] ++ joinLines (second :: rest) := rfl
      rw [split, render_append, render_append, render_singleton, Piece.render, ih]
      exact String.intercalate_cons_cons.symm

/-! ## What plans are rendered as -/

private theorem render_partEntry (field : String) (part : Part) :
    Expression.render (partEntry field (part.asField .ofNative)) =
      inQuotes part.1 ++ ": " ++ part.value field ++ "," := by
  obtain ⟨name, type⟩ := part
  cases type with
  | primitive kind =>
    refine (render_singleton _).trans ?_
    simp only [Part.value, String.append_assoc]
    rfl
  | collection kind element converts =>
    change Expression.render
      [inQuotes name ++ ": ", .var (partVariable field name), ","] = _
    simp only [Expression.render, List.map_cons, List.map_nil, Piece.render, String.join_cons,
      String.join_nil, String.append_empty, Part.value, String.append_assoc]

private theorem render_partStatements (field : String) (part : Part) :
    (partStatements field (part.asField .ofNative)).map Statement.render =
      part.preparation field := by
  obtain ⟨name, type⟩ := part
  cases type with
  | primitive kind => rfl
  | collection kind element converts =>
    have statements :
        partStatements field (Part.asField .ofNative (name, .collection kind element converts)) =
          [.define (partVariable field name) (collectionFrom kind
            (ElementType.primitive element none).expression
            (nativeField field ++ "." ++ pascalCase name)), .keepDiagnostics] := rfl
    have call : Expression.render (collectionFrom kind
        (ElementType.primitive element none).expression
        (nativeField field ++ "." ++ pascalCase name)) =
        "types." ++ kind.name ++ "ValueFrom(ctx, types." ++ element.name ++ "Type, " ++
          nativeField field ++ "." ++ pascalCase name ++ ")" := by
      refine (render_singleton _).trans ?_
      simp only [ElementType.expression, String.append_assoc]
      rfl
    rw [statements, List.map_cons, List.map_singleton, Statement.render_define, call,
      Part.preparation]
    simp only [String.append_assoc]
    rfl

private theorem render_fieldToNative (field target : String) (part : Part) :
    (fieldToNative target field (part.asField .toNative)).render = part.assertion field target := by
  obtain ⟨name, type⟩ := part
  have asserted (body : Statement) (assigns : body.render = Part.assignment
      (target ++ "." ++ pascalCase field ++ "." ++ pascalCase name) (name, type)) :
      (Statement.whenTyped (valueField field ++ ".Attributes()[" ++ inQuotes name ++ "]")
        type.asElement.valueType body).render = Part.assertion field target (name, type) := by
    have behind (rest : String) : "]" ++ (".(" ++ rest) = "].(" ++ rest := String.append_assoc.symm
    unfold Part.assertion
    rw [Statement.render_whenTyped, assigns]
    simp only [String.append_assoc, behind]
  cases type with
  | primitive kind => exact asserted (.store _ kind.toNative) (Statement.render_store ..)
  | collection kind element converts =>
    refine asserted (.readElements "val" _) ?_
    rw [Statement.render_readElements, render_singleton]
    rfl

private theorem render_objectValue (field : String) (parts : List Part) :
    Expression.render (objectValue field (parts.map (Part.asField .ofNative))) =
      "types.ObjectValue(" ++ typesLiteral parts ++ ", " ++ valuesLiteral field parts ++ ")" := by
  have entries : ((parts.map (Part.asField .ofNative)).map (partEntry field)).map Expression.render =
      parts.map fun part => inQuotes part.1 ++ ": " ++ part.value field ++ "," := by
    rw [List.map_map, List.map_map]
    refine List.map_congr_left fun part _ => ?_
    exact render_partEntry field part
  have typed : objectValue field (parts.map (Part.asField .ofNative)) =
      [.text ("types.ObjectValue(" ++ typesLiteral parts ++ ", map[string]attr.Value" ++ openBrace ++
        "\n")] ++ joinLines ((parts.map (Part.asField .ofNative)).map (partEntry field)) ++
        [.text ("\n" ++ closeBrace ++ ")")] := by
    unfold objectValue typesLiteral
    rw [List.map_map]
    rfl
  have between (rest : String) :
      ", " ++ ("map[string]attr.Value" ++ rest) = ", map[string]attr.Value" ++ rest :=
    String.append_assoc.symm
  unfold valuesLiteral
  rw [typed, render_append, render_append, render_singleton, render_singleton, render_joinLines,
    entries]
  simp only [Piece.render, String.append_assoc, between]

/-- The preamble reads the collections one after the other and then puts the object together. -/
theorem render_ofNative_object (field : String) (parts : List Part) :
    ((Plan.object (parts.map (Part.asField .ofNative))).ofNative field).render =
      { name := pascalCase field
        preamble := parts.flatMap (Part.preparation field) ++
          [valueVariable field ++ ", d := types.ObjectValue(" ++ typesLiteral parts ++ ", " ++
             valuesLiteral field parts ++ ")",
           "diags.Append(d...)"]
        value := some (valueVariable field) } := by
  have prepared : ((parts.map (Part.asField .ofNative)).flatMap (partStatements field)).map
      Statement.render = parts.flatMap (Part.preparation field) := by
    rw [List.flatMap_map, List.map_flatMap]
    refine List.flatMap_congr fun part _ => ?_
    exact render_partStatements field part
  have made : (Statement.define (valueVariable field)
      (objectValue field (parts.map (Part.asField .ofNative)))).render =
      valueVariable field ++ ", d := types.ObjectValue(" ++ typesLiteral parts ++ ", " ++
        valuesLiteral field parts ++ ")" := by
    rw [Statement.render_define, render_objectValue]
    simp only [String.append_assoc]
    rfl
  simp only [Plan.ofNative, FieldCode.render, List.map_append, prepared, List.map_cons, List.map_nil,
    made, Option.map_some, render_singleton]
  rfl

/-- Fields are asserted one by one behind the literal, so the literal has no entry for the
object. -/
theorem render_toNative_object (field target : String) (parts : List Part) :
    ((Plan.object (parts.map (Part.asField .toNative))).toNative field target).render =
      { name := pascalCase field, post := parts.map (Part.assertion field target) } := by
  have asserted : ((parts.map (Part.asField .toNative)).map (fieldToNative target field)).map
      Statement.render = parts.map (Part.assertion field target) := by
    rw [List.map_map, List.map_map]
    refine List.map_congr_left fun part _ => ?_
    exact render_fieldToNative field target part
  exact congrArg (FieldText.mk (pascalCase field) [] none) asserted

end Conversion

namespace Schema

open Conversion (Part Plan objectPlan_eq_ok_iff render_ofNative_object render_toNative_object
  typesLiteral valueVariable valuesLiteral)

/-- The types of the fields of an object are on the last line of its declaration, and on no other. -/
theorem Attribute.object_declaration (facets : Facets) (fields : Fields)
    (external : Option Spec.ExternalType) (default : Option Default) (name : String) :
    ∃ above : List String, (∀ line ∈ above, ¬ "AttributeTypes:".toList <+: line.toList) ∧
      (Attribute.object facets fields external default).declaration name =
        inQuotes name ++ ": " ++ composite "schema.ObjectAttribute"
          (above ++ ["AttributeTypes: " ++ Fields.literal fields ++ ","]) ++ "," := by
  -- Which fields can be set does not depend on what they are set to.
  have apart : ∀ field ∈ (Facets.settings {} none "Object" ++ [("Default", none)]).map Prod.fst,
      ':' ∉ field.toList ∧ field ≠ "AttributeTypes" := by decide
  obtain ⟨settings, split, apart⟩ : ∃ settings : Settings,
      Node.settings name (.attr (.object facets fields external default)) =
        settings ++ [("AttributeTypes", some (Fields.literal fields))] ∧
      ∀ field ∈ settings.map Prod.fst, ':' ∉ field.toList ∧ field ≠ "AttributeTypes" := by
    refine ⟨facets.settings (fixedObjectType name facets external) "Object" ++
      [("Default", default.map Default.expression)], ?_, apart⟩
    rw [List.append_assoc]
    rfl
  have others : ∀ line ∈ settings.lines, ¬ ("AttributeTypes" ++ ":").toList <+: line.toList :=
    Settings.not_starts_of_mem_lines (by decide) fun setting member =>
      apart setting.1 (List.mem_map_of_mem member)
  have lines : Node.lines name (.attr (.object facets fields external default)) =
      settings.lines ++ ["AttributeTypes: " ++ Fields.literal fields ++ ","] := by
    rw [Node.lines, split, Settings.lines_append]
    rfl
  refine ⟨settings.lines, others, ?_⟩
  rw [← lines]
  exact Node.declaration_eq_lines name (.attr (.object facets fields external default))

/-- Whether the declaration of an object and both its conversions are written from the same parts,
in their order. -/
structure Attribute.WrittenFrom (parts : List Part) (node : Attribute) (toNative ofNative : Plan)
    (name : String) : Prop where
  declaration : ∃ above : List String, (∀ line ∈ above, ¬ "AttributeTypes:".toList <+: line.toList) ∧
    node.declaration name = inQuotes name ++ ": " ++ composite "schema.ObjectAttribute"
      (above ++ ["AttributeTypes: " ++ typesLiteral parts ++ ","]) ++ ","
  ofNative : (ofNative.ofNative name).render =
    { name := pascalCase name
      preamble := parts.flatMap (Part.preparation name) ++
        [valueVariable name ++ ", d := types.ObjectValue(" ++ typesLiteral parts ++ ", " ++
           valuesLiteral name parts ++ ")",
         "diags.Append(d...)"]
      value := some (valueVariable name) }
  toNative : ∀ target, (toNative.toNative name target).render =
    { name := pascalCase name, post := parts.map (Part.assertion name target) }

/-- An object of typed fields with different names that converts has one list of parts, its fields by
name, from which everything is written. The literal of types behind `AttributeTypes` is the one that
the object is made with when it is converted from the native form; the values it is made with have
the same keys in the same order, each bound to what is made from the field of that key, for
collections in statements before; and each field is taken to the native form by one statement, in
the same order, if its value is of the field's own type. Objects convert in both directions or in
none; those with a custom type do not. -/
theorem Attribute.object_writtenFrom {facets : Facets} {fields : Fields} {default : Option Default}
    {subject : String} {plan : Plan} (distinct : (fields.map Prod.fst).Nodup)
    (planned : (Attribute.object facets fields none default).plan .ofNative subject = .ok plan) :
    ∃ (parts : List Part) (opposite : Plan), parts.map Part.asElement = NameMap.sorted fields ∧
      (Attribute.object facets fields none default).plan .toNative subject = .ok opposite ∧
      ∀ name,
        (Attribute.object facets fields none default).WrittenFrom parts opposite plan name := by
  obtain ⟨_, plain, ofFields⟩ := bind_eq_ok.mp planned
  obtain ⟨parts, rfl, rfl⟩ := objectPlan_eq_ok_iff.mp ofFields
  have names : (parts.map Prod.fst).Nodup := by
    rwa [List.map_map] at distinct
  have opposite : (Attribute.object facets (parts.map Part.asElement) none default).plan .toNative
      subject = .ok (.object ((NameMap.ofList parts).map (Part.asField .toNative))) :=
    bind_eq_ok.mpr ⟨_, plain, objectPlan_eq_ok_iff.mpr ⟨parts, rfl, rfl⟩⟩
  have inOrder : (NameMap.sorted parts).map Part.asElement =
      NameMap.sorted (parts.map Part.asElement) := (NameMap.sorted_map ..).symm
  have literal : Fields.literal (parts.map Part.asElement) =
      typesLiteral (NameMap.sorted parts) := by
    rw [Fields.literal, ElementType.expressions_eq, NameMap.sorted_map, ← inOrder, List.map_map]
    rfl
  refine ⟨NameMap.sorted parts, _, inOrder, opposite, fun name => ?_⟩
  rw [NameMap.ofList_eq_sorted names]
  refine ⟨?_, render_ofNative_object name _, fun target => render_toNative_object name target _⟩
  rw [← literal]
  exact object_declaration ..

/-- The fields of an endpoint, not in the order of their names. -/
def endpointFields : Fields :=
  [("ports", .collection .list (.primitive .int64 none) none), ("host", .primitive .string none)]

/-- A field with a text and one with a list, which is read into a variable first. -/
theorem endpoint_writtenFrom :
    (endpointFields.map Prod.fst).Nodup ∧ ∃ plan,
      (Attribute.object {} endpointFields none none).plan .ofNative "endpoint" = .ok plan ∧
      ∃ (parts : List Part) (opposite : Plan),
        parts.map Part.asElement = [("host", .primitive .string none),
          ("ports", .collection .list (.primitive .int64 none) none)] ∧
        (Attribute.object {} endpointFields none none).plan .toNative "endpoint" = .ok opposite ∧
        ∀ name, (Attribute.object {} endpointFields none none).WrittenFrom parts opposite plan
          name := by
  have distinct : (endpointFields.map Prod.fst).Nodup := by decide
  have planned : (Attribute.object {} endpointFields none none).plan .ofNative "endpoint" =
      .ok _ := rfl
  obtain ⟨parts, opposite, inOrder, converts, written⟩ :=
    Attribute.object_writtenFrom distinct planned
  rw [← NameMap.ofList_eq_sorted distinct] at inOrder
  exact ⟨distinct, _, planned, parts, opposite, inOrder, converts, written⟩

end Schema

end ProviderCodegen
