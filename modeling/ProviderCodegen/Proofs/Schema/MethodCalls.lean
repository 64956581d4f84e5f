import ProviderCodegen.Proofs.Schema.Directions
import ProviderCodegen.Proofs.UsedPackages

/-! # Calls between conversion methods

A field whose object has an external type is converted by calls of the methods of its value type. All
these methods are generated: whenever the conversions of an object call methods for a field, the pair
of these methods is one of the schema, for the type that the field has.
-/

namespace ProviderCodegen

open Conversion (ConversionMethods ConvertedField Direction Plan)
open Schema (Unsupported)
open Source (ExternalName HasLine emptyComposite isLocalType mem_block mem_paragraphs openBrace
  signature_mem_function)
open Spec (ExternalType)

namespace Conversion

/-! ## Lines of conversion methods -/

variable {receiver text : String} {external : ExternalType} {fields : List FieldText}

/-- The statements for a field are lines of the method that makes the native form. -/
theorem preamble_mem_toNativeLines {field : FieldText} (member : field ∈ fields)
    (inPreamble : text ∈ field.preamble) : .code 1 text ∈ toNativeLines receiver external fields := by
  refine mem_block (mem_paragraphs (List.mem_singleton_self (Source.line text)) ?_) _
  refine List.mem_append_left _ (List.mem_append_left _ (List.mem_append_left _ ?_))
  refine List.mem_append_right _ (List.mem_map.mpr ⟨text, ?_, rfl⟩)
  exact List.mem_flatMap.mpr ⟨field, member, inPreamble⟩

namespace ConversionMethods

variable {methods : ConversionMethods}

/-- What the names of both methods for an external type end with. -/
def suffix (external : ExternalType) : String :=
  (ExternalName.ofType external.type).pascal

/-- Whether a pair of methods calls, for a field, the methods of a type for an external type: one on
the field itself, the other on an empty value of the type. -/
structure Calls (methods : ConversionMethods) (field : String) (external : ExternalType)
    (type : String) : Prop where
  toNative : HasLine
    (.code 1 (nativeVariable field ++ ", d := " ++
      (valueField field ++ "." ++ ("To" ++ suffix external) ++ "(ctx)")))
    methods.render
  ofNative : HasLine
    (.code 1 (valueVariable field ++ ", d := " ++
      (emptyComposite type ++ "." ++ ("From" ++ suffix external) ++ "(ctx, " ++ nativeField field ++
        ")")))
    methods.render

/-- Whether a pair of methods is that of a type for an external type. -/
structure Declares (methods : ConversionMethods) (external : ExternalType) (type : String) :
    Prop where
  toNative : HasLine
    (.code 0 ("func " ++ ("(v " ++ type ++ ") To" ++ suffix external ++
      "(ctx context.Context) (" ++ external.type ++ ", diag.Diagnostics)") ++ " " ++ openBrace))
    methods.render
  ofNative : HasLine
    (.code 0 ("func " ++ ("(v " ++ type ++ ") From" ++ suffix external ++
      "(ctx context.Context, apiObject " ++ external.type ++ ") (" ++ type ++
      ", diag.Diagnostics)") ++ " " ++ openBrace))
    methods.render

/-- Every pair is that of its receiver. -/
theorem declares (methods : ConversionMethods) :
    methods.Declares methods.external methods.receiver := by
  constructor
  · exact hasLine_of_toNative (signature_mem_function _ _)
  · exact hasLine_of_ofNative (signature_mem_function _ _)

private theorem render_define (result value : String) :
    (Statement.define result [value]).render = result ++ ", d := " ++ value := by
  have joined : Expression.render [.text value] = value := by
    rw [Expression.render, List.map_singleton, String.join_cons, String.join_nil,
      String.append_empty, Piece.render]
  exact congrArg (result ++ ", d := " ++ ·) joined

/-- A field with methods of its own is converted by calling them. -/
theorem calls_of_external {field : ConvertedField} {external : ExternalType} {type : String}
    (member : field ∈ methods.fields) (toNative : field.toNative = .external external type)
    (ofNative : field.ofNative = .external external type) :
    methods.Calls field.name external type := by
  constructor
  · have listed := List.mem_map_of_mem (f := FieldCode.render)
      (List.mem_map_of_mem (f := fun field : ConvertedField =>
        field.toNative.toNative field.name methods.target) member)
    refine hasLine_of_toNative (preamble_mem_toNativeLines listed ?_)
    rw [toNative]
    have call := render_define (nativeVariable field.name)
      (valueField field.name ++ "." ++ ("To" ++ suffix external) ++ "(ctx)")
    exact List.mem_cons.mpr (.inl call.symm)
  · have listed := List.mem_map_of_mem (f := FieldCode.render)
      (List.mem_map_of_mem (f := fun field : ConvertedField =>
        field.ofNative.ofNative field.name) member)
    refine hasLine_of_ofNative (preamble_mem_ofNativeLines listed ?_)
    rw [ofNative]
    have call := render_define (valueVariable field.name)
      (emptyComposite type ++ "." ++ ("From" ++ suffix external) ++ "(ctx, " ++
        nativeField field.name ++ ")")
    exact List.mem_cons.mpr (.inl call.symm)

end ConversionMethods

end Conversion

namespace Schema

/-! ## Fields with methods of their own -/

variable {node : Node} {direction : Direction} {name type : String} {external : ExternalType}

/-- The nodes that are converted by methods of their own are the objects of typed fields with an
external type and a value type of the generated package, which is the type that they have as fields.
-/
theorem Node.plan_eq_external_iff :
    node.plan direction name = .ok (.external external type) ↔
      node.isTypedObject = true ∧ node.externalType = some external ∧ isLocalType type = true ∧
        type = node.valueType name := by
  have otherwise (untyped : node.isTypedObject = false) :
      ¬ (node.isTypedObject = true ∧ node.externalType = some external ∧
        isLocalType type = true ∧ type = node.valueType name) := by
    rintro ⟨typed, -⟩
    exact Bool.false_ne_true (untyped.symm.trans typed)
  cases node with
  | block node =>
    refine iff_of_false (fun given => ?_) (otherwise rfl)
    cases node <;> cases given
  | attr node =>
    cases node with
    | primitive kind facets default =>
      refine iff_of_false (fun given => ?_) (otherwise rfl)
      obtain ⟨_, -, result⟩ := bind_eq_ok.mp given
      cases result
    | collection kind facets element default =>
      refine iff_of_false (fun given => ?_) (otherwise rfl)
      obtain ⟨_, -, rest⟩ := bind_eq_ok.mp given
      obtain ⟨_, -, result⟩ := bind_eq_ok.mp rest
      cases result
    | nested kind facets item attributes default =>
      refine iff_of_false (fun given => ?_) (otherwise rfl)
      cases given
    | singleNested facets attributes own default =>
      refine iff_of_false (fun given => ?_) (otherwise rfl)
      cases given
    | object facets fields own default =>
      cases own with
      | none =>
        refine iff_of_false (fun given => ?_) (fun ⟨_, absent, _⟩ => nomatch absent)
        obtain ⟨_, -, rest⟩ := bind_eq_ok.mp given
        obtain ⟨_, -, result⟩ := bind_eq_ok.mp rest
        cases result
      | some own =>
        simp only [plan, Attribute.plan, fixedObjectPlan]
        constructor
        · intro given
          split_ifs at given with isLocal
          cases given
          exact ⟨rfl, rfl, isLocal, rfl⟩
        · rintro ⟨-, same, isLocal, rfl⟩
          cases same
          exact if_pos isLocal

/-- The value type of an object of typed fields is the type that it has as a field. -/
private theorem Node.receiver_eq (typed : node.isTypedObject = true) :
    node.receiver name = node.valueType name := by
  obtain ⟨facets, fields, external, default, rfl⟩ := Node.eq_object_of_typed typed
  rfl

/-- A child gives a field of the value type. -/
private theorem Node.valueField_mem {child : String × Node} (isChild : child ∈ node.children) :
    child.2.valueField child.1 ∈ node.valueFields := by
  have listed : node.valueFields = node.children.map fun entry => entry.2.valueField entry.1 := by
    cases node with
    | block node => rfl
    | attr node =>
      cases node with
      | object => cases isChild
      | _ => rfl
  rw [listed]
  exact List.mem_map_of_mem isChild

/-- A child with a plan in both directions is a field that converts. -/
private theorem Node.mem_converted {child : String × Node} {plan : Plan}
    (isChild : child ∈ node.children)
    (planned : ∀ direction, child.2.plan direction child.1 = .ok plan) :
    { name := child.1, toNative := plan, ofNative := plan } ∈ node.converted := by
  rw [Node.converted_eq (untyped_of_child isChild)]
  refine List.mem_filterMap.mpr ⟨child, isChild, ?_⟩
  simp only [ConvertedField.ofPlans?, planned]

/-- Typed fields have no methods of their own. -/
theorem Fields.isExternal_of_converted {fields : Fields} {field : ConvertedField}
    (member : field ∈ Fields.converted fields) :
    field.toNative.isExternal = false ∧ field.ofNative.isExternal = false := by
  obtain ⟨⟨name, type⟩, -, converts⟩ := List.mem_filterMap.mp member
  obtain ⟨-, first, second⟩ := ConvertedField.ofPlans?_eq_some_iff.mp converts
  obtain ⟨toNative, -, first⟩ := bind_eq_ok.mp first
  obtain ⟨ofNative, -, second⟩ := bind_eq_ok.mp second
  rw [← Except.ok.inj first, ← Except.ok.inj second]
  exact ⟨rfl, rfl⟩

/-- A field with methods of its own is a child with these methods. -/
private theorem Node.exists_child_of_converted {field : ConvertedField}
    (member : field ∈ node.converted)
    (given : field.toNative = .external external type ∨ field.ofNative = .external external type) :
    ∃ child ∈ node.children, child.1 = field.name ∧
      ∀ direction, child.2.plan direction child.1 = .ok (.external external type) := by
  have untyped : node.isTypedObject = false := by
    refine Bool.eq_false_iff.mpr fun typed => ?_
    obtain ⟨facets, fields, own, default, rfl⟩ := eq_object_of_typed typed
    obtain ⟨toNative, ofNative⟩ := Fields.isExternal_of_converted member
    rcases given with given | given
    · rw [given] at toNative
      cases toNative
    · rw [given] at ofNative
      cases ofNative
  rw [converted_eq untyped] at member
  obtain ⟨child, isChild, converts⟩ := List.mem_filterMap.mp member
  obtain ⟨named, first, second⟩ := ConvertedField.ofPlans?_eq_some_iff.mp converts
  refine ⟨child, isChild, named.symm, fun direction => ?_⟩
  rcases given with given | given
  · rw [given] at first
    exact plan_eq_external_iff.mpr (plan_eq_external_iff.mp first)
  · rw [given] at second
    exact plan_eq_external_iff.mpr (plan_eq_external_iff.mp second)

/-- The methods of a field are made where the field's object is, inside an object whose own methods
are made. -/
private theorem Place.methods?_child {place : Place} {pair : ConversionMethods}
    {child : String × Node} (made : place.methods? = some pair)
    (isChild : child ∈ place.node.children)
    (planned : child.2.plan direction child.1 = .ok (.external external type)) :
    Place.methods? ⟨place.around ++ [place.entry], child.1, child.2⟩ =
      some { receiver := type, external, fields := child.2.converted } := by
  obtain ⟨typed, given, isLocal, rfl⟩ := Node.plan_eq_external_iff.mp planned
  have makes := Place.methods?_eq_some_iff.mp made
  have untyped := Node.untyped_of_child isChild
  have single : place.node.isSingleOrSet = true :=
    makes.kind.resolve_right fun typed => Bool.false_ne_true (untyped.symm.trans typed)
  refine Place.methods?_eq_some_iff.mpr
    { kind := .inr typed
      external := given
      isLocal := ?_
      around := fun above member => ?_
      receiver := (Node.receiver_eq typed).symm
      fields := rfl }
  · simpa only [isLocalType, Bool.not_eq_true', List.contains_eq_mem, decide_eq_false_iff_not]
      using isLocal
  · rcases List.mem_append.mp member with outside | here
    · exact makes.around above outside
    · rw [List.mem_singleton.mp here]
      exact ⟨single, Option.isSome_of_eq_some makes.external⟩

/-- No conversion calls a method that is not generated. Every pair of methods is made for a place,
and has methods of an external type for a field only if the field is a child of the node there that
is planned so. For every such child, in whichever direction it is planned, the pair calls both
methods of the child's value type; this is the type of the field of the child in the value type
around it; and the pair of these methods, made for the child at its own place, is one of the schema,
and declares both methods for that type and the same external type. -/
theorem ResourceSchema.declares_called_methods (schema : ResourceSchema) :
    (∀ pair ∈ schema.methods, ∃ place ∈ schema.places, place.methods? = some pair) ∧
      ∀ place ∈ schema.places, ∀ pair, place.methods? = some pair →
        (∀ field ∈ pair.fields, ∀ external type,
          field.toNative = .external external type ∨ field.ofNative = .external external type →
            ∃ child ∈ place.node.children, child.1 = field.name ∧
              ∀ direction, child.2.plan direction child.1 = .ok (.external external type)) ∧
        ∀ child ∈ place.node.children, ∀ direction external type,
          child.2.plan direction child.1 = .ok (.external external type) →
            pair.Calls child.1 external type ∧
              (child.2.valueField child.1 ∈ place.node.valueFields ∧
                type = (child.2.valueField child.1).valueType) ∧
              ∃ called ∈ schema.methods,
                Place.methods? ⟨place.around ++ [place.entry], child.1, child.2⟩ = some called ∧
                  called.receiver = type ∧ called.external = external ∧
                  called.Declares external type := by
  refine ⟨fun _ => exists_place_of_methods, fun place member pair made => ⟨?_, ?_⟩⟩
  · intro field converts external type given
    have makes := Place.methods?_eq_some_iff.mp made
    exact Node.exists_child_of_converted (makes.fields ▸ converts) given
  · intro child isChild direction external type planned
    have makes := Place.methods?_eq_some_iff.mp made
    have bothPlanned (other : Direction) :
        child.2.plan other child.1 = .ok (.external external type) :=
      Node.plan_eq_external_iff.mpr (Node.plan_eq_external_iff.mp planned)
    have field := Node.mem_converted isChild bothPlanned
    rw [← makes.fields] at field
    refine ⟨ConversionMethods.calls_of_external field rfl rfl, ⟨?_, ?_⟩, ?_⟩
    · exact Node.valueField_mem isChild
    · obtain ⟨-, -, -, same⟩ := Node.plan_eq_external_iff.mp planned
      exact same
    · have calledMade := Place.methods?_child made isChild planned
      have listed := List.mem_filterMap.mpr ⟨_, mem_places_of_child member isChild, calledMade⟩
      rw [← methods_eq] at listed
      exact ⟨_, listed, calledMade, rfl, rfl, ConversionMethods.declares _⟩

/-- The single object of `portsSchema` converts the object inside it by methods of its own. -/
theorem portsSchema_calls_port :
    ∃ pair ∈ portsSchema.methods, pair.receiver = "TargetValue" ∧
      pair.Calls "port" { package := none, type := "sdk.Port" } "PortValue" := by
  have member : ⟨[("rules", _)], "target", _⟩ ∈ portsSchema.places :=
    .tail _ (.tail _ (.tail _ (.head _)))
  obtain ⟨calls, -, -⟩ := (ResourceSchema.declares_called_methods portsSchema).2 _ member _ rfl
    |>.2 _ (.head _) .toNative _ _ rfl
  refine ⟨_, ?_, rfl, calls⟩
  rw [ResourceSchema.methods_eq]
  exact List.mem_filterMap.mpr ⟨_, member, rfl⟩

end Schema

end ProviderCodegen
