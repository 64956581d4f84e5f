import ProviderCodegen.Proofs.NameMap
import ProviderCodegen.Proofs.Schema.ConvertingPlaces

/-! # Both directions of a conversion

The plans for the two directions of a conversion are computed apart from each other. They fail alike
or mirror each other (`Alike`), which passes from the steps of a computation to the whole of it. So a
pair of conversion methods converts the same fields in both directions.
-/

namespace ProviderCodegen

open Conversion (ConversionMethods ConvertedField Direction FieldCode FieldPlan Plan ValuePlan
  collectionPlan elementPlan fieldPlan objectPlan)
open Schema (ElementType Fields Unsupported)

namespace Conversion

/-! ## Plans that mirror each other -/

/-- The conversions of a single value in both directions: the two functions of one primitive, or the
same collection. -/
inductive ValuePlan.Mirrors : ValuePlan → ValuePlan → Prop
  | function (kind : Schema.PrimitiveKind) :
      Mirrors (.function kind.toNative) (.function kind.ofNative)
  | collection (kind : Schema.CollectionKind) (elementType nativeType : String) :
      Mirrors (.collection kind elementType nativeType) (.collection kind elementType nativeType)

/-- The conversions of a field of an object in both directions. -/
structure FieldPlan.Mirrors (toNative ofNative : FieldPlan) : Prop where
  attrType : toNative.attrType = ofNative.attrType
  valueType : toNative.valueType = ofNative.valueType
  plan : toNative.plan.Mirrors ofNative.plan

/-- The conversions of a node in both directions. -/
inductive Plan.Mirrors : Plan → Plan → Prop
  | value {toNative ofNative : ValuePlan} (plan : toNative.Mirrors ofNative) :
      Mirrors (.value toNative) (.value ofNative)
  | external (external : Spec.ExternalType) (valueType : String) :
      Mirrors (.external external valueType) (.external external valueType)
  | object {toNative ofNative : NameMap FieldPlan}
      (fields : NameMap.Pointwise FieldPlan.Mirrors toNative ofNative) :
      Mirrors (.object toNative) (.object ofNative)

/-- Whether two computations fail with the same error, or both succeed with related results. -/
inductive Alike {α β : Type} (related : α → β → Prop) :
    Except Unsupported α → Except Unsupported β → Prop
  | ok {first : α} {second : β} (holds : related first second) : Alike related (.ok first) (.ok second)
  | error (unsupported : Unsupported) : Alike related (.error unsupported) (.error unsupported)

variable {α β γ δ : Type} {related : α → β → Prop} {next : γ → δ → Prop}

/-- The first error decides in both, and otherwise the next steps are compared on related
results. -/
theorem Alike.bind {first : Except Unsupported α} {second : Except Unsupported β}
    (alike : Alike related first second) {left : α → Except Unsupported γ}
    {right : β → Except Unsupported δ} (step : ∀ a b, related a b → Alike next (left a) (right b)) :
    Alike next (first >>= left) (second >>= right) := by
  cases alike with
  | ok holds => exact step _ _ holds
  | error unsupported => exact .error unsupported

/-- By induction on the items, so that the same item fails first in both. -/
theorem Alike.mapM {step : γ → Except Unsupported α} {other : γ → Except Unsupported β}
    (alike : ∀ item, Alike related (step item) (other item)) (items : List γ) :
    Alike (List.Forall₂ related) (items.mapM step) (items.mapM other) := by
  induction items with
  | nil => exact .ok .nil
  | cons first rest ih =>
    rw [List.mapM_cons, List.mapM_cons]
    refine (alike first).bind fun left right holds => ?_
    refine ih.bind fun lefts rights holdsRest => ?_
    exact .ok (.cons holds holdsRest)

theorem Alike.related_of_ok {first : α} {second : β}
    (alike : Alike related (.ok first) (.ok second)) : related first second := by
  cases alike with
  | ok holds => exact holds

/-- A step that both computations share leaves what follows it to be compared. -/
theorem Alike.bind_self (outcome : Except Unsupported α) {left : α → Except Unsupported γ}
    {right : α → Except Unsupported δ} (step : ∀ result, Alike next (left result) (right result)) :
    Alike next (outcome >>= left) (outcome >>= right) := by
  cases outcome with
  | ok result => exact step result
  | error unsupported => exact .error unsupported

/-! ## Plans for typed values -/

/-- The plan for a collection does not depend on the direction. -/
theorem alike_collectionPlan (kind : Schema.CollectionKind) (element : ElementType)
    (subject : String) :
    Alike ValuePlan.Mirrors (collectionPlan kind element subject)
      (collectionPlan kind element subject) := by
  unfold collectionPlan
  split
  · exact .ok (.collection ..)
  · exact .error _

/-- Which types have a plan does not depend on the direction. -/
theorem alike_elementPlan (type : ElementType) (subject : String) :
    Alike ValuePlan.Mirrors (elementPlan .toNative type subject)
      (elementPlan .ofNative type subject) := by
  cases type with
  | primitive kind custom =>
    cases custom with
    | none => exact .ok (.function kind)
    | some custom => exact .error _
  | collection kind element custom =>
    cases custom with
    | none => exact alike_collectionPlan kind element subject
    | some custom => exact .error _
  | object fields custom => exact .error _

private theorem alike_fieldPlan (subject : String) (field : String × ElementType) :
    Alike (fun left right => left.1 = right.1 ∧ left.2.Mirrors right.2)
      (fieldPlan .toNative subject field) (fieldPlan .ofNative subject field) := by
  refine (alike_elementPlan field.2 _).bind fun toNative ofNative mirrors => ?_
  exact .ok ⟨rfl, rfl, rfl, mirrors⟩

/-- An object is planned field by field, and the first field without a plan is the same in both
directions. -/
theorem alike_objectPlan (fields : Fields) (subject : String) :
    Alike Plan.Mirrors (objectPlan .toNative fields subject)
      (objectPlan .ofNative fields subject) := by
  refine (Alike.mapM (alike_fieldPlan subject) fields).bind fun toNative ofNative pointwise => ?_
  exact .ok (.object (NameMap.Pointwise.ofList pointwise))

/-! ## The names of field conversions -/

theorem toNative_name (plan : Plan) (field target : String) :
    (plan.toNative field target).name = Text.pascalCase field := by
  cases plan with
  | value plan => cases plan <;> rfl
  | external external type => rfl
  | object fields => rfl

theorem ofNative_name (plan : Plan) (field : String) :
    (plan.ofNative field).name = Text.pascalCase field := by
  cases plan with
  | value plan => cases plan <;> rfl
  | external external type => rfl
  | object fields => rfl

/-- A field is converted only if both directions have a plan. -/
theorem ConvertedField.ofPlans?_eq_some_iff {name : String}
    {plan : Direction → Except Unsupported Plan} {field : ConvertedField} :
    ConvertedField.ofPlans? name plan = some field ↔
      field.name = name ∧ plan .toNative = .ok field.toNative ∧
        plan .ofNative = .ok field.ofNative := by
  unfold ConvertedField.ofPlans?
  constructor
  · intro converts
    split at converts
    · next toNative ofNative first second =>
      cases converts
      exact ⟨rfl, first, second⟩
    · cases converts
  · rintro ⟨rfl, first, second⟩
    rw [first, second]

/-- The plans that there are, under their names. -/
def planned (outcomes : List (String × Except Unsupported Plan)) : List (String × Plan) :=
  outcomes.filterMap fun (name, outcome) => outcome.toOption.map (name, ·)

/-- The fields that convert are those with a plan in one direction, no matter in which. -/
private theorem planned_of_alike {entries : List γ} {name : γ → String}
    {plan : γ → Direction → Except Unsupported Plan}
    (alike : ∀ entry, Alike Plan.Mirrors (plan entry .toNative) (plan entry .ofNative)) :
    let converted := entries.filterMap fun entry => ConvertedField.ofPlans? (name entry) (plan entry)
    (converted.map fun field => (field.name, field.toNative)) =
        planned (entries.map fun entry => (name entry, plan entry .toNative)) ∧
      (converted.map fun field => (field.name, field.ofNative)) =
        planned (entries.map fun entry => (name entry, plan entry .ofNative)) := by
  intro converted
  induction entries with
  | nil => exact ⟨rfl, rfl⟩
  | cons first rest ih =>
    obtain ⟨ihTo, ihOf⟩ := ih
    have outcomes := alike first
    simp only [converted, planned, List.map_cons, List.filterMap_cons, ConvertedField.ofPlans?]
    generalize plan first .toNative = toNative at outcomes ⊢
    generalize plan first .ofNative = ofNative at outcomes ⊢
    cases outcomes with
    | error unsupported => exact ⟨ihTo, ihOf⟩
    | ok mirrors => exact ⟨congrArg (_ :: ·) ihTo, congrArg (_ :: ·) ihOf⟩

end Conversion

namespace Schema

open Conversion (Alike alike_collectionPlan alike_elementPlan alike_objectPlan ofNative_name planned
  planned_of_alike toNative_name)

namespace Node

/-- The plan for a node. Blocks have none in either direction. -/
def plan (direction : Direction) (name : String) : Node → Except Unsupported Plan
  | attr node => node.plan direction name
  | block node => node.plan name

/-- The outcome of planning each field of the object of a node: of the nodes inside, attributes
first, or of typed fields by name. -/
def fieldPlans (direction : Direction) : Node → List (String × Except Unsupported Plan)
  | attr (.object _ fields _ _) =>
      (NameMap.sorted fields).map fun (name, type) =>
        (name, return .value (← elementPlan direction type name))
  | node => node.children.map fun (name, child) => (name, child.plan direction name)

/-- Planning a node fails alike in both directions, or gives plans that mirror each other. -/
theorem alike_plan (node : Node) (name : String) :
    Alike Plan.Mirrors (node.plan .toNative name) (node.plan .ofNative name) := by
  cases node with
  | block node => cases node <;> exact .error _
  | attr node =>
    cases node with
    | primitive kind facets default =>
      exact Alike.bind_self _ fun _ => .ok (.value (.function kind))
    | collection kind facets element default =>
      refine Alike.bind_self _ fun _ => ?_
      refine (alike_collectionPlan kind element name).bind fun toNative ofNative mirrors => ?_
      exact .ok (.value mirrors)
    | nested kind facets item attributes default => exact .error _
    | singleNested facets attributes external default => exact .error _
    | object facets fields external default =>
      cases external with
      | none =>
        exact Alike.bind_self _ fun _ => alike_objectPlan fields name
      | some external =>
        simp only [plan, Attribute.plan, fixedObjectPlan]
        split_ifs with isLocal
        · exact .ok (.external ..)
        · exact .error _

/-- The fields of an object that holds nodes are its children, as far as they convert. -/
theorem converted_eq {node : Node} (holdsNodes : node.isTypedObject = false) :
    node.converted =
      node.children.filterMap fun child =>
        ConvertedField.ofPlans? child.1 (child.2.plan · child.1) := by
  have split : node.converted =
      Attributes.converted node.attributes ++ Blocks.converted node.blocks := by
    cases node with
    | block node => rfl
    | attr node =>
      cases node with
      | object => cases holdsNodes
      | _ => rfl
  rw [split, children, namedNodes, List.filterMap_append, List.filterMap_map, List.filterMap_map]
  rfl

/-- The fields that convert are those with a plan, in either direction with the plan there. -/
theorem map_converted (node : Node) :
    (node.converted.map fun field => (field.name, field.toNative)) =
        planned (node.fieldPlans .toNative) ∧
      (node.converted.map fun field => (field.name, field.ofNative)) =
        planned (node.fieldPlans .ofNative) := by
  have ofChildren (holdsNodes : node.isTypedObject = false)
      (listed : ∀ direction, node.fieldPlans direction =
        node.children.map fun child => (child.1, child.2.plan direction child.1)) :
      (node.converted.map fun field => (field.name, field.toNative)) =
          planned (node.fieldPlans .toNative) ∧
        (node.converted.map fun field => (field.name, field.ofNative)) =
          planned (node.fieldPlans .ofNative) := by
    rw [converted_eq holdsNodes, listed, listed]
    exact planned_of_alike fun child => child.2.alike_plan child.1
  cases node with
  | block node => exact ofChildren rfl fun _ => rfl
  | attr node =>
    cases node with
    | object fields =>
      refine planned_of_alike fun field => ?_
      refine (alike_elementPlan field.2 field.1).bind fun toNative ofNative mirrors => ?_
      exact .ok (.value mirrors)
    | _ => exact ofChildren rfl fun _ => rfl

end Node

/-- Both methods of a pair convert the same fields. Every pair is made for a place; the fields it
converts are those of the node there that have a plan, in their order there (of names, in a schema
that is built), no matter which direction is asked for one; and the conversions in both methods have
the names of these fields. That a plan can be asked for in either direction holds for every node
under every name: planning fails with the same error in both, or gives plans that differ only in the
functions for primitives, which then are the two functions of one kind. -/
theorem ResourceSchema.converts_same_fields (schema : ResourceSchema) :
    (∀ pair ∈ schema.methods, ∃ place ∈ schema.places, place.methods? = some pair) ∧
      (∀ place ∈ schema.places, ∀ pair, place.methods? = some pair →
        (pair.fields.map fun field => (field.name, field.toNative)) =
            planned (place.node.fieldPlans .toNative) ∧
          (pair.fields.map fun field => (field.name, field.ofNative)) =
            planned (place.node.fieldPlans .ofNative) ∧
          ∀ direction,
            let names := (planned (place.node.fieldPlans direction)).map fun field =>
              Text.pascalCase field.1
            pair.toNative.map FieldCode.name = names ∧ pair.ofNative.map FieldCode.name = names) ∧
      (∀ spec, ResourceSchema.build spec = .ok schema → ∀ place ∈ schema.places,
        NameMap.Ordered place.node.attributes ∧ NameMap.Ordered place.node.blocks) ∧
      ∀ (node : Node) name,
        Alike Plan.Mirrors (node.plan .toNative name) (node.plan .ofNative name) := by
  refine ⟨fun _ => exists_place_of_methods, fun place _ pair made => ?_,
    fun _ built _ => ordered_places built, Node.alike_plan⟩
  have makes := Place.methods?_eq_some_iff.mp made
  obtain ⟨toNative, ofNative⟩ := place.node.map_converted
  rw [← makes.fields] at toNative ofNative
  have names (direction : Direction) :
      (planned (place.node.fieldPlans direction)).map (fun field => Text.pascalCase field.1) =
        pair.fields.map fun field => Text.pascalCase field.name := by
    cases direction with
    | toNative => rw [← toNative, List.map_map]; rfl
    | ofNative => rw [← ofNative, List.map_map]; rfl
  refine ⟨toNative, ofNative, fun direction => ⟨?_, ?_⟩⟩
  · rw [names, ConversionMethods.toNative, List.map_map]
    exact List.map_congr_left fun field _ => toNative_name field.toNative field.name pair.target
  · rw [names, ConversionMethods.ofNative, List.map_map]
    exact List.map_congr_left fun field _ => ofNative_name field.ofNative field.name

end Schema

end ProviderCodegen
