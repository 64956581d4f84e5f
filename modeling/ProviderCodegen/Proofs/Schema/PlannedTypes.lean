import ProviderCodegen.Proofs.Schema.ObjectPlans
import ProviderCodegen.Proofs.Traversal

/-! # Which types have a plan

A primitive of the framework has a plan, and so has a list, map or set of primitives other than
numbers; nothing else has, however it is nested. An object has a plan when every field has one. Where
there is none the reason is that a conversion is not supported: that of the type asked for, or of the
first such field of an object. A field is planned as a single value, so whatever is done with plans
of other sorts makes no difference.
-/

namespace ProviderCodegen.Conversion

open Schema (CollectionKind ElementType Fields PrimitiveKind Unsupported)

variable {direction : Direction} {type element : ElementType} {kind : CollectionKind}
  {fields : Fields} {subject : String} {unsupported : Unsupported}

/-! ## Types -/

/-- Why a collection has no plan. -/
def collectionReason (kind : CollectionKind) (element : ElementType) (subject : String) : String :=
  "conversion of " ++ kind.word ++ " attribute " ++ subject ++ " with element type " ++
    element.expression

/-- Why a type has no plan: a collection for the sake of its elements, unless it is custom. -/
def typeReason : ElementType → String → String
  | .collection kind element none, subject => collectionReason kind element subject
  | type, subject => "conversion of " ++ subject ++ " of type " ++ type.expression

theorem ne_number_iff {kind : PrimitiveKind} :
    kind ≠ .number ↔ kind ∈ [PrimitiveKind.bool, .float64, .int64, .string] := by
  cases kind <;> decide

/-- Neither a collection nor its elements may be custom, and numbers are no elements. -/
theorem exists_elementPlan_iff :
    (∃ plan, elementPlan direction type subject = .ok plan) ↔
      (∃ kind, type = .primitive kind none) ∨
        ∃ kind element, type = .collection kind (.primitive element none) none ∧
          element ∈ [PrimitiveKind.bool, .float64, .int64, .string] := by
  constructor
  · rintro ⟨plan, planned⟩
    obtain ⟨convertible, rfl, -⟩ := elementPlan_eq_ok_iff.mp planned
    cases convertible with
    | primitive kind => exact .inl ⟨kind, rfl⟩
    | collection kind element converts =>
      exact .inr ⟨kind, element, rfl, ne_number_iff.mp converts⟩
  · rintro (⟨kind, rfl⟩ | ⟨kind, element, rfl, listed⟩)
    · exact ⟨_, rfl⟩
    · exact ⟨_, elementPlan_eq_ok_iff.mpr
        ⟨.collection kind element (ne_number_iff.mpr listed), rfl, rfl⟩⟩

/-- The reason names the kind of the collection and the expression of its elements. -/
theorem subject_of_collectionPlan
    (failed : collectionPlan kind element subject = .error unsupported) :
    unsupported.subject = collectionReason kind element subject := by
  rw [collectionPlan] at failed
  split at failed
  · cases failed
  · cases failed
    rfl

theorem subject_of_elementPlan
    (failed : elementPlan direction type subject = .error unsupported) :
    unsupported.subject = typeReason type subject := by
  cases type with
  | primitive kind custom =>
    cases custom with
    | none => cases failed
    | some custom => cases failed; rfl
  | collection kind element custom =>
    cases custom with
    | none => exact subject_of_collectionPlan failed
    | some custom => cases failed; rfl
  | object fields custom => cases failed; rfl

/-! ## Objects -/

section Objects

variable {field : String × ElementType}

def plannedField (field : String × ElementType) (plan : ValuePlan) : String × FieldPlan :=
  (field.1, { attrType := field.2.expression, valueType := field.2.valueType, plan })

theorem fieldPlan_eq (direction : Direction) (subject : String) (field : String × ElementType) :
    fieldPlan direction subject field =
      (elementPlan direction field.2 (subject ++ "." ++ field.1)).map (plannedField field) := by
  obtain ⟨name, type⟩ := field
  change (elementPlan direction type (subject ++ "." ++ name) >>= fun plan => pure _) = _
  cases elementPlan direction type (subject ++ "." ++ name) <;> rfl

/-- Fields are planned in their order, and the map keeps the last plan of a name. -/
theorem objectPlan_eq (direction : Direction) (fields : Fields) (subject : String) :
    objectPlan direction fields subject =
      (fields.mapM (fieldPlan direction subject)).map fun planned => .object (.ofList planned) := by
  unfold objectPlan
  cases fields.mapM (fieldPlan direction subject) <;> rfl

theorem exists_objectPlan_iff :
    (∃ plan, objectPlan direction fields subject = .ok plan) ↔
      ∀ field ∈ fields, ∃ plan,
        elementPlan direction field.2 (subject ++ "." ++ field.1) = .ok plan := by
  rw [objectPlan_eq, exists_map_eq_ok_iff, exists_mapM_iff]
  refine forall₂_congr fun field _ => ?_
  rw [fieldPlan_eq, exists_map_eq_ok_iff]

/-- The error is that of the first field without a plan, with the path to it. -/
theorem objectPlan_eq_error_iff :
    objectPlan direction fields subject = .error unsupported ↔
      FirstFailure (fun field : String × ElementType =>
        elementPlan direction field.2 (subject ++ "." ++ field.1)) fields unsupported := by
  rw [objectPlan_eq, map_eq_error_iff, mapM_eq_error_iff]
  simp only [FirstFailure, fieldPlan_eq, exists_map_eq_ok_iff, map_eq_error_iff]

/-- The plan for an object has the names of its fields, in their order. -/
theorem names_of_objectPlan {plan : Plan}
    (planned : objectPlan direction fields subject = .ok plan) :
    ∃ parts : NameMap FieldPlan, plan = .object parts ∧ NameMap.Ordered parts ∧
      ∀ name, name ∈ parts.names ↔ name ∈ fields.map Prod.fst := by
  obtain ⟨parts, rfl, rfl⟩ := objectPlan_eq_ok_iff.mp planned
  have names : NameMap.names ((NameMap.ofList parts).map (Part.asField direction)) =
      (NameMap.ofList parts).names := NameMap.names_map (ConvertibleType.asField direction) _
  refine ⟨_, rfl, ?_, fun name => ?_⟩
  · rw [NameMap.Ordered, names]
    exact NameMap.ordered_ofList parts
  · rw [names, NameMap.mem_names_ofList, List.map_map]
    exact Iff.rfl

/-- The plan for an object, given plans of any sort for its fields: for one that is no plan of a
single value the object is refused. -/
def objectPlanOr (refused : String × ElementType → Unsupported)
    (plans : String × ElementType → Except Unsupported Plan) (fields : Fields) :
    Except Unsupported Plan := do
  let planned ← fields.mapM fun field => do
    match ← plans field with
    | .value plan => return plannedField field plan
    | _ => .error (refused field)
  return .object (.ofList planned)

/-- No object is refused for the sort of a plan of its fields. -/
theorem objectPlanOr_eq (refused : String × ElementType → Unsupported) (direction : Direction)
    (fields : Fields) (subject : String) :
    objectPlanOr refused
        (fun field => (elementPlan direction field.2 (subject ++ "." ++ field.1)).map .value) fields =
      objectPlan direction fields subject := by
  have each : (fun field : String × ElementType => do
      match ← (elementPlan direction field.2 (subject ++ "." ++ field.1)).map Plan.value with
      | .value plan => return plannedField field plan
      | _ => .error (refused field)) = fieldPlan direction subject := by
    funext field
    rw [fieldPlan_eq]
    cases elementPlan direction field.2 (subject ++ "." ++ field.1) <;> rfl
  rw [objectPlanOr, each]
  rfl

end Objects

/-- Which types have a plan in a direction, and why others have none. -/
structure PlansOfTypes (direction : Direction) (subject : String) : Prop where
  /-- The primitives of the framework have a plan, and lists, maps and sets of those among them that
  are no numbers. -/
  types : ∀ type, (∃ plan, elementPlan direction type subject = .ok plan) ↔
    (∃ kind, type = .primitive kind none) ∨
      ∃ kind element, type = .collection kind (.primitive element none) none ∧
        element ∈ [PrimitiveKind.bool, .float64, .int64, .string]
  /-- An object has a plan when each of its fields has. -/
  objects : ∀ fields, (∃ plan, objectPlan direction fields subject = .ok plan) ↔
    ∀ field ∈ fields, ∃ plan,
      elementPlan direction field.2 (subject ++ "." ++ field.1) = .ok plan
  /-- The plan of an object has the names of its fields. -/
  names : ∀ fields plan, objectPlan direction fields subject = .ok plan →
    ∃ parts : NameMap FieldPlan, plan = .object parts ∧ NameMap.Ordered parts ∧
      ∀ name, name ∈ parts.names ↔ name ∈ fields.map Prod.fst
  /-- Every field is planned as a single value, so no object is refused for a plan of another sort. -/
  values : ∀ fields refused, objectPlanOr refused
      (fun field => (elementPlan direction field.2 (subject ++ "." ++ field.1)).map .value) fields =
    objectPlan direction fields subject
  refusedCollection : ∀ kind element unsupported,
    collectionPlan kind element subject = .error unsupported →
      unsupported.message = "not implemented: " ++ collectionReason kind element subject
  refusedType : ∀ type unsupported, elementPlan direction type subject = .error unsupported →
    unsupported.message = "not implemented: " ++ typeReason type subject
  /-- An object is refused for its first field that is. -/
  refusedObject : ∀ fields unsupported,
    objectPlan direction fields subject = .error unsupported ↔
      FirstFailure (fun field : String × ElementType =>
        elementPlan direction field.2 (subject ++ "." ++ field.1)) fields unsupported

/-- Exactly the documented types convert, in either direction and whatever they are asked for. All
else is not supported, and the reason names the type, or the first field of an object that does not
convert. -/
theorem plans_of_types (direction : Direction) (subject : String) :
    PlansOfTypes direction subject where
  types _ := exists_elementPlan_iff
  objects _ := exists_objectPlan_iff
  names _ _ := names_of_objectPlan
  values fields refused := objectPlanOr_eq refused direction fields subject
  refusedCollection _ _ _ failed :=
    congrArg ("not implemented: " ++ ·) (subject_of_collectionPlan failed)
  refusedType _ _ failed := congrArg ("not implemented: " ++ ·) (subject_of_elementPlan failed)
  refusedObject _ _ := objectPlan_eq_error_iff

def limitFields : Fields :=
  [("unit", .primitive .string none), ("ports", .collection .list (.primitive .int64 none) none)]

/-- Behind fields that convert, a set of numbers and an object. -/
def rangeFields : Fields :=
  limitFields ++
    [("sizes", .collection .set (.primitive .number none) none), ("in", .object [] none)]

/-- An object converts, and one with two more fields is refused for the first of them. -/
theorem plans_limitFields :
    (∃ parts : NameMap FieldPlan, objectPlan .toNative limitFields "limits" = .ok (.object parts) ∧
      ∀ name, name ∈ parts.names ↔ name ∈ ["unit", "ports"]) ∧
      ∃ unsupported, objectPlan .ofNative rangeFields "limits" = .error unsupported ∧
        unsupported.message = "not implemented: conversion of set attribute limits.sizes " ++
          "with element type types.NumberType" := by
  have each (direction : Direction) : ∀ field ∈ limitFields, ∃ plan,
      elementPlan direction field.2 ("limits" ++ "." ++ field.1) = .ok plan := by
    intro field listed
    refine ((plans_of_types direction _).1 field.2).mpr ?_
    rcases List.mem_cons.mp listed with rfl | listed
    · exact .inl ⟨.string, rfl⟩
    · rw [List.mem_singleton.mp listed]
      exact .inr ⟨.list, .int64, rfl, by decide⟩
  have toNative := plans_of_types .toNative "limits"
  obtain ⟨plan, planned⟩ := (toNative.objects limitFields).mpr (each .toNative)
  obtain ⟨parts, rfl, -, names⟩ := toNative.names limitFields plan planned
  have failed : elementPlan .ofNative (.collection .set (.primitive .number none) none)
      "limits.sizes" = .error
        ⟨"conversion of set attribute limits.sizes with element type types.NumberType"⟩ := rfl
  have refused := ((plans_of_types .ofNative "limits").refusedObject rangeFields _).mpr
    ⟨limitFields, _, _, rfl, each .ofNative, failed⟩
  have reason := (plans_of_types .ofNative "limits.sizes").refusedType _ _ failed
  exact ⟨⟨parts, planned, names⟩, _, refused, reason.trans (by decide)⟩

end ProviderCodegen.Conversion
