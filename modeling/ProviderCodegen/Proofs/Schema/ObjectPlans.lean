import ProviderCodegen.Proofs.NameOrder
import ProviderCodegen.Proofs.Schema.Build

/-! # Plans for objects of typed fields

Whether an object of typed fields has a plan depends on the types of its fields only: primitives of
the framework convert, and lists, maps and sets of primitives other than numbers
(`ConvertibleType`). The plan maps the names of the fields to what their types are converted by, in
either direction.
-/

namespace ProviderCodegen.Conversion

open Schema (CollectionKind ElementType Fields PrimitiveKind bind_eq_ok)

variable {direction : Direction} {type : ElementType} {subject : String} {fields : Fields}

/-- The types of fields that convert. -/
inductive ConvertibleType
  | primitive (kind : PrimitiveKind)
  | collection (kind : CollectionKind) (element : PrimitiveKind) (converts : element ≠ .number)
deriving DecidableEq

namespace ConvertibleType

def asElement : ConvertibleType → ElementType
  | primitive kind => .primitive kind none
  | collection kind element _ => .collection kind (.primitive element none) none

def plan (direction : Direction) : ConvertibleType → ValuePlan
  | primitive kind => .function (direction.function kind)
  | collection kind element _ =>
      .collection kind (ElementType.primitive element none).expression
        (kind.nativeType element.nativeType)

def asField (direction : Direction) (type : ConvertibleType) : FieldPlan where
  attrType := type.asElement.expression
  valueType := type.asElement.valueType
  plan := type.plan direction

end ConvertibleType

/-- A field of an object that converts. -/
abbrev Part := String × ConvertibleType

def Part.asElement : Part → String × ElementType :=
  Prod.map id ConvertibleType.asElement

def Part.asField (direction : Direction) : Part → String × FieldPlan :=
  Prod.map id (ConvertibleType.asField direction)

/-! ## Which plans there are -/

theorem primitive?_eq_some_iff {element : ElementType} {kind : PrimitiveKind} :
    primitive? element = some kind ↔ element = .primitive kind none := by
  constructor
  · intro given
    cases element with
    | primitive kind custom =>
      cases custom with
      | none => exact congrArg (ElementType.primitive · none) (Option.some.inj given)
      | some custom => cases given
    | collection kind element custom => cases given
    | object fields custom => cases given
  · rintro rfl
    rfl

/-- Numbers have no native type, so no collection of them is converted. -/
theorem elementNativeType?_eq_some_iff {element : ElementType} {native : String} :
    elementNativeType? element = some native ↔
      ∃ kind : PrimitiveKind, (element = .primitive kind none ∧ kind ≠ .number) ∧
        kind.nativeType = native := by
  simp only [elementNativeType?, Option.map_eq_some_iff, Option.filter_eq_some_iff,
    primitive?_eq_some_iff, decide_eq_true_eq]

/-- Whether a type has a plan depends neither on the direction nor on what the plan is for. -/
theorem elementPlan_eq_ok_iff {plan : ValuePlan} :
    elementPlan direction type subject = .ok plan ↔
      ∃ convertible : ConvertibleType, convertible.asElement = type ∧
        convertible.plan direction = plan := by
  constructor
  · intro given
    cases type with
    | primitive kind custom =>
      cases custom with
      | none =>
        cases given
        exact ⟨.primitive kind, rfl, rfl⟩
      | some custom => cases given
    | collection kind element custom =>
      cases custom with
      | none =>
        rw [elementPlan, collectionPlan] at given
        split at given
        · next native isNative =>
          cases given
          obtain ⟨primitive, ⟨rfl, converts⟩, rfl⟩ := elementNativeType?_eq_some_iff.mp isNative
          exact ⟨.collection kind primitive converts, rfl, rfl⟩
        · cases given
      | some custom => cases given
    | object fields custom => cases given
  · rintro ⟨convertible, rfl, rfl⟩
    cases convertible with
    | primitive kind => rfl
    | collection kind element converts =>
      have isNative := elementNativeType?_eq_some_iff.mpr ⟨element, ⟨rfl, converts⟩, rfl⟩
      rw [ConvertibleType.asElement, elementPlan, collectionPlan, isNative]
      rfl

private theorem fieldPlan_eq_ok_iff {field : String × ElementType} {planned : String × FieldPlan} :
    fieldPlan direction subject field = .ok planned ↔
      ∃ part : Part, part.asElement = field ∧ part.asField direction = planned := by
  obtain ⟨name, type⟩ := field
  constructor
  · intro given
    obtain ⟨plan, ofType, result⟩ := bind_eq_ok.mp given
    obtain ⟨convertible, rfl, rfl⟩ := elementPlan_eq_ok_iff.mp ofType
    cases result
    exact ⟨(name, convertible), rfl, rfl⟩
  · rintro ⟨⟨name, convertible⟩, ⟨⟩, rfl⟩
    exact bind_eq_ok.mpr ⟨_, elementPlan_eq_ok_iff.mpr ⟨convertible, rfl, rfl⟩, rfl⟩

private theorem mapM_fieldPlan_eq_ok_iff {planned : List (String × FieldPlan)} :
    fields.mapM (fieldPlan direction subject) = .ok planned ↔
      ∃ parts : List Part, parts.map Part.asElement = fields ∧
        parts.map (Part.asField direction) = planned := by
  induction fields generalizing planned with
  | nil =>
    constructor
    · rintro ⟨⟩
      exact ⟨[], rfl, rfl⟩
    · rintro ⟨parts, none, rfl⟩
      rw [List.map_eq_nil_iff.mp none]
      rfl
  | cons field rest ih =>
    rw [List.mapM_cons, bind_eq_ok]
    constructor
    · rintro ⟨first, ofField, others⟩
      obtain ⟨others, ofRest, result⟩ := bind_eq_ok.mp others
      obtain ⟨part, rfl, rfl⟩ := fieldPlan_eq_ok_iff.mp ofField
      obtain ⟨parts, rfl, rfl⟩ := ih.mp ofRest
      cases result
      exact ⟨part :: parts, rfl, rfl⟩
    · rintro ⟨parts, split, rfl⟩
      obtain ⟨part, parts, rfl, rfl, rfl⟩ := List.map_eq_cons_iff.mp split
      refine ⟨_, fieldPlan_eq_ok_iff.mpr ⟨part, rfl, rfl⟩, ?_⟩
      exact bind_eq_ok.mpr ⟨_, ih.mpr ⟨parts, rfl, rfl⟩, rfl⟩

/-- An object has a plan if all its fields convert: that of the last field of each name. -/
theorem objectPlan_eq_ok_iff {plan : Plan} :
    objectPlan direction fields subject = .ok plan ↔
      ∃ parts : List Part, parts.map Part.asElement = fields ∧
        plan = .object ((NameMap.ofList parts).map (Part.asField direction)) := by
  have mapped (parts : List Part) : NameMap.ofList (parts.map (Part.asField direction)) =
      (NameMap.ofList parts).map (Part.asField direction) := NameMap.ofList_map ..
  unfold objectPlan
  rw [bind_eq_ok]
  constructor
  · rintro ⟨planned, ofFields, result⟩
    obtain ⟨parts, rfl, rfl⟩ := mapM_fieldPlan_eq_ok_iff.mp ofFields
    cases result
    exact ⟨parts, rfl, congrArg Plan.object (mapped parts)⟩
  · rintro ⟨parts, rfl, rfl⟩
    refine ⟨_, mapM_fieldPlan_eq_ok_iff.mpr ⟨parts, rfl, rfl⟩, ?_⟩
    rw [mapped]
    rfl

end ProviderCodegen.Conversion
