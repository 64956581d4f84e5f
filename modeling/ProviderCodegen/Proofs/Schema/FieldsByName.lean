import ProviderCodegen.Proofs.NameOrder
import ProviderCodegen.Proofs.Schema.Change

/-! # Typed fields by name

The typed fields of objects keep the order in which they are declared, and everything that is made
from them is in the order of their names. So nothing that is written changes when all fields are
sorted (`Change.byName`); the imports are collected in another order.
-/

namespace ProviderCodegen.Schema

open Conversion (Direction FieldPlan collectionPlan elementNativeType? elementPlan fieldPlan
  objectPlan)

namespace ElementType

mutual

/-- The type with the fields of all objects in it by name. -/
def byName : ElementType → ElementType
  | primitive kind custom => primitive kind custom
  | collection kind element custom => collection kind element.byName custom
  | object fields custom => object (NameMap.sorted (allByName fields)) custom

/-- Fields in their order, with the fields of all objects in them by name. -/
def allByName : Fields → Fields
  | [] => []
  | (name, type) :: rest => (name, type.byName) :: allByName rest

end

theorem allByName_eq (fields : Fields) : allByName fields = fields.map (Prod.map id byName) := by
  induction fields with
  | nil => rfl
  | cons field rest ih =>
    rw [allByName, ih]
    rfl

theorem expressions_eq (fields : Fields) :
    expressions fields = fields.map (Prod.map id expression) := by
  induction fields with
  | nil => rfl
  | cons field rest ih =>
    rw [expressions, ih]
    rfl

end ElementType

def Fields.byName (fields : Fields) : Fields :=
  NameMap.sorted (ElementType.allByName fields)

theorem Fields.byName_eq (fields : Fields) :
    fields.byName = (NameMap.sorted fields).map (Prod.map id ElementType.byName) := by
  rw [byName, ElementType.allByName_eq, NameMap.sorted_map]

theorem Fields.sorted_byName (fields : Fields) : NameMap.sorted fields.byName = fields.byName :=
  NameMap.sorted_sorted _

/-! ## Types -/

namespace ElementType

private theorem sorted_expressions_byName {fields : Fields}
    (same : expressions (allByName fields) = expressions fields) :
    NameMap.sorted (expressions fields.byName) = NameMap.sorted (expressions fields) := by
  rw [← same, Fields.byName, expressions_eq, expressions_eq, NameMap.sorted_map,
    NameMap.sorted_sorted, NameMap.sorted_map]

mutual

/-- An expression writes fields in the order of their names anyway. -/
theorem expression_byName : ∀ type : ElementType, type.byName.expression = type.expression
  | primitive _ _ => rfl
  | collection _ _ (some _) => rfl
  | object _ (some _) => rfl
  | collection _ element none => by
    rw [byName, expression, expression, expression_byName element]
  | object fields none => by
    have same := sorted_expressions_byName (expressions_allByName fields)
    rw [Fields.byName] at same
    rw [byName, expression, expression, same]

theorem expressions_allByName : ∀ fields : Fields,
    expressions (allByName fields) = expressions fields
  | [] => rfl
  | (_, type) :: rest => by
    rw [allByName, expressions, expressions, expression_byName type, expressions_allByName rest]

end

theorem valueType_byName (type : ElementType) : type.byName.valueType = type.valueType := by
  cases type with
  | primitive => rfl
  | collection kind element custom => cases custom <;> rfl
  | object fields custom => cases custom <;> rfl

theorem elementNativeType?_byName (type : ElementType) :
    elementNativeType? type.byName = elementNativeType? type := by
  cases type <;> rfl

theorem elementPlan_byName (direction : Direction) (type : ElementType) (subject : String) :
    elementPlan direction type.byName subject = elementPlan direction type subject := by
  have expression := expression_byName type
  cases type with
  | primitive => rfl
  | collection kind element custom =>
    cases custom with
    | none =>
      change collectionPlan kind element.byName subject = collectionPlan kind element subject
      rw [collectionPlan, collectionPlan, elementNativeType?_byName, expression_byName]
    | some custom => rfl
  | object fields custom =>
    simp only [byName] at expression
    simp only [byName, elementPlan, expression]

end ElementType

namespace Fields

theorem literal_byName (fields : Fields) : literal fields.byName = literal fields := by
  rw [literal, ElementType.sorted_expressions_byName (ElementType.expressions_allByName fields),
    ← literal]

theorem valueFields_byName (fields : Fields) : valueFields fields.byName = valueFields fields := by
  rw [valueFields, sorted_byName, byName_eq, List.map_map, valueFields]
  refine List.map_congr_left fun field _ => ?_
  simp only [Function.comp_apply, Prod.map_fst, Prod.map_snd, id_eq, ElementType.expression_byName,
    ElementType.valueType_byName]

theorem converted_byName (fields : Fields) : converted fields.byName = converted fields := by
  rw [converted, sorted_byName, byName_eq, List.filterMap_map, converted]
  refine List.filterMap_congr fun field _ => ?_
  simp only [Function.comp_apply, Prod.map_fst, Prod.map_snd, id_eq, ElementType.elementPlan_byName]

/-! ## Plans -/

/-- Steps that all succeed give what they give one by one. -/
private theorem toOption_mapM {ε α β : Type} (step : α → Except ε β) (items : List α) :
    (items.mapM step).toOption =
      if ∀ item ∈ items, (step item).toOption.isSome = true then
        some (items.filterMap fun item => (step item).toOption)
      else none := by
  induction items with
  | nil => rfl
  | cons item rest ih =>
    rw [List.mapM_cons, List.filterMap_cons]
    cases given : step item with
    | error fault =>
      have stops : ¬ ∀ other ∈ item :: rest, (step other).toOption.isSome = true := by
        intro all
        have here := all item (List.mem_cons_self ..)
        rw [given] at here
        cases here
      rw [if_neg stops]
      rfl
    | ok value =>
      have here : (step item).toOption.isSome = true := by rw [given]; rfl
      simp only [List.forall_mem_cons, here, true_and]
      split_ifs at ih ⊢ with all
      · cases later : rest.mapM step with
        | error fault => rw [later] at ih; cases ih
        | ok values =>
          rw [later] at ih
          exact congrArg (Option.map (value :: ·)) ih
      · cases later : rest.mapM step with
        | error fault => rfl
        | ok values => rw [later] at ih; cases ih

/-- A field keeps its name in its plan. -/
private theorem fst_of_fieldPlan {direction : Direction} {subject : String}
    {field : String × ElementType} {planned : String × FieldPlan}
    (given : (fieldPlan direction subject field).toOption = some planned) :
    planned.1 = field.1 := by
  unfold fieldPlan at given
  cases ofType : elementPlan direction field.2 (subject ++ "." ++ field.1) with
  | error fault =>
    simp only [ofType, bind, Except.bind] at given
    cases given
  | ok plan =>
    simp only [ofType, bind, Except.bind] at given
    cases given
    rfl

/-- Whether there is a plan is the same, but the error may name another field. -/
theorem plan_byName (direction : Direction) (fields : Fields) (subject : String) :
    (objectPlan direction fields.byName subject).toOption =
      (objectPlan direction fields subject).toOption := by
  have fromFields (fields : Fields) : (objectPlan direction fields subject).toOption =
      (fields.mapM (fieldPlan direction subject)).toOption.map fun plans =>
        .object (.ofList plans) := by
    unfold objectPlan
    cases fields.mapM (fieldPlan direction subject) <;> rfl
  have inside (field : String × ElementType) :
      fieldPlan direction subject (Prod.map id ElementType.byName field) =
        fieldPlan direction subject field := by
    simp only [fieldPlan, Prod.map_fst, Prod.map_snd, id_eq, ElementType.elementPlan_byName,
      ElementType.expression_byName, ElementType.valueType_byName]
  have members : (∀ field ∈ NameMap.sorted fields,
      (fieldPlan direction subject field).toOption.isSome = true) ↔
        ∀ field ∈ fields, (fieldPlan direction subject field).toOption.isSome = true :=
    forall_congr' fun field => imp_congr_left (NameMap.sorted_perm fields).mem_iff
  rw [fromFields, fromFields, byName_eq, List.mapM_map]
  simp only [Function.comp_def, inside]
  rw [toOption_mapM, toOption_mapM, if_congr members rfl rfl]
  split_ifs
  · rw [Option.map_some, Option.map_some, ← NameMap.sorted_filterMap
      (fun _ _ => fst_of_fieldPlan), NameMap.ofList_sorted]
  · rfl

end Fields

/-! ## Imports -/

namespace ElementType

theorem fieldParts_eq (fields : Fields) :
    fieldParts fields = fields.flatMap fun field => field.2.parts := by
  induction fields with
  | nil => rfl
  | cons field rest ih =>
    rw [fieldParts, ih]
    rfl

mutual

/-- Imports are contributed in the order of the fields, so it changes with them. -/
theorem parts_byName : ∀ type : ElementType, type.byName.parts.Perm type.parts
  | primitive _ _ => .rfl
  | collection _ _ (some _) => .rfl
  | object _ (some _) => .rfl
  | collection _ element none => parts_byName element
  | object fields none => by
    rw [byName, parts, parts]
    refine .cons _ (.trans ?_ (fieldParts_allByName fields))
    rw [fieldParts_eq, fieldParts_eq]
    exact (NameMap.sorted_perm _).flatMap_right _

theorem fieldParts_allByName : ∀ fields : Fields,
    (fieldParts (allByName fields)).Perm (fieldParts fields)
  | [] => .rfl
  | (_, type) :: rest => (parts_byName type).append (fieldParts_allByName rest)

end

end ElementType

theorem Fields.contributions_byName (fields : Fields) :
    (contributions fields.byName).Perm (contributions fields) := by
  rw [byName_eq, contributions, contributions, List.flatMap_map]
  refine .append_left _ (.trans ?_ ((NameMap.sorted_perm fields).flatMap_right _))
  exact keptByAppend_perm.flatMap fun field _ => .cons _ field.2.parts_byName

/-! ## Schemas -/

/-- Sort all typed fields. -/
def Change.byName : Change where
  element := ElementType.byName
  fields := Fields.byName

theorem Change.keepsText_byName : Change.byName.KeepsText where
  customType _ := rfl
  planModifiers _ := rfl
  validators _ := rfl
  expression := ElementType.expression_byName
  nativeType := ElementType.elementNativeType?_byName
  literal := Fields.literal_byName
  valueFields := Fields.valueFields_byName
  converted := Fields.converted_byName
  plan := Fields.plan_byName
  entries _ _ _ := rfl
  default _ := rfl

/-- The imports of the fields are only permuted. -/
theorem Change.contributes_byName : Change.byName.Contributes List.Perm where
  __ := Change.keepsText_byName.toKeepsCode
  default _ := rfl
  element type := .cons _ type.parts_byName
  fields := Fields.contributions_byName

end ProviderCodegen.Schema
