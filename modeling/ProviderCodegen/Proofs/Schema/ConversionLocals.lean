import Mathlib.Data.List.Nodup
import Mathlib.Data.List.Pairwise
import ProviderCodegen.Proofs.Schema.Directions
import ProviderCodegen.Proofs.Schema.ObjectPlans

/-! # Local variables of conversion methods

The fields that a conversion method converts share one scope for the variables they declare:
`<field>Field` in one method, `<field>Val` and, for the collections in an object,
`<object><field>Val` in the other. What is in front of the endings is made of names in a
specification (`ConvertedField.stems`), so it is known from these names which variables clash.
-/

namespace ProviderCodegen

open Text (camelCase pascalCase)

namespace Conversion

open Schema (Fields)

/-- The variables that a method has whatever it converts: its receiver and its parameters, and those
for diagnostics. -/
def methodVariables : List String :=
  ["v", "ctx", "diags", "d", "apiObject"]

/-- The variables that the preambles of fields declare, in their order. -/
def declared (fields : List FieldCode) : List String :=
  fields.flatMap fun field => field.preamble.flatMap Statement.declared

/-! ## The variables of a field -/

def FieldPlan.isCollection (part : FieldPlan) : Bool :=
  match part.plan with
  | .collection .. => true
  | .function _ => false

namespace Plan

/-- Whether the native form of a field is kept in a variable. -/
def keepsNative : Plan → Bool
  | value (.function _) => false
  | value (.collection ..) => true
  | external _ _ => true
  | object _ => false

/-- Whether the value of a field is kept in a variable. -/
def keepsValue : Plan → Bool
  | value (.function _) => false
  | _ => true

/-- The fields of an object that are collections, which are kept in variables of their own. -/
def collections : Plan → List String
  | object fields => (fields.filter (·.2.isCollection)).map Prod.fst
  | _ => []

/-- Only collections and external types need a variable on the way to native values. -/
theorem declared_toNative (plan : Plan) (field target : String) :
    (plan.toNative field target).preamble.flatMap Statement.declared =
      if plan.keepsNative then [nativeVariable field] else [] := by
  cases plan with
  | value plan => cases plan <;> rfl
  | external external valueType => rfl
  | object fields => rfl

private theorem declared_partStatements (field : String) (part : String × FieldPlan) :
    (partStatements field part).flatMap Statement.declared =
      if part.2.isCollection then [partVariable field part.1] else [] := by
  unfold partStatements FieldPlan.isCollection
  cases part.2.plan <;> rfl

/-- The variables of collections inside an object come before that of the object. -/
theorem declared_ofNative (plan : Plan) (field : String) :
    (plan.ofNative field).preamble.flatMap Statement.declared =
      plan.collections.map (partVariable field) ++
        if plan.keepsValue then [valueVariable field] else [] := by
  cases plan with
  | value plan => cases plan <;> rfl
  | external external valueType => rfl
  | object fields =>
    have parts : (fields.flatMap (partStatements field)).flatMap Statement.declared =
        (collections (.object fields)).map (partVariable field) := by
      induction fields with
      | nil => rfl
      | cons part rest ih =>
        rw [List.flatMap_cons, List.flatMap_append, ih, declared_partStatements, collections,
          collections, List.filter_cons]
        split_ifs <;> rfl
    simp only [ofNative, List.flatMap_append, parts]
    rfl

end Plan

/-- What is in front of `Val` in the variables for the value of a field. -/
def ConvertedField.stems (field : ConvertedField) : List String :=
  field.ofNative.collections.map (camelCase field.name ++ pascalCase ·) ++
    if field.ofNative.keepsValue then [camelCase field.name] else []

/-- The stem of a collection inside an object may be that of another field, which is how names
clash. -/
theorem mem_stems_iff {field : ConvertedField} {stem : String} :
    stem ∈ field.stems ↔
      (∃ part ∈ field.ofNative.collections, camelCase field.name ++ pascalCase part = stem) ∨
        field.ofNative.keepsValue = true ∧ camelCase field.name = stem := by
  rw [ConvertedField.stems, List.mem_append, List.mem_map]
  cases field.ofNative.keepsValue <;> simp [eq_comm]

/-! ## The variables of a method -/

section Methods

variable {pair : ConversionMethods} {fields : List ConvertedField}

private theorem append_injective (ending : String) : Function.Injective (· ++ ending) :=
  fun _ _ same => (String.append_left_inj ending).mp same

/-- A variable with an ending that no variable of every method has is none of these. -/
private theorem append_notMem_methodVariables {ending : String}
    (apart : ∀ name ∈ methodVariables, ¬ ending.toList <:+ name.toList) (start : String) :
    start ++ ending ∉ methodVariables := by
  intro member
  apply apart _ member
  rw [String.toList_append]
  exact List.suffix_append ..

/-- Fields in the native form keep their order, and objects have no variable of their own there. -/
theorem ConversionMethods.declared_toNative (pair : ConversionMethods) :
    declared pair.toNative =
      (pair.fields.filter (·.toNative.keepsNative)).map fun field => nativeVariable field.name := by
  rw [declared, toNative, List.flatMap_map]
  induction pair.fields with
  | nil => rfl
  | cons field rest ih =>
    rw [List.flatMap_cons, ih, Plan.declared_toNative, List.filter_cons]
    split_ifs <;> rfl

theorem ConversionMethods.declared_ofNative (pair : ConversionMethods) :
    declared pair.ofNative = (pair.fields.flatMap ConvertedField.stems).map (· ++ "Val") := by
  rw [declared, ofNative, List.flatMap_map, List.map_flatMap]
  refine List.flatMap_congr fun field _ => ?_
  rw [Plan.declared_ofNative, ConvertedField.stems, List.map_append, List.map_map]
  cases field.ofNative.keepsValue <;> rfl

/-- Whether the variables for collections in objects are none of those for other fields. -/
structure PartsApart (fields : List ConvertedField) : Prop where
  ofFields : ∀ object ∈ fields, ∀ part ∈ object.ofNative.collections, ∀ field ∈ fields,
    field.ofNative.keepsValue = true →
      camelCase object.name ++ pascalCase part ≠ camelCase field.name
  ofObjects : ∀ object ∈ fields, ∀ part ∈ object.ofNative.collections, ∀ other ∈ fields,
    object.name ≠ other.name → ∀ another ∈ other.ofNative.collections,
      camelCase object.name ++ pascalCase part ≠ camelCase other.name ++ pascalCase another

/-- The variables for one field are different if those for its collections are, and none of these is
the variable for the field itself. -/
private theorem nodup_stems {field : ConvertedField}
    (parts : (field.ofNative.collections.map pascalCase).Nodup)
    (apart : ∀ part ∈ field.ofNative.collections, field.ofNative.keepsValue = true →
      camelCase field.name ++ pascalCase part ≠ camelCase field.name) :
    field.stems.Nodup := by
  rw [ConvertedField.stems, List.nodup_append]
  refine ⟨?_, ?_, ?_⟩
  · have inFront : Function.Injective (camelCase field.name ++ ·) :=
      fun _ _ same => (String.append_right_inj _).mp same
    have own := parts.map inFront
    rwa [List.map_map] at own
  · split_ifs
    · exact List.nodup_singleton _
    · exact List.nodup_nil
  · intro stem inParts second inField
    obtain ⟨part, isPart, rfl⟩ := List.mem_map.mp inParts
    split_ifs at inField with keeps
    · rw [List.mem_singleton.mp inField]
      exact apart part isPart keeps
    · exact absurd inField List.not_mem_nil

private theorem PartsApart.disjoint_stems (apart : PartsApart fields)
    {first second : ConvertedField} (isFirst : first ∈ fields) (isSecond : second ∈ fields)
    (differ : camelCase first.name ≠ camelCase second.name) :
    first.stems.Disjoint second.stems := by
  intro stem ofFirst ofSecond
  rcases mem_stems_iff.mp ofFirst with ⟨part, isPart, rfl⟩ | ⟨keeps, rfl⟩
  · rcases mem_stems_iff.mp ofSecond with ⟨another, isAnother, same⟩ | ⟨keeps, same⟩
    · exact apart.ofObjects _ isFirst part isPart _ isSecond
        (fun same => differ (congrArg camelCase same)) another isAnother same.symm
    · exact apart.ofFields _ isFirst part isPart _ isSecond keeps same.symm
  · rcases mem_stems_iff.mp ofSecond with ⟨another, isAnother, same⟩ | ⟨-, same⟩
    · exact apart.ofFields _ isSecond another isAnother _ isFirst keeps same
    · exact differ same.symm

private theorem partsApart_of_nodup (distinct : (fields.flatMap ConvertedField.stems).Nodup) :
    PartsApart fields := by
  obtain ⟨each, apart⟩ := List.nodup_flatMap.mp distinct
  have disjoint {first second : ConvertedField} (isFirst : first ∈ fields)
      (isSecond : second ∈ fields) (differ : first ≠ second) :
      first.stems.Disjoint second.stems := by
    have : Std.Symm (Function.onFun List.Disjoint ConvertedField.stems) :=
      ⟨fun _ _ disjoint _ ofSecond ofFirst => disjoint ofFirst ofSecond⟩
    exact apart.forall isFirst isSecond differ
  constructor
  · intro object isObject part isPart field isField keeps same
    by_cases isOwn : object = field
    · subst isOwn
      have own := each object isObject
      rw [ConvertedField.stems, if_pos keeps, List.nodup_append] at own
      exact own.2.2 _ (List.mem_map_of_mem isPart) _ (List.mem_singleton_self _) same
    · exact disjoint isObject isField isOwn (mem_stems_iff.mpr (.inl ⟨part, isPart, same⟩))
        (mem_stems_iff.mpr (.inr ⟨keeps, rfl⟩))
  · intro object isObject part isPart other isOther differ another isAnother same
    have apartFields : object ≠ other := fun same => differ (congrArg _ same)
    exact disjoint isObject isOther apartFields (mem_stems_iff.mpr (.inl ⟨part, isPart, same⟩))
      (mem_stems_iff.mpr (.inl ⟨another, isAnother, rfl⟩))

/-- Given that names and parts of objects differ by themselves, only two names together can read as
something else. -/
theorem nodup_stems_iff (names : (fields.map fun field => camelCase field.name).Nodup)
    (parts : ∀ field ∈ fields, (field.ofNative.collections.map pascalCase).Nodup) :
    (fields.flatMap ConvertedField.stems).Nodup ↔ PartsApart fields := by
  refine ⟨partsApart_of_nodup, fun apart => List.nodup_flatMap.mpr ⟨?_, ?_⟩⟩
  · intro field isField
    exact nodup_stems (parts field isField) fun part isPart keeps =>
      apart.ofFields field isField part isPart field isField keeps
  · exact (List.pairwise_map.mp names).imp_of_mem fun isFirst isSecond differ =>
      apart.disjoint_stems isFirst isSecond differ

end Methods

/-- The collections of an object have different variables if its fields have different names in
Pascal case. -/
theorem nodup_collections {direction : Direction} {fields : Fields} {subject : String} {plan : Plan}
    (planned : objectPlan direction fields subject = .ok plan)
    (distinct : (fields.map fun field => pascalCase field.1).Nodup) :
    (plan.collections.map pascalCase).Nodup := by
  obtain ⟨parts, rfl, rfl⟩ := objectPlan_eq_ok_iff.mp planned
  have inPascal : ((NameMap.names parts).map pascalCase).Nodup := by
    rw [List.map_map] at distinct
    rwa [NameMap.names, List.map_map]
  rw [NameMap.ofList_eq_sorted inPascal.of_map]
  have inOrder : ((NameMap.sorted parts).map (Part.asField direction)).map Prod.fst =
      (NameMap.sorted parts).map Prod.fst :=
    NameMap.names_map (ConvertibleType.asField direction) _
  have sorted : (((NameMap.sorted parts).map (Part.asField direction)).map Prod.fst).map pascalCase
      |>.Nodup := by
    rw [inOrder]
    exact (((NameMap.sorted_perm parts).map Prod.fst).map pascalCase).nodup_iff.mpr inPascal
  exact ((List.filter_sublist.map Prod.fst).map pascalCase).nodup sorted

end Conversion

namespace Schema

open Conversion

namespace Node

/-- The names of the fields of the object of a node: of the nodes inside, or of typed fields. -/
def namesInside : Node → List String
  | attr (.object _ fields _ _) => (NameMap.sorted fields).map Prod.fst
  | node => node.children.map Prod.fst

/-- What is inside nested attributes and blocks is named by the children. -/
theorem namesInside_of_untyped {node : Node} (holdsNodes : node.isTypedObject = false) :
    node.namesInside = node.children.map Prod.fst := by
  cases node with
  | block node => rfl
  | attr node =>
    cases node with
    | object => cases holdsNodes
    | _ => rfl

private theorem sublist_names_ofPlans {α : Type} (entries : List (String × α))
    (plan : String × α → Direction → Except Unsupported Plan) :
    ((entries.filterMap fun entry => ConvertedField.ofPlans? entry.1 (plan entry)).map
      (·.name)).Sublist (entries.map Prod.fst) := by
  induction entries with
  | nil => exact .slnil
  | cons entry rest ih =>
    rw [List.filterMap_cons]
    split
    · exact ih.cons _
    · next field converts =>
      have name := (ConvertedField.ofPlans?_eq_some_iff.mp converts).1
      rw [List.map_cons, List.map_cons, name]
      exact ih.cons_cons _

/-- The fields that convert are some of the fields, in their order. -/
theorem sublist_names_converted (node : Node) :
    (node.converted.map (·.name)).Sublist node.namesInside := by
  cases typed : node.isTypedObject with
  | true =>
    obtain ⟨facets, fields, external, default, rfl⟩ := eq_object_of_typed typed
    exact sublist_names_ofPlans _ _
  | false =>
    rw [converted_eq typed, namesInside_of_untyped typed]
    exact sublist_names_ofPlans _ _

/-- Only objects of typed fields without an external type convert field by field. -/
theorem eq_object_of_plan {node : Node} {direction : Direction} {name : String}
    {planned : NameMap FieldPlan} (given : node.plan direction name = .ok (.object planned)) :
    ∃ facets fields default, node = .attr (.object facets fields none default) ∧
      objectPlan direction fields name = .ok (.object planned) := by
  cases node with
  | block node => cases node <;> cases given
  | attr node =>
    cases node with
    | primitive kind facets default =>
      obtain ⟨-, -, result⟩ := bind_eq_ok.mp given
      cases result
    | collection kind facets element default =>
      obtain ⟨_, -, given⟩ := bind_eq_ok.mp given
      obtain ⟨plan, -, result⟩ := bind_eq_ok.mp given
      cases result
    | nested kind facets item attributes default => cases given
    | singleNested facets attributes external default => cases given
    | object facets fields external default =>
      cases external with
      | none =>
        obtain ⟨-, -, ofFields⟩ := bind_eq_ok.mp given
        exact ⟨facets, fields, default, rfl, ofFields⟩
      | some external =>
        simp only [plan, Attribute.plan, fixedObjectPlan] at given
        split_ifs at given
        cases given

/-- Whether the typed fields of each object inside a node have different names in Pascal case. -/
def DistinctParts (node : Node) : Prop :=
  ∀ child ∈ node.children, ∀ facets fields default,
    child.2 = .attr (.object facets fields none default) →
      (fields.map fun field => pascalCase field.1).Nodup

theorem nodup_collections_converted {node : Node} (parts : node.DistinctParts) :
    ∀ field ∈ node.converted, (field.ofNative.collections.map pascalCase).Nodup := by
  intro field member
  cases typed : node.isTypedObject with
  | true =>
    obtain ⟨facets, fields, external, default, rfl⟩ := eq_object_of_typed typed
    obtain ⟨⟨name, type⟩, -, converts⟩ := List.mem_filterMap.mp member
    obtain ⟨-, -, planned⟩ := ConvertedField.ofPlans?_eq_some_iff.mp converts
    obtain ⟨plan, -, result⟩ := bind_eq_ok.mp planned
    rw [← Except.ok.inj result]
    exact List.nodup_nil
  | false =>
    rw [converted_eq typed] at member
    obtain ⟨child, isChild, converts⟩ := List.mem_filterMap.mp member
    obtain ⟨-, -, planned⟩ := ConvertedField.ofPlans?_eq_some_iff.mp converts
    cases isObject : field.ofNative with
    | value plan => exact List.nodup_nil
    | external external valueType => exact List.nodup_nil
    | object fields =>
      rw [isObject] at planned
      obtain ⟨facets, typedFields, default, same, ofFields⟩ := eq_object_of_plan planned
      exact nodup_collections ofFields (parts child isChild facets typedFields default same)

end Node

/-- Which local variables of conversion methods clash. If the fields of an object have different names
in camel case, and the typed fields in each object inside different names in Pascal case, then no
variable that is declared for a field is one that every method has. The method to the native form
declares different variables, and one of them is the variable for the native form itself if and only
if that is the name, with `Field` behind it, of a field kept in a variable. The method from the
native form declares different variables if and only if no name of an object with that of a
collection in it reads as the name of another field, or as another such pair. -/
theorem Place.locals_of_methods {place : Place} {pair : ConversionMethods}
    (made : place.methods? = some pair) (names : (place.node.namesInside.map camelCase).Nodup)
    (parts : place.node.DistinctParts) :
    (∀ name ∈ declared pair.toNative ++ declared pair.ofNative, name ∉ methodVariables) ∧
      (declared pair.toNative).Nodup ∧
      (pair.target ∈ declared pair.toNative ↔ ∃ field ∈ pair.fields,
        field.toNative.keepsNative = true ∧ camelCase field.name ++ "Field" = pair.target) ∧
      ((declared pair.ofNative).Nodup ↔ PartsApart pair.fields) := by
  have makes := Place.methods?_eq_some_iff.mp made
  have distinct : (pair.fields.map fun field => camelCase field.name).Nodup := by
    have inCamel := (place.node.sublist_names_converted.map camelCase).nodup names
    rw [List.map_map] at inCamel
    rwa [makes.fields]
  rw [ConversionMethods.declared_toNative, ConversionMethods.declared_ofNative]
  refine ⟨?_, ?_, ?_, ?_⟩
  · intro name member
    rcases List.mem_append.mp member with member | member
    · obtain ⟨field, -, rfl⟩ := List.mem_map.mp member
      exact append_notMem_methodVariables (by decide) _
    · obtain ⟨stem, -, rfl⟩ := List.mem_map.mp member
      exact append_notMem_methodVariables (by decide) _
  · have kept : ((pair.fields.filter (·.toNative.keepsNative)).map
        fun field => camelCase field.name).Nodup := (List.filter_sublist.map _).nodup distinct
    have ending := kept.map (append_injective "Field")
    rwa [List.map_map] at ending
  · simp only [List.mem_map, List.mem_filter, and_assoc]
    rfl
  · rw [List.nodup_map_iff (append_injective "Val")]
    refine nodup_stems_iff distinct ?_
    rw [makes.fields]
    exact place.node.nodup_collections_converted parts

def textList : Attribute :=
  .collection .list {} (.primitive .string none) none

/-- The place of an object that converts, with some attributes inside. -/
def convertingPlace (external : String) (attributes : Attributes) : Place where
  around := []
  name := "service"
  node := .attr (.singleNested {} attributes (some { package := none, type := external }) none)

/-- An object with a list and an object of a list and a text. -/
def servicePlace : Place :=
  convertingPlace "*sdk.Service"
    [("labels", textList),
      ("limits", .object {} [("ports", .collection .list (.primitive .int64 none) none),
        ("unit", .primitive .string none)] none none)]

/-- Two fields have a variable for a value, and one of them has a collection inside. -/
theorem servicePlace_locals : ∃ pair, servicePlace.methods? = some pair ∧
    (servicePlace.node.namesInside.map camelCase).Nodup ∧ servicePlace.node.DistinctParts ∧
    declared pair.toNative = ["labelsField"] ∧ (declared pair.toNative).Nodup ∧
    declared pair.ofNative = ["labelsVal", "limitsPortsVal", "limitsVal"] ∧
    ((declared pair.ofNative).Nodup ↔ PartsApart pair.fields) := by
  have names : (servicePlace.node.namesInside.map camelCase).Nodup := by decide
  have parts : servicePlace.node.DistinctParts := by
    intro child isChild facets fields default same
    rcases List.mem_cons.mp isChild with rfl | isChild
    · cases same
    · cases List.mem_singleton.mp isChild
      cases same
      decide
  have made : servicePlace.methods? = some _ := rfl
  obtain ⟨-, toNative, -, ofNative⟩ := Place.locals_of_methods made names parts
  exact ⟨_, made, names, parts, rfl, toNative, rfl, ofNative⟩

/-- An object of a type `thing.Field` with a list `b` in an object `a`, and with lists `a_b` and
`thing`. -/
def clashingPlace : Place :=
  convertingPlace "thing.Field"
    [("a", .object {} [("b", .collection .list (.primitive .string none) none)] none none),
      ("a_b", textList), ("thing", textList)]

/-- Different names do not keep variables apart. In the method to the native form the list `thing`
takes the variable of the result; in the method from it, the lists `b` in `a` and `a_b` are put in
one variable. -/
theorem clashingPlace_locals : ∃ pair, clashingPlace.methods? = some pair ∧
    ((clashingPlace.node.namesInside.map camelCase).Nodup ∧
      (clashingPlace.node.namesInside.map pascalCase).Nodup ∧ clashingPlace.node.DistinctParts) ∧
    (pair.target = "thingField" ∧ declared pair.toNative = ["aBField", "thingField"]) ∧
    declared pair.ofNative = ["aBVal", "aVal", "aBVal", "thingVal"] ∧
    ¬ (declared pair.ofNative).Nodup := by
  have parts : clashingPlace.node.DistinctParts := by
    intro child isChild facets fields default same
    rcases List.mem_cons.mp isChild with rfl | isChild
    · cases same
      exact List.nodup_singleton _
    · rcases List.mem_cons.mp isChild with rfl | isChild
      · cases same
      · cases List.mem_singleton.mp isChild
        cases same
  have made : clashingPlace.methods? = some _ := rfl
  exact ⟨_, made, ⟨by decide, by decide, parts⟩, ⟨rfl, rfl⟩, rfl, by decide⟩

end Schema

end ProviderCodegen
