import ProviderCodegen.Proofs.Schema.Bindings
import ProviderCodegen.Proofs.Schema.FieldsByName
import ProviderCodegen.Proofs.Schema.ObjectPlans

/-! # Names of typed fields

Attributes and blocks are refused where a list names two of them alike. The typed fields of an object
are not, at any depth (`objects`): the literal of their types has a key for each of them and the
plan for their conversion a field for each name, so a name that is given twice loses a field.
-/

namespace ProviderCodegen

open Conversion (ConvertibleType Direction FieldPlan Part Plan objectPlan objectPlan_eq_ok_iff)
open Schema (firstSet nothing?)

namespace Spec

mutual

/-- The lists of fields of all objects in an element type, at any depth, as far as kinds count. -/
def ElementType.objects : ElementType → List (List ObjectField)
  | ⟨bool, float64, int64, number, string, list, map, set, object⟩ =>
      firstSet [nothing? bool, nothing? float64, nothing? int64, nothing? number, nothing? string,
        CollectionType.objects? list, CollectionType.objects? map, CollectionType.objects? set,
        ObjectType.objects? object] []

/-- The lists of fields in a collection, if the kind is set. -/
def CollectionType.objects? : Option CollectionType → Option (List (List ObjectField))
  | none => none
  | some ⟨element, _⟩ => some element.objects

/-- The fields of an object and those of the objects in it, if the kind is set. -/
def ObjectType.objects? : Option ObjectType → Option (List (List ObjectField))
  | none => none
  | some ⟨fields, _⟩ => some (fields :: objectsInside fields)

/-- The lists of fields of the objects in some fields. -/
def objectsInside : List ObjectField → List (List ObjectField)
  | [] => []
  | ⟨_, kind⟩ :: rest => kind.objects ++ objectsInside rest

end

/-- The lists of fields of all objects of typed fields in an attribute. -/
def Attribute.objects (spec : Attribute) : List (List ObjectField) :=
  firstSet [nothing? spec.bool, nothing? spec.float64, nothing? spec.int64, nothing? spec.number,
    nothing? spec.string, spec.list.map (·.elementType.objects),
    spec.map.map (·.elementType.objects), spec.set.map (·.elementType.objects),
    nothing? spec.listNested, nothing? spec.mapNested, nothing? spec.setNested,
    nothing? spec.singleNested,
    spec.object.map fun given => given.attributeTypes :: objectsInside given.attributeTypes] []

end Spec

namespace Schema

open Source (composite)

/-! ## Objects inside what is built -/

namespace ElementType

mutual

/-- The fields of all objects in an element type, at any depth. -/
def objects : ElementType → List Fields
  | primitive _ _ => []
  | collection _ element _ => element.objects
  | object fields _ => fields :: objectsInside fields

def objectsInside : Fields → List Fields
  | [] => []
  | (_, type) :: rest => type.objects ++ objectsInside rest

end

end ElementType

/-- The fields of all objects of typed fields in an attribute. -/
def Attribute.objects : Attribute → List Fields
  | collection _ _ element _ => element.objects
  | object _ fields _ _ => fields :: ElementType.objectsInside fields
  | _ => []

def Fields.BuiltFrom (specs : List Spec.ObjectField) (fields : Fields) : Prop :=
  Fields.build specs = .ok fields

/-! ## Element types -/

/-- Whether an element type, if it is built, has objects that are built from some lists. -/
private def ElementType.HasObjects (outcome : Except BuildError ElementType)
    (given : List (List Spec.ObjectField)) : Prop :=
  ∀ type, outcome = .ok type → List.Forall₂ Fields.BuiltFrom given type.objects

namespace ElementType

private theorem hasObjects_primitive (kind : PrimitiveKind) (spec : Option Spec.PrimitiveType) :
    Option.Rel HasObjects (buildPrimitive? kind spec) (nothing? spec) := by
  cases spec with
  | none => exact .none
  | some given =>
    refine .some fun type built => ?_
    cases built
    exact .nil

mutual

private theorem hasObjects_kinds (fault : BuildError) : ∀ spec : Spec.ElementType,
    HasObjects ((ElementKind.all.findSome? fun kind => buildKind? kind spec).getD
      (.error fault)) spec.objects
  | ⟨bool, float64, int64, number, string, list, map, set, fixed⟩ => by
    refine related_first ?_ nofun
    exact .cons (hasObjects_primitive _ bool) <| .cons (hasObjects_primitive _ float64) <|
      .cons (hasObjects_primitive _ int64) <| .cons (hasObjects_primitive _ number) <|
      .cons (hasObjects_primitive _ string) <| .cons (hasObjects_collection _ list) <|
      .cons (hasObjects_collection _ map) <| .cons (hasObjects_collection _ set) <|
      .cons (hasObjects_object fixed) .nil

private theorem hasObjects_collection (kind : CollectionKind) :
    ∀ spec : Option Spec.CollectionType,
      Option.Rel HasObjects (buildCollection? kind spec)
        (Spec.CollectionType.objects? spec)
  | none => .none
  | some ⟨element, custom⟩ => .some fun type built => by
    obtain ⟨inside, ofElement, result⟩ := bind_eq_ok.mp built
    cases result
    exact hasObjects_kinds .undefinedElement element inside ofElement

private theorem hasObjects_object : ∀ spec : Option Spec.ObjectType,
    Option.Rel HasObjects (buildObject? spec) (Spec.ObjectType.objects? spec)
  | none => .none
  | some ⟨specs, custom⟩ => .some fun type built => by
    obtain ⟨fields, ofFields, result⟩ := bind_eq_ok.mp built
    cases result
    exact .cons ofFields (hasObjects_fields specs fields ofFields)

private theorem hasObjects_fields : ∀ (specs : List Spec.ObjectField) (fields : Fields),
    buildFields specs = .ok fields →
      List.Forall₂ Fields.BuiltFrom (Spec.objectsInside specs) (objectsInside fields)
  | [], fields, built => by
    cases built
    exact .nil
  | ⟨name, kind⟩ :: rest, fields, built => by
    obtain ⟨type, ofFirst, built⟩ := bind_eq_ok.mp built
    obtain ⟨others, ofRest, result⟩ := bind_eq_ok.mp built
    cases result
    exact List.rel_append (hasObjects_kinds (.undefinedField name) kind type ofFirst)
      (hasObjects_fields rest others ofRest)

end

/-- The objects in an element type are built from those in its specification, one by one. -/
theorem objects_of_build {spec : Spec.ElementType} {type : ElementType}
    (built : ElementType.build spec = .ok type) :
    List.Forall₂ Fields.BuiltFrom spec.objects type.objects :=
  hasObjects_kinds .undefinedElement spec type built

end ElementType

/-! ## Attributes -/

/-- Whether an attribute, if it is built, has objects that are built from some lists. -/
private def Attribute.HasObjects (outcome : Except BuildError Attribute)
    (given : List (List Spec.ObjectField)) : Prop :=
  ∀ node, outcome = .ok node → List.Forall₂ Fields.BuiltFrom given node.objects

namespace Attribute

private theorem hasObjects_primitive {δ : Type} (kind : PrimitiveKind)
    (default : Option δ → Option Default) (spec : Option (Spec.PrimitiveAttribute δ)) :
    Option.Rel HasObjects (buildPrimitive? kind default spec) (nothing? spec) := by
  cases spec with
  | none => exact .none
  | some given =>
    refine .some fun node built => ?_
    cases built
    exact .nil

private theorem hasObjects_collection (kind : CollectionKind)
    (spec : Option Spec.CollectionAttribute) :
    Option.Rel HasObjects (buildCollection? kind spec) (spec.map (·.elementType.objects)) := by
  cases spec with
  | none => exact .none
  | some given =>
    refine .some fun node built => ?_
    obtain ⟨element, ofElement, result⟩ := bind_eq_ok.mp built
    cases result
    exact ElementType.objects_of_build ofElement

private theorem hasObjects_nested (kind : CollectionKind) (spec : Option Spec.NestedAttribute) :
    Option.Rel HasObjects (buildNested? kind spec) (nothing? spec) := by
  cases spec with
  | none => exact .none
  | some given =>
    rw [buildNested?_some]
    refine .some fun node built => ?_
    obtain ⟨attributes, -, result⟩ := bind_eq_ok.mp built
    cases result
    exact .nil

private theorem hasObjects_single (spec : Option Spec.SingleNestedAttribute) :
    Option.Rel HasObjects (buildSingle? spec) (nothing? spec) := by
  cases spec with
  | none => exact .none
  | some given =>
    rw [buildSingle?_some]
    refine .some fun node built => ?_
    obtain ⟨attributes, -, result⟩ := bind_eq_ok.mp built
    cases result
    exact .nil

private theorem hasObjects_object (spec : Option Spec.ObjectAttribute) :
    Option.Rel HasObjects (buildObject? spec)
      (spec.map fun given => given.attributeTypes :: Spec.objectsInside given.attributeTypes) := by
  cases spec with
  | none => exact .none
  | some given =>
    refine .some fun node built => ?_
    obtain ⟨fields, ofFields, result⟩ := bind_eq_ok.mp built
    cases result
    exact .cons ofFields (ElementType.hasObjects_fields given.attributeTypes fields ofFields)

/-- The objects of typed fields in an attribute are built from those in its specification, one by
one. -/
theorem objects_of_build {spec : Spec.Attribute} {node : Attribute}
    (built : Attribute.build spec = .ok node) :
    List.Forall₂ Fields.BuiltFrom spec.objects node.objects := by
  have each : HasObjects (Attribute.build spec) spec.objects := by
    obtain ⟨_, bool, float64, int64, number, string, list, map, set, listNested, mapNested,
      setNested, single, object⟩ := spec
    refine related_first ?_ nofun
    exact .cons (hasObjects_primitive _ _ bool) <| .cons (hasObjects_primitive _ _ float64) <|
      .cons (hasObjects_primitive _ _ int64) <| .cons (hasObjects_primitive _ _ number) <|
      .cons (hasObjects_primitive _ _ string) <| .cons (hasObjects_collection _ list) <|
      .cons (hasObjects_collection _ map) <| .cons (hasObjects_collection _ set) <|
      .cons (hasObjects_nested _ listNested) <| .cons (hasObjects_nested _ mapNested) <|
      .cons (hasObjects_nested _ setNested) <| .cons (hasObjects_single single) <|
      .cons (hasObjects_object object) .nil
  exact each node built

end Attribute

/-! ## Keys and plans -/

namespace Fields

/-- The types of fields by name, each under its key in the literal of types. -/
def typeEntries (fields : Fields) : List (String × String) :=
  NameMap.sorted (ElementType.expressions fields)

/-- The keys in the literal of types, in their order. -/
def keys (fields : Fields) : List String :=
  fields.typeEntries.map Prod.fst

theorem keys_perm (fields : Fields) : fields.keys.Perm (fields.map Prod.fst) := by
  have names : (ElementType.expressions fields).map Prod.fst = fields.map Prod.fst := by
    rw [ElementType.expressions_eq, List.map_map]
    rfl
  rw [← names]
  exact (NameMap.sorted_perm _).map Prod.fst

/-- Building keeps all fields, with repeated names too. -/
theorem names_of_build : ∀ {specs : List Spec.ObjectField} {fields : Fields},
    Fields.build specs = .ok fields → fields.map Prod.fst = specs.map (·.name)
  | [], _, built => by
    cases built
    rfl
  | ⟨name, kind⟩ :: rest, _, built => by
    obtain ⟨type, -, built⟩ := bind_eq_ok.mp built
    obtain ⟨others, ofRest, result⟩ := bind_eq_ok.mp built
    cases result
    exact congrArg (name :: ·) (names_of_build ofRest)

/-- Whether a plan has the names of some fields, each once, with the conversion of the last field of
the name. -/
structure KeptIn (fields : Fields) (planned : NameMap FieldPlan) : Prop where
  ordered : NameMap.Ordered planned
  names : ∀ name, name ∈ planned.names ↔ name ∈ fields.keys
  fewer : planned.length ≤ fields.keys.length
  all : planned.length = fields.keys.length ↔ fields.keys.Nodup
  last : ∀ entry ∈ planned, ∃ field, (NameMap.named fields entry.1).getLast? = some field ∧
    entry.2.attrType = field.2.expression

/-- What becomes of a list of fields, with names that may repeat: a literal with a key for each of
them, and a plan with what is kept of them if all of them convert. -/
structure Of (specs : List Spec.ObjectField) (fields : Fields) : Prop where
  built : Fields.build specs = .ok fields
  literal : fields.literal = attrTypesLiteral fields.typeEntries
  element : (ElementType.object fields none).expression = composite "types.ObjectType"
    ["AttrTypes: " ++ attrTypesLiteral fields.typeEntries ++ ","]
  keys : fields.keys.Perm (specs.map (·.name))
  distinct : fields.keys.Nodup ↔ (specs.map (·.name)).Nodup
  planned : ∀ direction subject plan, objectPlan direction fields subject = .ok plan →
    ∃ planned : NameMap FieldPlan, plan = .object planned ∧ fields.KeptIn planned

/-- An object is planned field by field, and a map keeps the last of one name. -/
theorem exists_planned {fields : Fields} {direction : Direction} {subject : String} {plan : Plan}
    (given : objectPlan direction fields subject = .ok plan) :
    ∃ planned : NameMap FieldPlan, plan = .object planned ∧ fields.KeptIn planned := by
  obtain ⟨parts, rfl, rfl⟩ := objectPlan_eq_ok_iff.mp given
  have keys : (Fields.keys (parts.map Part.asElement)).Perm (NameMap.names parts) :=
    (keys_perm _).trans (.of_eq (NameMap.names_map ConvertibleType.asElement parts))
  have planned : NameMap.names ((NameMap.ofList parts).map (Part.asField direction)) =
      (NameMap.ofList parts).names := NameMap.names_map (ConvertibleType.asField direction) _
  obtain ⟨fewer, same⟩ := NameMap.length_ofList parts
  have count : (Fields.keys (parts.map Part.asElement)).length = parts.length := by
    rw [keys.length_eq, NameMap.names, List.length_map]
  refine ⟨_, rfl, ?_, fun name => ?_, ?_, ?_, fun entry member => ?_⟩
  · rw [NameMap.Ordered, planned]
    exact NameMap.ordered_ofList parts
  · rw [planned, keys.mem_iff]
    exact NameMap.mem_names_ofList parts
  · rwa [List.length_map, count]
  · rwa [List.length_map, count, keys.nodup_iff]
  · obtain ⟨part, kept, rfl⟩ := List.mem_map.mp member
    have last := (NameMap.mem_ofList_iff parts).mp kept
    refine ⟨part.asElement, ?_, rfl⟩
    have ofName : NameMap.named (parts.map Part.asElement) part.1 =
        (NameMap.named parts part.1).map Part.asElement := NameMap.named_map ..
    exact (congrArg List.getLast? ofName).trans (by rw [List.getLast?_map, last]; rfl)

theorem of_build {specs : List Spec.ObjectField} {fields : Fields}
    (built : Fields.build specs = .ok fields) : fields.Of specs := by
  have keys : fields.keys.Perm (specs.map (·.name)) := by
    rw [← names_of_build built]
    exact fields.keys_perm
  refine ⟨built, rfl, ?_, keys, keys.nodup_iff, fun direction subject plan given => ?_⟩
  · rw [ElementType.expression]
    rfl
  · exact exists_planned given

end Fields

/-- No object loses a field if its fields have different names, and every object whose fields do not
is accepted all the same. For every element type and every attribute that is built, the objects of
typed fields in it, at any depth, are built from the lists of fields in the specification, one by
one. The literal that is written for such an object has a key for each field in the list, under the
field's name, so its keys are distinct if and only if the names in the list are. If the object
converts, its plan has exactly the names of these keys, each once, with the conversion of the last
field of the name: never more fields than the literal has keys, and as many if and only if no name
is given twice. -/
theorem objects_of_fields (element : Spec.ElementType) (spec : Spec.Attribute) :
    (∀ type, ElementType.build element = .ok type →
      List.Forall₂ (fun specs fields => Fields.Of specs fields) element.objects type.objects) ∧
    ∀ node, Attribute.build spec = .ok node →
      List.Forall₂ (fun specs fields => Fields.Of specs fields) spec.objects node.objects := by
  constructor
  · intro type built
    exact (ElementType.objects_of_build built).imp fun _ _ => Fields.of_build
  · intro node built
    exact (Attribute.objects_of_build built).imp fun _ _ => Fields.of_build

def textField (name : String) : Spec.ObjectField where
  name
  kind.string := some { customType := none }

def countField (name : String) : Spec.ObjectField where
  name
  kind.int64 := some { customType := none }

def objectOf (name : String) (fields : List Spec.ObjectField) : Spec.Attribute where
  name
  object := some { facets := {}, attributeTypes := fields, externalType := none, default := none }

/-- A list of objects with an object in each. -/
def routesSpec : Spec.Attribute where
  name := "routes"
  list := some {
    facets := {}
    elementType.object := some {
      customType := none
      attributeTypes := [countField "weight",
        { name := "target"
          kind.object := some {
            customType := none
            attributeTypes := [textField "host", countField "port"] } }] }
    default := none }

/-- An object inside another one, each with the names of its own fields in their order. -/
theorem routes_objects : ∃ node, Attribute.build routesSpec = .ok node ∧
    ∃ outer inner, node.objects = [outer, inner] ∧
      Fields.Of [countField "weight", { name := "target", kind.object := some {
        customType := none, attributeTypes := [textField "host", countField "port"] } }] outer ∧
      Fields.Of [textField "host", countField "port"] inner := by
  have built : Attribute.build routesSpec = .ok _ := rfl
  have each := (objects_of_fields {} routesSpec).2 _ built
  refine ⟨_, built, _, _, rfl, ?_⟩
  cases each with
  | cons outer rest =>
    cases rest with
    | cons inner none => exact ⟨outer, inner⟩

/-- An object with two fields of one name is accepted: the literal of its types has the name as a key
twice, and its plan only has the second field. -/
theorem twinFields_lost : ∃ fields,
    Attribute.build (objectOf "pair" [textField "a", countField "a"]) =
        .ok (.object (.ofAttribute {}) fields none none) ∧
      fields.keys = ["a", "a"] ∧
      objectPlan .ofNative fields "pair" =
        .ok (.object [("a", Conversion.ConvertibleType.asField .ofNative (.primitive .int64))]) := by
  refine ⟨[("a", .primitive .string none), ("a", .primitive .int64 none)], rfl, ?_, rfl⟩
  have names : (Fields.keys _).Perm (List.replicate 2 "a") :=
    Fields.keys_perm [("a", .primitive .string none), ("a", .primitive .int64 none)]
  exact List.perm_replicate.mp names

end Schema

end ProviderCodegen
