import Mathlib.Data.List.Nodup
import Mathlib.Data.List.Perm.Basic
import ProviderCodegen.Proofs.SourceLines
import ProviderCodegen.Proofs.Spec.RoundTrip

/-! # Names of declared types

All files of a run belong to one package, where no two types may have one name. Names of models, of
generated types and of their value types have different ends, so that only names of one sort can be
the same, and they are if what they are made from has the same form in Pascal case. Nothing rules
that out: only the attributes of one object, and its blocks, are known to have different names.
-/

namespace ProviderCodegen

open Schema (ResourceSchema ValueType)
open Source (structs typeName valueName)
open Text (pascalCase)

/-- The names of the nodes of a schema that types are generated for, in the order of the nodes. -/
def Schema.ResourceSchema.generatedNames (schema : ResourceSchema) : List String :=
  (schema.nodes.filter (·.2.generatesType)).map (·.1)

namespace NamedSchema

/-- The names of the types that the lines of the file declare. -/
def typeNames (entry : NamedSchema) (options : GenerateOptions) : List String :=
  (structs (entry.lines options)).map (·.name)

/-- A file declares the model, if it is asked for, and two types for each node that types are
generated for. -/
theorem typeNames_eq (entry : NamedSchema) (options : GenerateOptions) :
    entry.typeNames options =
      (if options.model then [ResourceSchema.modelName entry.name] else []) ++
        entry.schema.generatedNames.flatMap fun name => [typeName name, valueName name] := by
  have model : (if options.model then [entry.schema.modelStruct entry.name] else []).map (·.name) =
      if options.model then [ResourceSchema.modelName entry.name] else [] := by
    cases options.model <;> rfl
  have types : (entry.schema.valueTypes.flatMap ValueType.structs).map (·.name) =
      entry.schema.generatedNames.flatMap fun name => [typeName name, valueName name] := by
    rw [ResourceSchema.valueTypes_eq, ResourceSchema.generatedNames, List.flatMap_map,
      List.flatMap_map, List.map_flatMap]
    rfl
  rw [typeNames, lines, structs_sourceLines, List.map_append, model, types]

end NamedSchema

/-! ## Names that differ -/

section Names

variable {names others : List String}

/-- Names of models, types and value types differ by their ends. -/
private theorem sorts_apart (first second : String) :
    ResourceSchema.modelName first ≠ typeName second ∧
      ResourceSchema.modelName first ≠ valueName second ∧ typeName first ≠ valueName second := by
  refine ⟨?_, ?_, ?_⟩ <;> exact Text.append_ne_append (by decide) (by decide) _ _

private theorem disjoint_forms {form other : String → String} (apart : ∀ a b, form a ≠ other b) :
    List.Disjoint (names.map form) (others.map other) := by
  intro name inFirst inSecond
  obtain ⟨a, -, rfl⟩ := List.mem_map.mp inFirst
  obtain ⟨b, -, same⟩ := List.mem_map.mp inSecond
  exact apart a b same.symm

private theorem nodup_map_append (form : String → String) (ending : String) :
    (names.map (form · ++ ending)).Nodup ↔ (names.map form).Nodup := by
  have split : names.map (form · ++ ending) = (names.map form).map (· ++ ending) := by
    rw [List.map_map]
    rfl
  rw [split]
  exact List.nodup_map_iff fun a b same => (String.append_left_inj ending).mp same

private theorem types_perm (names : List String) :
    (names.map typeName ++ names.map valueName).Perm
      (names.flatMap fun name => [typeName name, valueName name]) := by
  have parts := List.map_append_flatMap_perm names typeName fun name => [valueName name]
  rwa [← List.map_eq_flatMap] at parts

/-- The types generated for names are different exactly if the names are in Pascal case. -/
private theorem nodup_types :
    (names.flatMap fun name => [typeName name, valueName name]).Nodup ↔
      (names.map pascalCase).Nodup := by
  have apart : List.Disjoint (names.map typeName) (names.map valueName) :=
    disjoint_forms fun a b => (sorts_apart a b).2.2
  have types : (names.map typeName).Nodup ↔ (names.map pascalCase).Nodup :=
    nodup_map_append pascalCase "Type"
  have values : (names.map valueName).Nodup ↔ (names.map pascalCase).Nodup :=
    nodup_map_append pascalCase "Value"
  rw [← (types_perm names).nodup_iff, List.nodup_append', types, values]
  exact ⟨And.left, fun nodup => ⟨nodup, nodup, apart⟩⟩

/-- No model has the name of a generated type. -/
private theorem disjoint_models :
    List.Disjoint (others.map ResourceSchema.modelName)
      (names.flatMap fun name => [typeName name, valueName name]) := by
  have types : List.Disjoint (others.map ResourceSchema.modelName) (names.map typeName) :=
    disjoint_forms fun a b => (sorts_apart a b).1
  have values : List.Disjoint (others.map ResourceSchema.modelName) (names.map valueName) :=
    disjoint_forms fun a b => (sorts_apart a b).2.1
  intro name inModels inTypes
  rcases List.mem_append.mp ((types_perm names).mem_iff.mpr inTypes) with isType | isValue
  · exact types inModels isType
  · exact values inModels isValue

end Names

/-! ## Names of a run -/

variable {spec : Specification} {options : GenerateOptions} {files : List GeneratedFile}

private theorem names_of {resources : List Spec.Resource} {entries : List NamedSchema}
    (of : List.Forall₂ NamedSchema.Of resources entries) :
    entries.map (·.name) = resources.map (·.name) := by
  induction of with
  | nil => rfl
  | cons first _ ih => rw [List.map_cons, List.map_cons, ih, first.name]

private theorem typeNames_perm (entries : List NamedSchema) (options : GenerateOptions) :
    ((if options.model then (entries.map (·.name)).map ResourceSchema.modelName else []) ++
      (entries.flatMap (·.schema.generatedNames)).flatMap fun name =>
        [typeName name, valueName name]).Perm
      (entries.flatMap (·.typeNames options)) := by
  have parts := List.flatMap_append_perm entries
    (fun entry => if options.model then [ResourceSchema.modelName entry.name] else [])
    fun entry => entry.schema.generatedNames.flatMap fun name => [typeName name, valueName name]
  have models : (entries.flatMap fun entry =>
      if options.model then [ResourceSchema.modelName entry.name] else []) =
      if options.model then (entries.map (·.name)).map ResourceSchema.modelName else [] := by
    cases options.model with
    | false => exact List.flatMap_eq_nil_iff.mpr fun _ _ => rfl
    | true =>
      simp only [if_true]
      rw [← List.map_eq_flatMap, List.map_map]
      rfl
  simp only [NamedSchema.typeNames_eq, List.flatMap_assoc]
  rwa [models] at parts

/-- Names of models, types and value types are never the same. So no two types that a successful run
declares have one name, if that is so for the names in Pascal case of the resources, as far as
models are asked for, and for those of all nodes, at any depth and in any resource, that types are
generated for. Otherwise a type is declared twice. -/
theorem generate_typeNames (generated : generate spec options = .ok files) :
    ∃ entries : List NamedSchema, List.Forall₂ NamedSchema.Of spec.resources entries ∧
      files = entries.map (·.file options) ∧
      (∀ entry ∈ entries, entry.typeNames options =
        (if options.model then [ResourceSchema.modelName entry.name] else []) ++
          entry.schema.generatedNames.flatMap fun name => [typeName name, valueName name]) ∧
      (∀ first second, ResourceSchema.modelName first ≠ typeName second ∧
        ResourceSchema.modelName first ≠ valueName second ∧ typeName first ≠ valueName second) ∧
      ((entries.flatMap (·.typeNames options)).Nodup ↔
        (options.model → (spec.resources.map (pascalCase ·.name)).Nodup) ∧
          ((entries.flatMap (·.schema.generatedNames)).map pascalCase).Nodup) := by
  obtain ⟨entries, of, rfl⟩ := generate_eq_ok generated
  refine ⟨entries, of, rfl, fun entry _ => entry.typeNames_eq options, sorts_apart, ?_⟩
  have resources : spec.resources.map (pascalCase ·.name) =
      (entries.map (·.name)).map pascalCase := by
    rw [names_of of, List.map_map]
    rfl
  have models : ((entries.map (·.name)).map ResourceSchema.modelName).Nodup ↔
      (spec.resources.map (pascalCase ·.name)).Nodup := by
    rw [resources]
    exact nodup_map_append pascalCase "Model"
  rw [← (typeNames_perm entries options).nodup_iff, List.nodup_append', nodup_types]
  cases options.model with
  | false =>
    simp only [Bool.false_eq_true, if_false, List.nodup_nil, false_implies, true_and]
    exact ⟨And.left, fun nodup => ⟨nodup, List.disjoint_nil_left _⟩⟩
  | true =>
    simp only [if_true, models, forall_const]
    exact ⟨fun distinct => ⟨distinct.1, distinct.2.1⟩,
      fun distinct => ⟨distinct.1, distinct.2, disjoint_models⟩⟩

def objectSpec (name : String) (attributes : List Spec.Attribute) : Spec.Attribute where
  name
  singleNested := some { facets := {}, attributes, externalType := none, default := none }

/-- Two objects, each with objects of the given names inside. -/
def rulesSpec (inSource inTarget : String) : Specification where
  version := "0.1"
  resources := [{
    name := "rule"
    schema := { attributes := [
      objectSpec "source" [objectSpec inSource []],
      objectSpec "target" [objectSpec inTarget []]] } }]

/-- The types for objects with different names have different names. -/
theorem typeNames_rulesSpec :
    ∃ files entries, generate (rulesSpec "address" "port") {} = .ok files ∧
      List.Forall₂ NamedSchema.Of (rulesSpec "address" "port").resources entries ∧
      (entries.flatMap (·.typeNames {})).Nodup := by
  obtain ⟨entries, of, -, -, -, nodup⟩ := generate_typeNames
    (show generate (rulesSpec "address" "port") {} = .ok _ from rfl)
  have same : entries = [⟨"rule", _⟩] := NamedSchema.forall₂_unique of (.cons ⟨rfl, rfl⟩ .nil)
  refine ⟨_, entries, rfl, of, nodup.mpr ⟨fun _ => by decide, ?_⟩⟩
  rw [same]
  decide

/-- An accepted specification with two objects of one name, inside different objects, for which two
types are declared twice. -/
theorem typeNames_repeat :
    ∃ files entry,
      Specification.parse .json (rulesSpec "address" "address").toJson =
        .ok (rulesSpec "address" "address") ∧
      generate (rulesSpec "address" "address") {} = .ok files ∧
      List.Forall₂ NamedSchema.Of (rulesSpec "address" "address").resources [entry] ∧
      files = [entry.file {}] ∧
      entry.typeNames {} =
        ["RuleModel", "SourceType", "SourceValue", "AddressType", "AddressValue", "TargetType",
         "TargetValue", "AddressType", "AddressValue"] ∧
      ¬ (entry.typeNames {}).Nodup := by
  have parsed : Specification.parse .json (rulesSpec "address" "address").toJson =
      .ok (rulesSpec "address" "address") :=
    Specification.parse_toJson_of_check (by decide) (by decide) rfl
  have generated : generate (rulesSpec "address" "address") {} = .ok _ := rfl
  obtain ⟨entries, of, made⟩ := generate_eq_ok generated
  obtain rfl : entries = [⟨"rule", _⟩] := NamedSchema.forall₂_unique of (.cons ⟨rfl, rfl⟩ .nil)
  refine ⟨_, _, parsed, generated, of, made, ?_⟩
  rw [NamedSchema.typeNames_eq]
  decide

end ProviderCodegen
