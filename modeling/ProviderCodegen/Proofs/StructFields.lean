import Mathlib.Data.List.Nodup
import ProviderCodegen.Proofs.Schema.MethodCalls
import ProviderCodegen.Proofs.SourceLines
import ProviderCodegen.Proofs.Spec.RoundTrip

/-! # Fields and methods of generated structs

The fields of a struct are named after attributes and blocks of one object. Names of attributes
differ from each other, and so do names of blocks, but an attribute may share its name with a block,
and names that differ may have one form in Pascal case. So the fields of a struct are different
exactly if the case conversion keeps the names of the object apart. The field for the state is never
the same as another, but a field may have the name of a method of its type.
-/

namespace ProviderCodegen

open Conversion (ConversionMethods FieldText)
open Schema (Attributes Blocks Node ResourceSchema ValueType)
open Source (Line methods structs valueName)
open Text (isWord isWord_append isWord_pascalCase pascalCase)

/-! ## Names that are kept apart -/

/-- Whether the names of the attributes and blocks of one object give different fields: no two names
of attributes and no two names of blocks have one form in Pascal case, and neither have a name of an
attribute and one of a block. -/
structure KeepsApart (attributes blocks : List String) : Prop where
  inAttributes : ∀ a ∈ attributes, ∀ b ∈ attributes, pascalCase a = pascalCase b → a = b
  inBlocks : ∀ a ∈ blocks, ∀ b ∈ blocks, pascalCase a = pascalCase b → a = b
  between : ∀ a ∈ attributes, ∀ b ∈ blocks, pascalCase a ≠ pascalCase b

/-- Names of attributes may clash with those of blocks, since both make fields of one struct. -/
theorem nodup_pascalCase_iff {attributes blocks : List String} (distinct : attributes.Nodup)
    (others : blocks.Nodup) :
    ((attributes ++ blocks).map pascalCase).Nodup ↔ KeepsApart attributes blocks := by
  rw [List.map_append, List.nodup_append, List.nodup_map_iff_inj_on distinct,
    List.nodup_map_iff_inj_on others]
  constructor
  · rintro ⟨inAttributes, inBlocks, between⟩
    refine ⟨inAttributes, inBlocks, fun a isAttribute b isBlock => ?_⟩
    exact between _ (List.mem_map_of_mem isAttribute) _ (List.mem_map_of_mem isBlock)
  · intro apart
    refine ⟨apart.inAttributes, apart.inBlocks, fun first isFirst second isSecond => ?_⟩
    obtain ⟨a, isAttribute, rfl⟩ := List.mem_map.mp isFirst
    obtain ⟨b, isBlock, rfl⟩ := List.mem_map.mp isSecond
    exact apart.between a isAttribute b isBlock

/-- No field is named like the field for the state. -/
theorem state_notMem_pascalCase (names : List String) : "state" ∉ names.map pascalCase := by
  intro member
  obtain ⟨name, -, same⟩ := List.mem_map.mp member
  have head := Text.isHeadChar_pascalCase name 's' (by rw [same]; rfl)
  cases head

/-- No name in Pascal case is that of the state, which starts with a small letter. -/
theorem nodup_append_state (names : List String) :
    (names.map pascalCase ++ ["state"]).Nodup ↔ (names.map pascalCase).Nodup := by
  rw [List.nodup_append']
  have apart : List.Disjoint (names.map pascalCase) ["state"] :=
    List.disjoint_singleton.mpr (state_notMem_pascalCase names)
  exact ⟨And.left, fun nodup => ⟨nodup, List.nodup_singleton _, apart⟩⟩

theorem names_namedNodes (attributes : Attributes) (blocks : Blocks) :
    (Schema.namedNodes attributes blocks).map (·.1) =
      NameMap.names attributes ++ NameMap.names blocks := by
  rw [Schema.namedNodes, List.map_append, List.map_map, List.map_map]
  rfl

namespace Schema.Node

variable {node : Node}

/-- The names that the fields of the value type of a node are made from: those of its typed fields,
or those of what is inside. -/
def fieldNames (node : Node) : List String :=
  node.valueFields.map (·.name)

/-- Whether the fields of the value type of a node are different: for an object of typed fields
their names are in Pascal case, for another the names of what is inside are kept apart. -/
def KeepsFieldsApart : Node → Prop
  | attr (.object _ fields _ _) => (fields.map (pascalCase ·.1)).Nodup
  | node => KeepsApart node.attributes.names node.blocks.names

/-- The fields of a value type are different exactly if the names they are made from are kept
apart. -/
theorem nodup_fieldNames (attributes : node.attributes.Ordered) (blocks : node.blocks.Ordered) :
    (node.fieldNames.map pascalCase).Nodup ↔ node.KeepsFieldsApart := by
  have inside (given : node.fieldNames = node.children.map (·.1)) :
      (node.fieldNames.map pascalCase).Nodup ↔
        KeepsApart node.attributes.names node.blocks.names := by
    rw [given, children, names_namedNodes]
    exact nodup_pascalCase_iff attributes.nodup_names blocks.nodup_names
  cases node with
  | block node => exact inside List.map_map
  | attr node =>
    cases node with
    | primitive => exact inside List.map_map
    | collection => exact inside List.map_map
    | nested => exact inside List.map_map
    | singleNested => exact inside List.map_map
    | object facets fields external default =>
      have names : (fieldNames (.attr (.object facets fields external default))).map pascalCase =
          (NameMap.sorted fields).map (pascalCase ·.1) := by
        rw [fieldNames, valueFields, Fields.valueFields, List.map_map, List.map_map]
        rfl
      rw [names]
      exact ((List.mergeSort_perm fields _).map _).nodup_iff

end Schema.Node

/-! ## Methods of value types -/

/-- The names of the methods that lines declare on a type. -/
def Source.methodsOn (receiver : String) (lines : List Line) : List String :=
  ((methods lines).filter (·.receiver = receiver)).map (·.name)

namespace NamedSchema

/-- The pairs of conversion methods of a file with a type as their receiver. -/
def conversionsOf (entry : NamedSchema) (options : GenerateOptions) (receiver : String) :
    List ConversionMethods :=
  if options.conversions then entry.schema.methods.filter (·.receiver = receiver) else []

/-- The names of the methods that a file declares on a type: those that the lines of its generated
types declare, and conversions. As a receiver may be any text given as a custom type, conversions
are taken by their receivers before their lines are read. -/
def methodsOn (entry : NamedSchema) (options : GenerateOptions) (receiver : String) : List String :=
  (entry.schema.valueTypes.flatMap fun type => Source.methodsOn receiver type.lines) ++
    (entry.conversionsOf options receiver).flatMap fun pair => Source.methodsOn receiver pair.lines

end NamedSchema

namespace Conversion.ConversionMethods

/-- The names of a pair of conversion methods. -/
def names (pair : ConversionMethods) : List String :=
  ["To" ++ suffix pair.external, "From" ++ suffix pair.external]

/-- A method with a name made from the external type. -/
private theorem methods_converting {receiver start : String} (word : isWord receiver = true)
    (named : isWord start = true) (external : Spec.ExternalType) (rest : String)
    (body : List Line) :
    methods (Source.function
        ("(v " ++ receiver ++ ") " ++ (start ++ suffix external ++ "(" ++ rest)) body) =
      [{ receiver, name := start ++ suffix external }] := by
  have whole : isWord (start ++ suffix external) = true := by
    rw [isWord_append, named, suffix, Source.ExternalName.pascal, isWord_pascalCase]
    rfl
  rw [methods_receiver word rfl (by decide), signatureName_append whole]

private theorem methods_toNativeLines {receiver : String} (word : isWord receiver = true)
    (external : Spec.ExternalType) (fields : List FieldText) :
    methods (toNativeLines receiver external fields) =
      [{ receiver, name := "To" ++ suffix external }] := by
  have signature : "(v " ++ receiver ++ ") To" ++ suffix external ++ "(ctx context.Context) (" ++
        external.type ++ ", diag.Diagnostics)" =
      "(v " ++ receiver ++ ") " ++ ("To" ++ suffix external ++ "(" ++
        ("ctx context.Context) (" ++ external.type ++ ", diag.Diagnostics)")) := by
    rw [show ") To" = ") " ++ "To" from rfl,
      show "(ctx context.Context) (" = "(" ++ "ctx context.Context) (" from rfl]
    simp only [String.append_assoc]
  exact (congrArg (fun text => methods (Source.function text _)) signature).trans
    (methods_converting word rfl external _ _)

private theorem methods_ofNativeLines {receiver : String} (word : isWord receiver = true)
    (external : Spec.ExternalType) (fields : List FieldText) :
    methods (ofNativeLines receiver external fields) =
      [{ receiver, name := "From" ++ suffix external }] := by
  have signature : "(v " ++ receiver ++ ") From" ++ suffix external ++
        "(ctx context.Context, apiObject " ++ external.type ++ ") (" ++ receiver ++
        ", diag.Diagnostics)" =
      "(v " ++ receiver ++ ") " ++ ("From" ++ suffix external ++ "(" ++
        ("ctx context.Context, apiObject " ++ external.type ++ ") (" ++ receiver ++
          ", diag.Diagnostics)")) := by
    rw [show ") From" = ") " ++ "From" from rfl,
      show "(ctx context.Context, apiObject " = "(" ++ "ctx context.Context, apiObject " from rfl]
    simp only [String.append_assoc]
  exact (congrArg (fun text => methods (Source.function text _)) signature).trans
    (methods_converting word rfl external _ _)

/-- The lines of a pair declare its two methods. -/
theorem methods_lines {pair : ConversionMethods} (word : isWord pair.receiver = true) :
    methods pair.lines = pair.names.map fun name => { receiver := pair.receiver, name } := by
  rw [lines, Source.methods_paragraphs, List.flatMap_cons, List.flatMap_singleton,
    methods_toNativeLines word, methods_ofNativeLines word]
  rfl

end Conversion.ConversionMethods

namespace NamedSchema

variable {entry : NamedSchema} {options : GenerateOptions} {name method : String}

/-- Methods of one type are those on their own type. -/
private theorem methodsOn_map {receiver other : String} (names : List String) :
    ((names.map fun name => ({ receiver := other, name } : Source.Method)).filter
      (·.receiver = receiver)).map (·.name) = if other = receiver then names else [] := by
  split_ifs with same
  · rw [List.filter_eq_self.mpr, List.map_map]
    · exact List.map_id' names
    · intro given member
      obtain ⟨name, -, rfl⟩ := List.mem_map.mp member
      exact decide_eq_true same
  · rw [List.filter_eq_nil_iff.mpr]
    · rfl
    · intro given member
      obtain ⟨name, -, rfl⟩ := List.mem_map.mp member
      simpa using same

private theorem mem_methodsOn_type {type : ValueType} :
    method ∈ Source.methodsOn (valueName name) type.lines ↔
      type.valueName = valueName name ∧ method ∈ ValueType.valueMethods := by
  have other : type.typeName ≠ valueName name :=
    Text.append_ne_append (by decide) (by decide) _ _
  rw [Source.methodsOn, ValueType.methods_lines, List.filter_append, List.map_append, methodsOn_map,
    methodsOn_map, if_neg other, List.nil_append]
  split_ifs with same
  · exact ⟨fun member => ⟨same, member⟩, And.right⟩
  · exact ⟨fun member => absurd member List.not_mem_nil, fun both => absurd both.1 same⟩

private theorem methodsOn_pair {pair : ConversionMethods} (same : pair.receiver = valueName name) :
    Source.methodsOn (valueName name) pair.lines = pair.names := by
  have word : isWord pair.receiver = true := by
    rw [same, valueName, isWord_append, isWord_pascalCase]
    rfl
  rw [Source.methodsOn, ConversionMethods.methods_lines word, methodsOn_map, if_pos same]

theorem receiver_of_mem_conversionsOf {pair : ConversionMethods} {receiver : String}
    (member : pair ∈ entry.conversionsOf options receiver) : pair.receiver = receiver := by
  rw [conversionsOf] at member
  split_ifs at member
  · exact of_decide_eq_true (List.mem_filter.mp member).2
  · exact absurd member List.not_mem_nil

/-- A file declares on a value type the methods of all its generated value types with that name, and
the conversions with that receiver. -/
theorem mem_methodsOn :
    method ∈ entry.methodsOn options (valueName name) ↔
      ((∃ type ∈ entry.schema.valueTypes, type.valueName = valueName name) ∧
        method ∈ ValueType.valueMethods) ∨
      ∃ pair ∈ entry.conversionsOf options (valueName name), method ∈ pair.names := by
  rw [methodsOn, List.mem_append, List.mem_flatMap, List.mem_flatMap]
  simp only [mem_methodsOn_type]
  constructor
  · rintro (⟨type, member, same, listed⟩ | ⟨pair, member, listed⟩)
    · exact .inl ⟨⟨type, member, same⟩, listed⟩
    · rw [methodsOn_pair (receiver_of_mem_conversionsOf member)] at listed
      exact .inr ⟨pair, member, listed⟩
  · rintro (⟨⟨type, member, same⟩, listed⟩ | ⟨pair, member, listed⟩)
    · exact .inl ⟨type, member, same, listed⟩
    · refine .inr ⟨pair, member, ?_⟩
      rwa [methodsOn_pair (receiver_of_mem_conversionsOf member)]

end NamedSchema

/-! ## Structs of a run -/

namespace Schema.Node

/-- The struct of the value type generated for a node. -/
def valueStruct (name : String) (node : Node) : Source.Struct where
  name := valueName name
  fields := node.fieldNames.map pascalCase ++ ["state"]

/-- Whether no field of the value type of a node has the name of a method: neither of one that every
value type has nor of a conversion. -/
def AvoidsMethods (node : Node) (conversions : List ConversionMethods) : Prop :=
  ∀ name ∈ node.fieldNames, pascalCase name ∉ ValueType.valueMethods ∧
    ∀ pair ∈ conversions, pascalCase name ∉ pair.names

end Schema.Node

variable {spec : Specification} {options : GenerateOptions} {files : List GeneratedFile}

private theorem structs_of_nodes (schema : ResourceSchema) :
    schema.valueTypes.flatMap ValueType.structs =
      (schema.nodes.filter (·.2.generatesType)).flatMap fun (name, node) =>
        [{ name := Source.typeName name, fields := ["basetypes.ObjectType"] },
         node.valueStruct name] := by
  have fields (node : Node) :
      node.valueFields.map Schema.ValueField.goName = node.fieldNames.map pascalCase := by
    rw [Node.fieldNames, List.map_map]
    rfl
  rw [ResourceSchema.valueTypes_eq, List.flatMap_map]
  refine List.flatMap_congr fun entry _ => ?_
  obtain ⟨name, node⟩ := entry
  change ValueType.structs { name, fields := node.valueFields } = _
  rw [ValueType.structs, fields]
  rfl

/-- The methods that the files of a run declare on the value type of a node with a generated
type. -/
private theorem mem_methods_of_run {entries : List NamedSchema} {entry : NamedSchema}
    {inside : String × Node} {method : String} (member : entry ∈ entries)
    (listed : inside ∈ entry.schema.nodes) (generates : inside.2.generatesType = true) :
    method ∈ entries.flatMap (·.methodsOn options (valueName inside.1)) ↔
      method ∈ ValueType.valueMethods ∨
        ∃ pair ∈ entries.flatMap (·.conversionsOf options (valueName inside.1)),
          method ∈ pair.names := by
  have declared : ∃ type ∈ entry.schema.valueTypes, type.valueName = valueName inside.1 := by
    rw [ResourceSchema.valueTypes_eq]
    exact ⟨_, List.mem_map_of_mem (List.mem_filter.mpr ⟨listed, generates⟩), rfl⟩
  rw [List.mem_flatMap]
  simp only [NamedSchema.mem_methodsOn, List.mem_flatMap]
  constructor
  · rintro ⟨other, isEntry, ⟨-, fixed⟩ | ⟨pair, isPair, named⟩⟩
    · exact .inl fixed
    · exact .inr ⟨pair, ⟨other, isEntry, isPair⟩, named⟩
  · rintro (fixed | ⟨pair, ⟨other, isEntry, isPair⟩, named⟩)
    · exact ⟨entry, member, .inl ⟨declared, fixed⟩⟩
    · exact ⟨other, isEntry, .inr ⟨pair, isPair, named⟩⟩

/-- No method is named like the field for the state. -/
private theorem state_notMem_names (pair : ConversionMethods) : "state" ∉ pair.names := by
  have starts (start : String) (head : start.toList.head? ≠ some 's') (given : start.toList ≠ []) :
      "state" ≠ start ++ ConversionMethods.suffix pair.external := by
    intro same
    apply head
    rw [← List.head?_append_of_ne_nil _ given, ← String.toList_append, ← same]
    rfl
  intro member
  rcases List.mem_pair.mp member with same | same
  · exact starts "To" (by decide) (by decide) same
  · exact starts "From" (by decide) (by decide) same

/-- What makes the structs of a successful run well formed. The fields of a model are different
exactly if the names at the top are kept apart, the fields of a value struct exactly if those inside
its object are. A field has the name of a method of its type, in whatever file of the package that
is, exactly if its name in Pascal case is that of a method of all value types or of a conversion. -/
theorem generate_structs (generated : generate spec options = .ok files) :
    ∃ entries : List NamedSchema, List.Forall₂ NamedSchema.Of spec.resources entries ∧
      files = entries.map (·.file options) ∧
      ∀ entry ∈ entries,
        structs (entry.lines options) =
          (if options.model then [entry.schema.modelStruct entry.name] else []) ++
            (entry.schema.nodes.filter (·.2.generatesType)).flatMap (fun (name, node) =>
              [{ name := Source.typeName name, fields := ["basetypes.ObjectType"] },
               node.valueStruct name]) ∧
        ((entry.schema.modelStruct entry.name).fields.Nodup ↔
          KeepsApart entry.schema.attributes.names entry.schema.blocks.names) ∧
        ∀ inside ∈ entry.schema.nodes, inside.2.generatesType →
          ((inside.2.valueStruct inside.1).fields.Nodup ↔ inside.2.KeepsFieldsApart) ∧
          ((∀ field ∈ (inside.2.valueStruct inside.1).fields,
              field ∉ entries.flatMap (·.methodsOn options (valueName inside.1))) ↔
            inside.2.AvoidsMethods
              (entries.flatMap (·.conversionsOf options (valueName inside.1)))) := by
  obtain ⟨entries, of, rfl⟩ := generate_eq_ok generated
  refine ⟨entries, of, rfl, fun entry member => ?_⟩
  obtain ⟨resource, -, made⟩ := NamedSchema.exists_resource of member
  obtain ⟨inside, below⟩ := ResourceSchema.build_eq_ok made.built
  refine ⟨?_, ?_, fun named listed generates => ⟨?_, ?_⟩⟩
  · rw [NamedSchema.lines, structs_sourceLines, structs_of_nodes]
  · have names : (entry.schema.modelStruct entry.name).fields =
        (entry.schema.attributes.names ++ entry.schema.blocks.names).map pascalCase := by
      rw [← names_namedNodes, List.map_map]
      rfl
    rw [names]
    exact nodup_pascalCase_iff (Attributes.ordered_of_build inside).nodup_names
      (Blocks.ordered_of_build below).nodup_names
  · obtain ⟨attributes, blocks⟩ := ResourceSchema.ordered_nodes made.built named listed
    rw [Node.valueStruct, nodup_append_state]
    exact Node.nodup_fieldNames attributes blocks
  · simp only [Node.valueStruct, List.forall_mem_append, List.forall_mem_map,
      List.forall_mem_singleton, mem_methods_of_run member listed generates, not_or, not_exists,
      not_and]
    constructor
    · intro avoids name isName
      exact avoids.1 name isName
    · intro avoids
      exact ⟨avoids, by decide, fun pair _ => state_notMem_names pair⟩

def textSpec (name : String) : Spec.Attribute where
  name
  string := some { facets := {}, default := none }

/-- A resource with a text and a block, which holds a text. -/
def partsSpec (text block inside : String) : Specification where
  version := "0.1"
  resources := [{
    name := "rule"
    schema := {
      attributes := [textSpec text]
      blocks := [{ name := block, singleNested := some ⟨{}, [textSpec inside], [], none⟩ }] } }]

/-- The structs for different names that no methods have are well formed. -/
theorem structs_partsSpec :
    ∃ files entries, generate (partsSpec "owner" "target" "port") {} = .ok files ∧
      List.Forall₂ NamedSchema.Of (partsSpec "owner" "target" "port").resources entries ∧
      ∀ entry ∈ entries, (entry.schema.modelStruct entry.name).fields.Nodup := by
  obtain ⟨entries, of, -, structs⟩ := generate_structs
    (show generate (partsSpec "owner" "target" "port") {} = .ok _ from rfl)
  have same : entries = [⟨"rule", _⟩] := NamedSchema.forall₂_unique of (.cons ⟨rfl, rfl⟩ .nil)
  refine ⟨_, entries, rfl, of, fun entry member => (structs entry member).2.1.mpr ?_⟩
  rw [same] at member
  rw [List.mem_singleton.mp member]
  exact ⟨by decide, by decide, by decide⟩

/-- An accepted specification with an attribute and a block of one name, so that the model has two
fields of one name, and with a field that has the name of a method of its type. -/
theorem structs_clash :
    ∃ files entry,
      Specification.parse .json (partsSpec "target" "target" "type").toJson =
        .ok (partsSpec "target" "target" "type") ∧
      generate (partsSpec "target" "target" "type") {} = .ok files ∧
      List.Forall₂ NamedSchema.Of (partsSpec "target" "target" "type").resources [entry] ∧
      files = [entry.file {}] ∧
      structs (entry.lines {}) =
        [{ name := "RuleModel", fields := ["Target", "Target"] },
         { name := "TargetType", fields := ["basetypes.ObjectType"] },
         { name := "TargetValue", fields := ["Type", "state"] }] ∧
      "Type" ∈ entry.methodsOn {} "TargetValue" := by
  have parsed : Specification.parse .json (partsSpec "target" "target" "type").toJson =
      .ok (partsSpec "target" "target" "type") :=
    Specification.parse_toJson_of_check (by decide) (by decide) rfl
  have generated : generate (partsSpec "target" "target" "type") {} = .ok _ := rfl
  obtain ⟨entries, of, made⟩ := generate_eq_ok generated
  obtain rfl : entries = [⟨"rule", _⟩] := NamedSchema.forall₂_unique of (.cons ⟨rfl, rfl⟩ .nil)
  refine ⟨_, _, parsed, generated, of, made, ?_, ?_⟩
  · rw [NamedSchema.lines, structs_sourceLines]
    decide
  · have named : "TargetValue" = valueName "target" := by decide
    rw [named]
    exact NamedSchema.mem_methodsOn.mpr (.inl ⟨⟨_, List.mem_singleton_self _, rfl⟩, by decide⟩)

end ProviderCodegen
