import ProviderCodegen.Proofs.ImportBlock
import ProviderCodegen.Proofs.Schema.GeneratedTypes
import ProviderCodegen.Proofs.Source.Declared
import ProviderCodegen.Proofs.Text.Pascal

/-! # The lines of a file

A file is the text of `sourceLines`, in which the schema function and the fields of structs keep the
line breaks of their own. From these lines it is read which structs the file declares
(`structs_sourceLines`) and which methods its generated types have (`methods_lines`).
-/

namespace ProviderCodegen

open Conversion (ConversionMethods FieldCode)
open Schema (ModelField ResourceSchema ValueField ValueType)
open Source (Line Method Struct block enclosed firstWord function line methods
  methods_function_of_head methods_function_of_receiver methods_paragraphs paragraphs renderLines
  spaced structs structs_enclosed structs_function structs_paragraphs structs_struct
  typeName?_of_head?)

/-! ## Texts of lines -/

namespace Source

variable {first second : List Line}

/-- Empty lists of lines are excluded, since they would leave a line break behind. -/
theorem renderLines_append (nonempty : first ≠ []) (more : second ≠ []) :
    renderLines (first ++ second) = renderLines first ++ "\n" ++ renderLines second := by
  rw [renderLines, List.map_append, String.intercalate_append_of_ne_nil]
  · rfl
  · exact fun none => nonempty (List.map_eq_nil_iff.mp none)
  · exact fun none => more (List.map_eq_nil_iff.mp none)

theorem paragraphs_ne_nil {all : List (List Line)} (first : List Line) (nonempty : first ≠ []) :
    paragraphs (first :: all) ≠ [] :=
  List.append_ne_nil_of_left_ne_nil nonempty _

/-- Paragraphs stand with a blank line between them. -/
theorem renderLines_paragraphs {all : List (List Line)} (nonempty : ∀ lines ∈ all, lines ≠ []) :
    renderLines (paragraphs all) = "\n\n".intercalate (all.map renderLines) := by
  induction all with
  | nil => rfl
  | cons first rest ih =>
    obtain ⟨here, later⟩ := List.forall_mem_cons.mp nonempty
    cases rest with
    | nil => rw [List.map_singleton, String.intercalate_singleton, paragraphs, spaced,
        List.flatMap_nil, List.append_nil]
    | cons second rest =>
      have split : paragraphs (first :: second :: rest) =
          first ++ ([.blank] ++ paragraphs (second :: rest)) := rfl
      have more : paragraphs (second :: rest) ≠ [] :=
        paragraphs_ne_nil second (later second (List.mem_cons_self ..))
      have blank : renderLines ([.blank] ++ paragraphs (second :: rest)) =
          "\n" ++ "\n\n".intercalate ((second :: rest).map renderLines) := by
        rw [renderLines_append (List.cons_ne_nil _ _) more, ih later]
        exact congrArg (· ++ _) String.empty_append
      have blanks (after : String) : "\n" ++ ("\n" ++ after) = "\n\n" ++ after :=
        String.append_assoc.symm
      have ending : "\n\n".intercalate ((first :: second :: rest).map renderLines) =
          renderLines first ++ "\n\n" ++ "\n\n".intercalate ((second :: rest).map renderLines) :=
        String.intercalate_cons_cons
      have behind : [.blank] ++ paragraphs (second :: rest) ≠ [] := List.cons_ne_nil _ _
      rw [split, renderLines_append here behind, blank, ending, String.append_assoc,
        String.append_assoc, blanks]

end Source

/-! ## The lines of a file -/

def Schema.ResourceSchema.modelLines (schema : ResourceSchema) (name : String) : List Line :=
  block ("type " ++ Text.pascalCase name ++ "Model struct")
    ((schema.modelFields.map ModelField.declaration).map line)

def Conversion.ConversionMethods.lines (pair : ConversionMethods) : List Line :=
  paragraphs
    [Conversion.toNativeLines pair.receiver pair.external (pair.toNative.map FieldCode.render),
     Conversion.ofNativeLines pair.receiver pair.external (pair.ofNative.map FieldCode.render)]

def sectionLines (schema : ResourceSchema) (name : String) (options : GenerateOptions) :
    List (List Line) :=
  [[line (schema.function name)]] ++
  (if options.model then [schema.modelLines name] else []) ++
  schema.valueTypes.map ValueType.lines ++
  (if options.conversions then schema.methods.map ConversionMethods.lines else [])

/-- What is in front of the parts of a file. -/
def headerLines (package : String) (imports : Source.ImportSet) : List (List Line) :=
  [[line "// Code generated by tfcg. DO NOT EDIT."], [line ("package " ++ package)],
   enclosed "import (" ")" (imports.lines.map line)]

def sourceLines (schema : ResourceSchema) (name : String) (options : GenerateOptions) : List Line :=
  paragraphs <|
    headerLines options.package (usedImports schema (sections schema name options)) ++
      sectionLines schema name options

variable {schema : ResourceSchema} {name : String} {options : GenerateOptions}

private theorem renderLines_line (text : String) : renderLines [line text] = text := by
  rw [renderLines, List.map_singleton, String.intercalate_singleton]
  exact String.empty_append

theorem sections_eq :
    sections schema name options = (sectionLines schema name options).map renderLines := by
  have model : schema.model name = renderLines (schema.modelLines name) := by
    rw [ResourceSchema.model, ResourceSchema.modelLines, List.map_map]
    rfl
  have types : schema.valueTypes.map ValueType.render =
      (schema.valueTypes.map ValueType.lines).map renderLines := by
    rw [List.map_map]
    exact List.map_congr_left fun type _ => by rw [ValueType.render, Function.comp_apply]
  have pairs : schema.methods.map ConversionMethods.render =
      (schema.methods.map ConversionMethods.lines).map renderLines := by
    rw [List.map_map]
    exact List.map_congr_left fun pair _ => by
      rw [ConversionMethods.render, Conversion.methodsText, Function.comp_apply,
        ConversionMethods.lines]
  simp only [sections, sectionLines, List.map_append, List.map_singleton, renderLines_line, model,
    types, pairs]
  cases options.model <;> cases options.conversions <;> rfl

private theorem sectionLines_ne_nil : ∀ lines ∈ sectionLines schema name options, lines ≠ [] := by
  intro lines member
  simp only [sectionLines, List.mem_append, List.mem_singleton, List.mem_map] at member
  rcases member with ((rfl | isModel) | ⟨type, -, rfl⟩) | isPair
  · exact List.cons_ne_nil _ _
  · split_ifs at isModel
    · rw [List.mem_singleton.mp isModel]
      exact List.cons_ne_nil _ _
    · cases isModel
  · exact List.cons_ne_nil _ _
  · split_ifs at isPair
    · obtain ⟨pair, -, rfl⟩ := List.mem_map.mp isPair
      exact List.cons_ne_nil _ _
    · cases isPair

/-- The content of a file is the text of its lines. -/
theorem sourceFile_sections :
    sourceFile options.package (usedImports schema (sections schema name options))
      (sections schema name options) = renderLines (sourceLines schema name options) ++ "\n" := by
  have header : ∀ lines ∈ headerLines options.package (usedImports schema
      (sections schema name options)), lines ≠ [] := by
    intro lines member
    simp only [headerLines, List.mem_cons, List.not_mem_nil, or_false] at member
    rcases member with rfl | rfl | rfl <;> exact List.cons_ne_nil _ _
  have texts : ((sections schema name options).map fun part => [line part]).map renderLines =
      (sectionLines schema name options).map renderLines := by
    rw [List.map_map, ← sections_eq]
    exact List.map_id'' renderLines_line _
  rw [sourceFile, sourceLines, Source.renderLines_paragraphs, Source.renderLines_paragraphs]
  · rw [List.map_append, texts, ← List.map_append]
    rfl
  · intro lines member
    exact (List.mem_append.mp member).elim (header lines) (sectionLines_ne_nil lines)
  · intro lines member
    rcases List.mem_append.mp member with member | member
    · exact header lines member
    · obtain ⟨part, -, rfl⟩ := List.mem_map.mp member
      exact List.cons_ne_nil _ _

/-- A resource's name with its schema. -/
structure NamedSchema where
  name : String
  schema : ResourceSchema

namespace NamedSchema

def lines (entry : NamedSchema) (options : GenerateOptions) : List Line :=
  sourceLines entry.schema entry.name options

def file (entry : NamedSchema) (options : GenerateOptions) : GeneratedFile where
  path := entry.name ++ "_resource_gen.go"
  content := renderLines (entry.lines options) ++ "\n"

/-- Whether a schema is that of a resource. -/
structure Of (resource : Spec.Resource) (entry : NamedSchema) : Prop where
  name : entry.name = resource.name
  built : ResourceSchema.build resource.schema = .ok entry.schema

/-- A resource has no other schema. -/
theorem Of.unique {resource : Spec.Resource} {entry other : NamedSchema} (first : entry.Of resource)
    (second : other.Of resource) : entry = other := by
  obtain ⟨name, schema⟩ := entry
  obtain ⟨otherName, otherSchema⟩ := other
  have names : name = otherName := first.name.trans second.name.symm
  have schemas : schema = otherSchema := Except.ok.inj (first.built.symm.trans second.built)
  rw [names, schemas]

/-- A resource builds to one schema at most. -/
theorem forall₂_unique {resources : List Spec.Resource} {entries others : List NamedSchema}
    (first : List.Forall₂ Of resources entries) (second : List.Forall₂ Of resources others) :
    entries = others := by
  induction first generalizing others with
  | nil =>
    cases second
    rfl
  | cons head _ ih =>
    cases second with
    | cons other rest => rw [head.unique other, ih rest]

theorem exists_resource {resources : List Spec.Resource} {entries : List NamedSchema}
    (of : List.Forall₂ Of resources entries) {entry : NamedSchema} (member : entry ∈ entries) :
    ∃ resource ∈ resources, entry.Of resource := by
  induction of with
  | nil => exact absurd member List.not_mem_nil
  | cons head _ ih =>
    rcases List.mem_cons.mp member with rfl | member
    · exact ⟨_, List.mem_cons_self .., head⟩
    · obtain ⟨resource, listed, of⟩ := ih member
      exact ⟨resource, List.mem_cons_of_mem _ listed, of⟩

end NamedSchema

/-- A file is made for every resource whose schema can be built, from the lines for the schema. -/
theorem generateResource_eq_ok_iff_of {resource : Spec.Resource} {file : GeneratedFile} :
    generateResource resource options = .ok file ↔
      ∃ entry : NamedSchema, entry.Of resource ∧ file = entry.file options := by
  rw [generateResource, Schema.bind_eq_ok]
  constructor
  · rintro ⟨schema, built, made⟩
    cases made
    refine ⟨⟨resource.name, schema⟩, ⟨rfl, built⟩, ?_⟩
    rw [NamedSchema.file, NamedSchema.lines, ← sourceFile_sections]
  · rintro ⟨⟨name, schema⟩, ⟨rfl, built⟩, rfl⟩
    refine ⟨schema, built, ?_⟩
    rw [NamedSchema.file, NamedSchema.lines, ← sourceFile_sections]
    rfl

/-- All items succeed, and the results are in their order. -/
theorem mapM_eq_ok {ε α β : Type} {step : α → Except ε β} {items : List α}
    {results : List β} (mapped : items.mapM step = .ok results) :
    List.Forall₂ (fun item result => step item = .ok result) items results := by
  induction items generalizing results with
  | nil =>
    cases mapped
    exact .nil
  | cons item rest ih =>
    rw [List.mapM_cons, Schema.bind_eq_ok] at mapped
    obtain ⟨first, ofFirst, mapped⟩ := mapped
    obtain ⟨others, ofRest, mapped⟩ := Schema.bind_eq_ok.mp mapped
    cases mapped
    exact .cons ofFirst (ih ofRest)

/-- A run that succeeds makes a file from the schema of each resource, in their order. -/
theorem generate_eq_ok {spec : Specification} {files : List GeneratedFile}
    (generated : generate spec options = .ok files) :
    ∃ entries : List NamedSchema, List.Forall₂ NamedSchema.Of spec.resources entries ∧
      files = entries.map (·.file options) := by
  have made := mapM_eq_ok generated
  clear generated
  generalize spec.resources = resources at made
  induction made with
  | nil => exact ⟨[], .nil, rfl⟩
  | cons ofFirst _ ih =>
    obtain ⟨entry, of, rfl⟩ := generateResource_eq_ok_iff_of.mp ofFirst
    obtain ⟨entries, ofRest, rfl⟩ := ih
    exact ⟨entry :: entries, .cons of ofRest, rfl⟩

/-! ## Structs -/

open Text (isWord isWord_append isWord_pascalCase notMem_of_isWord)

private theorem no_space {text : String} (word : isWord text = true) : ' ' ∉ text.toList :=
  notMem_of_isWord word rfl

/-- The first word of the declaration of a field is the name of the field. -/
private theorem firstWord_field {name : String} (word : isWord name = true) (type tag : String) :
    firstWord (name ++ " " ++ type ++ " " ++ tag) = name := by
  have split : name ++ " " ++ type ++ " " ++ tag = name ++ " " ++ (type ++ " " ++ tag) := by
    simp only [String.append_assoc]
  rw [split, Source.firstWord_append (no_space word)]

/-- A line by itself that starts with another letter than `type` declares no struct. -/
private theorem structs_singleton (start : String) (head : start.toList.head? ≠ some 't')
    (nonempty : start.toList ≠ []) (text : String) : structs [line (start ++ text)] = [] := by
  apply Source.structs_eq_nil
  intro inner member
  rw [List.mem_singleton.mp member]
  apply typeName?_of_head?
  rwa [String.toList_append, List.head?_append_of_ne_nil _ nonempty]

/-- A struct behind a line that checks which interface it implements. -/
private def checkedStruct (interface name : String) (fields : List String) : List Line :=
  paragraphs
    [[line ("var _ " ++ (interface ++ Source.emptyComposite name))],
     block ("type " ++ name ++ " struct") (fields.map line)]

private theorem structs_checkedStruct {name : String} (word : isWord name = true)
    (interface : String) (fields : List String) :
    structs (checkedStruct interface name fields) = [{ name, fields := fields.map firstWord }] := by
  have var := structs_singleton "var _ " nofun nofun (interface ++ Source.emptyComposite name)
  rw [checkedStruct, structs_paragraphs, List.flatMap_cons, var, List.flatMap_singleton,
    structs_struct (no_space word), List.nil_append]

namespace Schema

@[simp] theorem isWord_typeName (type : ValueType) : isWord type.typeName = true := by
  rw [ValueType.typeName, Source.typeName, isWord_append, isWord_pascalCase]
  rfl

@[simp] theorem isWord_valueName (type : ValueType) : isWord type.valueName = true := by
  rw [ValueType.valueName, Source.valueName, isWord_append, isWord_pascalCase]
  rfl

def ValueField.text (field : ValueField) : String :=
  field.goName ++ " " ++ field.valueType ++ " " ++ fieldTag field.name

private theorem ValueField.firstWord_text (field : ValueField) :
    firstWord field.text = field.goName := by
  have word : isWord field.goName = true := isWord_pascalCase field.name
  exact firstWord_field word _ _

namespace ValueType

/-- The structs of a generated type: the type, and the value with its fields and its state. -/
def structs (type : ValueType) : List Struct :=
  [{ name := type.typeName, fields := ["basetypes.ObjectType"] },
   { name := type.valueName, fields := type.fields.map ValueField.goName ++ ["state"] }]

private theorem typeDeclaration_eq (type : ValueType) :
    type.typeDeclaration =
      checkedStruct "basetypes.ObjectTypable = " type.typeName ["basetypes.ObjectType"] := by
  have var : "var _ basetypes.ObjectTypable = " ++ Source.emptyComposite type.typeName =
      "var _ " ++ ("basetypes.ObjectTypable = " ++ Source.emptyComposite type.typeName) := by
    rw [← String.append_assoc]
    rfl
  rw [typeDeclaration, var]
  rfl

private theorem valueDeclaration_eq (type : ValueType) :
    type.valueDeclaration =
      checkedStruct "basetypes.ObjectValuable = " type.valueName
        (type.fields.map ValueField.text ++ ["state attr.ValueState"]) := by
  have var : "var _ basetypes.ObjectValuable = " ++ Source.emptyComposite type.valueName =
      "var _ " ++ ("basetypes.ObjectValuable = " ++ Source.emptyComposite type.valueName) := by
    rw [← String.append_assoc]
    rfl
  rw [valueDeclaration, var, checkedStruct, List.map_append, List.map_map]
  rfl

private theorem structs_typeDeclaration (type : ValueType) :
    Source.structs type.typeDeclaration =
      [{ name := type.typeName, fields := ["basetypes.ObjectType"] }] := by
  have words : ["basetypes.ObjectType"].map firstWord = ["basetypes.ObjectType"] := by decide
  rw [typeDeclaration_eq, structs_checkedStruct (isWord_typeName type), words]

private theorem structs_valueDeclaration (type : ValueType) :
    Source.structs type.valueDeclaration =
      [{ name := type.valueName, fields := type.fields.map ValueField.goName ++ ["state"] }] := by
  have words : (type.fields.map ValueField.text ++ ["state attr.ValueState"]).map firstWord =
      type.fields.map ValueField.goName ++ ["state"] := by
    have state : firstWord "state attr.ValueState" = "state" := by decide
    rw [List.map_append, List.map_map, List.map_singleton, state]
    exact congrArg (· ++ _) (List.map_congr_left fun field _ => field.firstWord_text)
  rw [valueDeclaration_eq, structs_checkedStruct (isWord_valueName type), words]

/-- The lines of a generated type declare two structs. -/
theorem structs_lines (type : ValueType) : Source.structs type.lines = type.structs := by
  simp only [lines, structs_paragraphs, List.flatMap_cons, List.flatMap_nil,
    structs_typeDeclaration, structs_valueDeclaration, typeEqual, typeString, valueFromObject,
    valueFromTerraform, zeroValue, stateConstructor, knownConstructor, mustConstructor,
    toTerraformValue, stateTest, valueString, toObjectValue, valueEqual, valueTypeMethod,
    attributeTypes, typeMethod, valueMethod, structs_function, List.nil_append, List.append_nil,
    structs, List.singleton_append]

end ValueType

/-- The field of a model has the name of the node in Pascal case, whatever its type. -/
theorem Node.name_modelField (name : String) (node : Node) :
    (node.modelField name).name = Text.pascalCase name := by
  cases node with
  | attr node => cases node <;> rfl
  | block node => cases node <;> rfl

namespace ResourceSchema

def modelName (name : String) : String :=
  Text.pascalCase name ++ "Model"

def modelStruct (schema : ResourceSchema) (name : String) : Struct where
  name := modelName name
  fields := schema.children.map (Text.pascalCase ·.1)

/-- The model is the one struct among its lines. -/
theorem structs_modelLines (schema : ResourceSchema) (name : String) :
    structs (schema.modelLines name) = [schema.modelStruct name] := by
  have word : isWord (modelName name) = true := by
    rw [modelName, isWord_append, isWord_pascalCase]
    rfl
  have words : (schema.modelFields.map ModelField.declaration).map firstWord =
      schema.children.map (Text.pascalCase ·.1) := by
    rw [modelFields_eq, List.map_map, List.map_map]
    refine List.map_congr_left fun entry _ => ?_
    have named := entry.2.name_modelField entry.1
    exact named ▸ firstWord_field (named ▸ isWord_pascalCase entry.1) _ _
  have opening : "type " ++ Text.pascalCase name ++ "Model struct" =
      "type " ++ modelName name ++ " struct" := by
    simp only [modelName, String.append_assoc]
    rfl
  rw [modelLines, opening, structs_struct (no_space word), words]
  rfl

end ResourceSchema

end Schema

private theorem structs_pair (pair : ConversionMethods) : structs pair.lines = [] := by
  simp only [ConversionMethods.lines, Conversion.toNativeLines, Conversion.ofNativeLines,
    structs_paragraphs, List.flatMap_cons, List.flatMap_nil, structs_function, List.append_nil]

private theorem structs_header (package : String) (imports : Source.ImportSet) :
    (headerLines package imports).flatMap structs = [] := by
  have comment : structs [line "// Code generated by tfcg. DO NOT EDIT."] = [] := by decide
  have clause := structs_singleton "package " nofun nofun package
  have importing : structs (enclosed "import (" ")" (imports.lines.map line)) = [] :=
    structs_enclosed (by decide) (by decide)
  rw [headerLines, List.flatMap_cons, List.flatMap_cons, List.flatMap_singleton, comment, clause,
    importing]
  rfl

/-- The structs that a file declares: the model, if asked for, and those of the generated types. -/
theorem structs_sourceLines (schema : ResourceSchema) (name : String) (options : GenerateOptions) :
    structs (sourceLines schema name options) =
      (if options.model then [schema.modelStruct name] else []) ++
        schema.valueTypes.flatMap ValueType.structs := by
  have functions : structs [line (schema.function name)] = [] := by
    simp only [ResourceSchema.function, String.append_assoc]
    exact structs_singleton "func " nofun nofun _
  have types : (schema.valueTypes.map ValueType.lines).flatMap structs =
      schema.valueTypes.flatMap ValueType.structs := by
    rw [List.flatMap_map]
    exact List.flatMap_congr fun type _ => type.structs_lines
  have pairs : (schema.methods.map ConversionMethods.lines).flatMap structs = [] := by
    rw [List.flatMap_map]
    exact List.flatMap_eq_nil_iff.mpr fun pair _ => structs_pair pair
  have model : (if options.model then [schema.modelLines name] else []).flatMap structs =
      if options.model then [schema.modelStruct name] else [] := by
    cases options.model with
    | false => rfl
    | true => exact (List.flatMap_singleton ..).trans (schema.structs_modelLines name)
  have rest : (if options.conversions then schema.methods.map ConversionMethods.lines
      else []).flatMap structs = [] := by
    cases options.conversions with
    | false => rfl
    | true => exact pairs
  rw [sourceLines, structs_paragraphs, sectionLines]
  simp only [List.flatMap_append, structs_header, List.flatMap_singleton, functions, model, types,
    rest, List.nil_append, List.append_nil]

/-! ## Methods -/

/-- The name in front of the parameters of a method. -/
def signatureName (signature : String) : String :=
  String.ofList (Source.upTo '(' (signature.toList ++ (" " ++ Source.openBrace).toList))

/-- The name goes up to the first bracket. -/
theorem signatureName_append {method : String} (word : isWord method = true) (rest : String) :
    signatureName (method ++ "(" ++ rest) = method := by
  have split : (method ++ "(" ++ rest).toList ++ (" " ++ Source.openBrace).toList =
      method.toList ++ '(' :: (rest.toList ++ (" " ++ Source.openBrace).toList) := by
    rw [String.append_assoc, String.toList_append, String.toList_append, List.append_assoc]
    rfl
  rw [signatureName, split, Source.upTo_append (notMem_of_isWord word rfl), String.ofList_toList]

/-- A function with a receiver, which `opening` names, is a method. -/
theorem methods_receiver {receiver opening : String} {self : Char}
    (word : isWord receiver = true) (starts : opening.toList = ['(', self, ' '])
    (other : self ≠ ' ') (signature : String) (body : List Line) :
    methods (function (opening ++ receiver ++ ") " ++ signature) body) =
      [{ receiver, name := signatureName signature }] := by
  have closing : ") ".toList = [')', ' '] := rfl
  have split : (opening ++ receiver ++ ") " ++ signature).toList =
      '(' :: ([self] ++ ' ' :: (receiver.toList ++ ')' :: ' ' :: signature.toList)) := by
    simp only [String.toList_append, starts, closing, List.append_assoc, List.cons_append,
      List.nil_append]
  rw [methods_function_of_receiver split (fun member => other (List.mem_singleton.mp member).symm)
    (notMem_of_isWord word rfl), String.ofList_toList, signatureName]

namespace Schema.ValueType

def typeMethods : List String :=
  ["Equal", "String", "ValueFromObject", "ValueFromTerraform", "ValueType"]

/-- The methods of a generated value type, apart from conversions. -/
def valueMethods : List String :=
  ["ToTerraformValue", "IsNull", "IsUnknown", "String", "ToObjectValue", "Equal", "Type",
   "AttributeTypes"]

private theorem methods_typeMethod (type : ValueType) (signature : String) (body : List Line) :
    methods (type.typeMethod signature body) =
      [{ receiver := type.typeName, name := signatureName signature }] :=
  methods_receiver (isWord_typeName type) rfl (by decide) signature body

private theorem methods_valueMethod (type : ValueType) (signature : String) (body : List Line) :
    methods (type.valueMethod signature body) =
      [{ receiver := type.valueName, name := signatureName signature }] :=
  methods_receiver (isWord_valueName type) rfl (by decide) signature body

private theorem methods_constructor (type : ValueType) (suffix rest : String) (body : List Line) :
    methods (function (type.constructor suffix ++ rest) body) = [] := by
  have starts : (type.constructor suffix ++ rest).toList =
      'N' :: ("ew".toList ++ type.valueName.toList ++ suffix.toList ++ rest.toList) := by
    simp only [constructor, String.toList_append, show "New".toList = 'N' :: "ew".toList from rfl,
      List.cons_append]
  exact methods_function_of_head starts (by decide) body

/-- Neither a variable nor a struct is a method. -/
private theorem methods_checkedStruct (interface name : String) (fields : List String) :
    methods (checkedStruct interface name fields) = [] := by
  have var : (line ("var _ " ++ (interface ++ Source.emptyComposite name))).method? = none := by
    apply Source.method?_of_head?
    rw [String.toList_append]
    exact nofun
  have struct : (Line.code 0 ("type " ++ name ++ " struct" ++ " " ++ Source.openBrace)).method? =
      none := by
    apply Source.method?_of_head?
    rw [String.append_assoc, String.append_assoc, String.append_assoc, String.toList_append]
    exact nofun
  rw [checkedStruct, methods_paragraphs, List.flatMap_cons, List.flatMap_singleton,
    Source.methods_block, struct, methods, List.filterMap_cons, var]
  rfl

/-- The lines of a generated type declare these methods and no others. -/
theorem methods_lines (type : ValueType) :
    methods type.lines =
      typeMethods.map (fun name => { receiver := type.typeName, name }) ++
        valueMethods.map fun name => { receiver := type.valueName, name } := by
  have null : methods (type.stateConstructor "Null") = [] := by
    rw [stateConstructor, String.append_assoc]
    exact methods_constructor ..
  have unknown : methods (type.stateConstructor "Unknown") = [] := by
    rw [stateConstructor, String.append_assoc]
    exact methods_constructor ..
  have known : methods type.knownConstructor = [] := by
    simp only [knownConstructor, String.append_assoc]
    exact methods_constructor ..
  have must : methods type.mustConstructor = [] := by
    rw [mustConstructor, String.append_assoc]
    exact methods_constructor ..
  simp only [lines, methods_paragraphs, List.flatMap_cons, List.flatMap_nil,
    typeDeclaration_eq, valueDeclaration_eq, methods_checkedStruct, null, unknown, known, must,
    typeEqual, typeString, valueFromObject, valueFromTerraform, zeroValue, toTerraformValue,
    stateTest, valueString, toObjectValue, valueEqual, valueTypeMethod, attributeTypes,
    methods_typeMethod, methods_valueMethod]
  simp only [typeMethods, valueMethods, List.map_cons, List.map_nil, List.nil_append,
    List.cons_append, signatureName, String.toList_append]
  -- Literals are taken as the characters they are made of, as decoding them is slow.
  repeat rw [String.toList_ofList]
  rfl

end Schema.ValueType

end ProviderCodegen
